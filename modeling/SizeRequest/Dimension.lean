import SizeRequest.OrderedSet
import SizeRequest.Text.Blank

namespace SizeRequest

/-- A dimension of the report; `all` is the wildcard for the supported ones. -/
inductive Dimension
  | sdk
  | abi
  | language
  | screenDensity
  | all
deriving DecidableEq, Repr, Inhabited

namespace Dimension

def values : List Dimension := [sdk, abi, language, screenDensity, all]

def rank : Dimension → Nat
  | sdk => 0
  | abi => 1
  | language => 2
  | screenDensity => 3
  | all => 4

instance : Ord Dimension := ⟨compareOn rank⟩

instance : Std.TransOrd Dimension := inferInstanceAs (Std.TransCmp (compareOn rank))

def name : Dimension → String
  | sdk => "SDK"
  | abi => "ABI"
  | language => "LANGUAGE"
  | screenDensity => "SCREEN_DENSITY"
  | all => "ALL"

def ofName? (name : String) : Option Dimension :=
  values.find? (·.name == name)

def unknownMessage (name : String) : String :=
  s!"unknown dimension '{name}'"

def supported : OrderedSet Dimension := .ofList [sdk, abi, language, screenDensity]

def discarded (requested : OrderedSet Dimension) : List Dimension :=
  if requested.contains all then requested.toList.filter (· != all) else []

/-- A request with the wildcard covers the supported dimensions, any other one stays as it is. -/
def expand (requested : OrderedSet Dimension) : OrderedSet Dimension :=
  if requested.contains all then supported else requested

theorem ofName?_name (d : Dimension) : ofName? d.name = some d := by
  cases d <;> rfl

theorem name_injective : Function.Injective name := by
  intro c d h
  have hc := ofName?_name c
  rw [h, ofName?_name] at hc
  exact (Option.some.inj hc).symm

theorem name_of_ofName? {s : String} {d : Dimension} (h : ofName? s = some d) : d.name = s := by
  have := List.find?_some h
  simpa using this

end Dimension

end SizeRequest
