import SizeRequest.Toml.Fault
import SizeRequest.Toml.Scalar

namespace SizeRequest.Toml

structure Key where
  name : String
  span : Span

/-- How a table came about: under a header of its own, by a header or a dotted key that goes
through it, or between braces. -/
inductive Origin
  | header
  | implied
  | dotted
  | braces
deriving DecidableEq

inductive Node
  | scalar (value : Scalar)
  | array (items : List (Span × Node)) (ofTables : Bool)
  | table (origin : Origin) (members : List (Key × Span × Node))

abbrev Members := List (Key × Span × Node)

abbrev Place := List Key

abbrev Change := Origin → Members → Except Fault Members

namespace Members

def valueOf? (members : Members) (name : String) : Option (Span × Node) :=
  (List.find? (·.1.name == name) members).map (·.2)

def setValue (members : Members) (name : String) (value : Span × Node) : Members :=
  members.map fun m => if m.1.name == name then (m.1, value) else m

def without (members : Members) (name : String) : Members :=
  members.filter (·.1.name != name)

def failAtKey {α : Type} (cause : Malformation) (key : Key) : Except Fault α :=
  .error (.malformed cause key.span)

/-- Changes the table at a place. Missing tables on the way are made; of an array of tables the
last one is meant. A dotted key may not lead through a table that is complete. -/
def changeAt (isDotted : Bool) (change : Change) : Place → Change
  | [], origin, members => change origin members
  | key :: place, _, members =>
    match valueOf? members key.name with
    | none =>
      let origin := if isDotted then Origin.dotted else .implied
      match changeAt isDotted change place origin [] with
      | .error fault => .error fault
      | .ok inner => .ok (members ++ [(key, key.span, .table origin inner)])
    | some (span, .table origin inner) =>
      if isDotted && (origin == .header || origin == .braces) then failAtKey .duplicateKey key
      else if origin == .braces then failAtKey .notATable key
      else
        match changeAt isDotted change place origin inner with
        | .error fault => .error fault
        | .ok inner => .ok (setValue members key.name (span, .table origin inner))
    | some (span, .array items true) =>
      match items.getLast? with
      | some (last, .table origin inner) =>
        match changeAt isDotted change place origin inner with
        | .error fault => .error fault
        | .ok inner =>
          let items := items.dropLast ++ [(last, .table origin inner)]
          .ok (setValue members key.name (span, .array items true))
      | _ => failAtKey .notATable key
    | some _ => failAtKey .notATable key

/-- Adds a member whose key is new. The table that a dotted key leads to has to come from dotted
keys itself. -/
def insert (place : Place) (key : Key) (value : Span × Node) : Change :=
  changeAt true (fun origin members =>
    if (origin == .dotted) == place.isEmpty then failAtKey .duplicateKey key
    else if (valueOf? members key.name).isSome then failAtKey .duplicateKey key
    else .ok (members ++ [(key, value)])) place

/-- Opens the table of a header. A table that other headers implied moves to the end. -/
def openTable (place : Place) (key : Key) (span : Span) : Change :=
  changeAt false (fun _ members =>
    match valueOf? members key.name with
    | none => .ok (members ++ [(key, span, .table .header [])])
    | some (_, .table .implied inner) =>
      .ok (without members key.name ++ [(key, span, .table .header inner)])
    | some _ => failAtKey .duplicateKey key) place

def appendTable (place : Place) (key : Key) (span : Span) : Change :=
  changeAt false (fun _ members =>
    match valueOf? members key.name with
    | none => .ok (members ++ [(key, span, .array [(span, .table .header [])] true)])
    | some (first, .array items true) =>
      .ok (setValue members key.name (first, .array (items ++ [(span, .table .header [])]) true))
    | some _ => failAtKey .duplicateKey key) place

end Members

end SizeRequest.Toml
