import SizeRequest.Flag

namespace SizeRequest

/-- The flags that were supplied, and the names that were asked for so far. -/
structure Flags where
  supplied : List Flag
  asked : List String := []

namespace Flags

/-- The value of the flag of a name: absent, bare, or a text. -/
def value? (flags : Flags) (name : String) : Option (Option String) :=
  (flags.supplied.find? (·.name == name)).map Flag.value

def ask (flags : Flags) (name : String) : Flags :=
  if flags.asked.contains name then flags else { flags with asked := flags.asked ++ [name] }

def unasked (flags : Flags) : List String :=
  (flags.supplied.map Flag.name).filter fun name => !flags.asked.contains name

def checkAllAsked (flags : Flags) : Except FlagFault Unit :=
  match flags.unasked with
  | [] => .ok ()
  | names => .error (.unrecognized names)

end Flags

/-- A step that reads flags: it may note names, log events and stop with a fault. -/
def Reading (α : Type) := Flags → Flags × Logged FlagFault α

namespace Reading

variable {α β : Type}

def done (a : α) : Reading α := fun flags => (flags, .done a)

def andThen (x : Reading α) (next : α → Reading β) : Reading β := fun flags =>
  match x flags with
  | (flags, ⟨events, .error fault⟩) => (flags, ⟨events, .error fault⟩)
  | (flags, ⟨events, .ok a⟩) =>
    let (flags, rest) := next a flags
    (flags, ⟨events ++ rest.events, rest.outcome⟩)

def checkAllAsked : Reading Unit := fun flags => (flags, .silent flags.checkAllAsked)

end Reading

structure KnownFlag (α : Type) where
  name : String
  convert : Option String → Except ValueFault α

namespace KnownFlag

variable {α : Type}

def read (flag : KnownFlag α) : Reading (Option α) := fun flags =>
  (flags.ask flag.name,
    match flags.value? flag.name with
    | none => .done none
    | some value =>
      match flag.convert value with
      | .error fault => .fail (.invalidValue flag.name fault)
      | .ok a => ⟨[.flagExtracted flag.name], .ok (some a)⟩)

def readRequired (flag : KnownFlag α) : Reading α :=
  flag.read.andThen fun
    | some a => .done a
    | none => fun flags => (flags, .fail (.missing flag.name))

def debugText (flag : KnownFlag α) : String :=
  "Flag \x7b name: " ++ Text.quoted flag.name ++ " \x7d"

def withValue (name : String) (convert : String → Except ValueFault α) : KnownFlag α where
  name := name
  convert
    | none => .error .required
    | some text => convert text

def path (name : String) : KnownFlag Path :=
  withValue name fun text => if text.isEmpty then .error .emptyPath else .ok ⟨text⟩

def boolean (name : String) : KnownFlag Bool where
  name := name
  convert
    | none => .ok true
    | some text =>
      if Text.sameIgnoringCase text "true" then .ok true
      else if Text.sameIgnoringCase text "false" then .ok false
      else .error (.notBoolean text)

def textSet (name : String) : KnownFlag (OrderedSet String) :=
  withValue name fun text => .ok (.ofList (Text.items text))

def members (parse : String → Option α) : List String → Except ValueFault (List α)
  | [] => .ok []
  | text :: rest =>
    match parse text with
    | none => .error (.unknownMember text)
    | some a => (members parse rest).map (a :: ·)

def memberSet [Ord α] [Std.TransOrd α] (name : String) (parse : String → Option α) :
    KnownFlag (OrderedSet α) :=
  withValue name fun text => (members parse (Text.items text)).map .ofList

end KnownFlag

def digitsValue? (digits : List Char) : Option Nat :=
  if digits.isEmpty || !digits.all Char.isDigit then none
  else some (digits.foldl (fun n c => 10 * n + (c.toNat - '0'.toNat)) 0)

/-- A number below 256, written in decimal digits after at most one plus sign. -/
def byteOfText? (text : String) : Option Nat :=
  let digits := match text.toList with
    | '+' :: rest => rest
    | cs => cs
  (digitsValue? digits).filter (· < 256)

end SizeRequest
