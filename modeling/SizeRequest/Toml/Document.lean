import SizeRequest.Toml.Reader

namespace SizeRequest.Toml

/-- A document read in part: its root table, and the place of the table that members go to. -/
structure Document where
  root : Members
  here : Place

namespace Document

def change (d : Document) (here : Place) (change : Change) : Except Fault Document :=
  match change .header d.root with
  | .error fault => .error fault
  | .ok root => .ok ⟨root, here⟩

def addMember (d : Document) (place : Place) (key : Key) (value : Span × Node) :
    Except Fault Document :=
  d.change d.here (Members.changeAt false (Members.insert place key value) d.here)

end Document

def endOfLine : Reader Unit := fun s =>
  match skipBlanks s with
  | [] => .ok ((), [])
  | rest =>
    match afterNewline? rest with
    | some rest => .ok ((), rest)
    | none => failAt .unexpectedText rest

def header (d : Document) : Reader Document := fun s =>
  match s with
  | '[' :: '[' :: rest =>
    match dottedKey rest with
    | .error fault => .error fault
    | .ok ((place, key), ']' :: ']' :: rest) =>
      match d.change (place ++ [key]) (Members.appendTable place key (.between s rest)) with
      | .error fault => .error fault
      | .ok d => .ok (d, rest)
    | .ok (_, rest) => failAt .unexpectedText rest
  | _ =>
    match dottedKey (s.drop 1) with
    | .error fault => .error fault
    | .ok ((place, key), ']' :: rest) =>
      match d.change (place ++ [key]) (Members.openTable place key (.between s rest)) with
      | .error fault => .error fault
      | .ok d => .ok (d, rest)
    | .ok (_, rest) => failAt .unexpectedText rest

def line (d : Document) : Reader Document := fun s =>
  match s with
  | '[' :: _ => header d s
  | _ =>
    match member (value deepest) s with
    | .error fault => .error fault
    | .ok ((place, key, v), rest) =>
      match d.addMember place key v with
      | .error fault => .error fault
      | .ok d => .ok (d, rest)

def linesOfDocumentWithin : (budget : Nat) → Document → List Char → Except Fault Document
  | 0, d, _ => .ok d
  | budget + 1, d, s =>
    match skipLines s with
    | [] => .ok d
    | s =>
      match line d s with
      | .error fault => .error fault
      | .ok (d, rest) =>
        match endOfLine rest with
        | .error fault => .error fault
        | .ok (_, rest) => linesOfDocumentWithin budget d rest

/-- The root table of a document. A byte order mark may stand in front. -/
def document (text : List Char) : Except Fault Members :=
  let s := match text with
    | '\ufeff' :: rest => rest
    | _ => text
  (linesOfDocumentWithin (s.length + 1) ⟨[], []⟩ s).map Document.root

end SizeRequest.Toml
