namespace SizeRequest

structure Path where
  text : String
deriving DecidableEq, Repr, Inhabited

namespace Path

def parts (text : List Char) : List (List Char) :=
  (text.splitOn '/').filter (!·.isEmpty)

def isAbsolute (p : Path) : Bool := p.text.toList.head? == some '/'

/-- The components of a path: a dot counts only as the first part of a relative path. -/
def components (p : Path) : List (List Char) :=
  match parts p.text.toList with
  | [] => []
  | first :: rest =>
    (if first != ['.'] || !p.isAbsolute then [first] else []) ++ rest.filter (· != ['.'])

def same (p q : Path) : Bool :=
  p.isAbsolute == q.isAbsolute && p.components == q.components

def name? (p : Path) : Option (List Char) :=
  match p.components.getLast? with
  | none => none
  | some last => if last == ['.'] || last == ['.', '.'] then none else some last

/-- What follows the last dot of a name, when something stands before that dot. -/
def extensionOf (name : List Char) : Option (List Char) :=
  let back := name.reverse
  let stem := (back.dropWhile (· != '.')).drop 1
  if stem.isEmpty then none else some (back.takeWhile (· != '.')).reverse

def extension? (p : Path) : Option (List Char) := p.name?.bind extensionOf

end Path

end SizeRequest
