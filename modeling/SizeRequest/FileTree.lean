import SizeRequest.Path
import SizeRequest.Text.Digit

namespace SizeRequest

/-- What stands at a place in the tree. A locked file is there but may not be read. -/
inductive Entry
  | file (contents : ByteArray)
  | locked
  | directory
  | link (target : String)
deriving Inhabited

inductive AccessFault
  | missing
  | denied
  | notDirectory
  | isDirectory
  | tooManyLinks
  | nameTooLong
  | nulInName
  | notText
deriving DecidableEq, Repr

namespace AccessFault

def message : AccessFault → String
  | missing => "No such file or directory (os error 2)"
  | denied => "Permission denied (os error 13)"
  | notDirectory => "Not a directory (os error 20)"
  | isDirectory => "Is a directory (os error 21)"
  | nameTooLong => "File name too long (os error 36)"
  | tooManyLinks => "Too many levels of symbolic links (os error 40)"
  | nulInName => "file name contained an unexpected NUL byte"
  | notText => "stream did not contain valid UTF-8"

end AccessFault

abbrev Place := List (List Char)

/-- The entries below the root, and the place from which relative paths start. -/
structure FileTree where
  entries : List (Place × Entry)
  current : Place
deriving Inhabited

namespace FileTree

def entry? (t : FileTree) (place : Place) : Option Entry :=
  if place.isEmpty then some .directory else t.entries.lookup place

def addDirectories (t : FileTree) (place : Place) : FileTree :=
  ((List.range place.length).map fun n => place.take (n + 1)).foldl
    (fun t p =>
      if (t.entry? p).isSome then t else { t with entries := (p, .directory) :: t.entries })
    t

def start (text : List Char) (base : Place) : Place :=
  if text.head? == some '/' then [] else base

def spelledPlace (t : FileTree) (path : String) : Place :=
  (Path.parts path.toList).foldl
    (fun place name =>
      if name == ['.'] then place
      else if name == ['.', '.'] then place.dropLast
      else place ++ [name])
    (start path.toList t.current)

def add (t : FileTree) (path : String) (e : Entry) : FileTree :=
  let place := t.spelledPlace path
  let t := t.addDirectories place.dropLast
  { t with entries := (place, e) :: t.entries.filter (·.1 != place) }

def scratch : FileTree :=
  let null : Place := ["dev".toList, "null".toList]
  let t : FileTree := ⟨[(null, .file .empty)], ["scratch".toList, "work".toList]⟩
  (t.addDirectories null.dropLast).addDirectories t.current

def longestName : Nat := 255

def longestPath : Nat := 4095

def mostLinks : Nat := 40

/-- Where following a path stops: at an entry, or at a link with the steps still to go. -/
inductive Stop
  | arrived (place : Place)
  | atLink (base : Place) (target : String) (rest : List (List Char))

/-- The steps of a path; a slash at the end asks for a directory, as a dot does. -/
def steps (text : List Char) : List (List Char) :=
  Path.parts text ++ if text.getLast? == some '/' then [['.']] else []

def descend (t : FileTree) (base : Place) : List (List Char) → Except AccessFault Stop
  | [] => .ok (.arrived base)
  | step :: rest =>
    match t.entry? base with
    | some .directory =>
      if step == ['.'] then descend t base rest
      else if step == ['.', '.'] then descend t base.dropLast rest
      else if longestName < Text.byteCount step then .error .nameTooLong
      else
        match t.entry? (base ++ [step]) with
        | none => .error .missing
        | some (.link target) => .ok (.atLink base target rest)
        | some _ => descend t (base ++ [step]) rest
    | _ => .error .notDirectory

def follow (t : FileTree) : Nat → Place → List (List Char) → Except AccessFault Place
  | links, base, rest =>
    match t.descend base rest with
    | .error fault => .error fault
    | .ok (.arrived place) => .ok place
    | .ok (.atLink base target rest) =>
      match links with
      | 0 => .error .tooManyLinks
      | links + 1 => t.follow links (start target.toList base) (steps target.toList ++ rest)

def place (t : FileTree) (p : Path) : Except AccessFault Place :=
  let text := p.text.toList
  if text.contains '\x00' then .error .nulInName
  else if text.isEmpty then .error .missing
  else if longestPath < Text.byteCount text then .error .nameTooLong
  else t.follow mostLinks (start text t.current) (steps text)

def locate (t : FileTree) (p : Path) : Except AccessFault Entry :=
  match t.place p with
  | .error fault => .error fault
  | .ok place =>
    match t.entry? place with
    | none => .error .missing
    | some e => .ok e

def readText (t : FileTree) (p : Path) : Except AccessFault String :=
  match t.locate p with
  | .error fault => .error fault
  | .ok (.file contents) =>
    match String.fromUTF8? contents with
    | some text => .ok text
    | none => .error .notText
  | .ok .locked => .error .denied
  | .ok _ => .error .isDirectory

end FileTree

end SizeRequest
