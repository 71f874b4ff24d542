import SizeRequest.FileTree
import SizeRequest.Log.Logged

namespace SizeRequest

inductive FileFault
  | notFound (path : Path)
  | notAFile (path : Path)
  | notReadable (path : Path)
deriving DecidableEq

namespace FileFault

def message : FileFault → String
  | notFound path => s!"File '{path.text}' was not found."
  | notAFile path => s!"File '{path.text}' is a directory, expected a file."
  | notReadable path => s!"File '{path.text}' is not readable."

def same : FileFault → FileFault → Bool
  | notFound p, notFound q => p.same q
  | notAFile p, notAFile q => p.same q
  | notReadable p, notReadable q => p.same q
  | _, _ => false

end FileFault

namespace FileTree

/-- What a path leads to has to be there, must not be a directory, and may not be locked. -/
def checkFile (t : FileTree) (path : Path) : Except FileFault Unit :=
  match t.locate path with
  | .error .missing => .error (.notFound path)
  | .error _ => .error (.notReadable path)
  | .ok .directory => .error (.notAFile path)
  | .ok .locked => .error (.notReadable path)
  | .ok _ => .ok ()

def check (t : FileTree) (path : Path) : Logged FileFault Unit :=
  (Logged.silent (t.checkFile path)).andThen fun _ => .log (.fileReadable path)

end FileTree

end SizeRequest
