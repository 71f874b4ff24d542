import SizeRequest.Program

namespace SizeRequest.Main

def programName : String := "apksize"

def logVariable : String := "APKSIZE_LOG"

def ancestors (path : String) : List String :=
  let pieces := path.toList.splitOn '/'
  (List.range pieces.length).map fun n =>
    String.ofList (List.intercalate ['/'] (pieces.take (n + 1)))

def directoryCode : UInt32 := 21

def circleCode : UInt32 := -40

/-- Takes up what stands at a path. Of what may not be read only the ends of the paths count. -/
def takeUp (ends : List String) (t : FileTree) (path : String) : IO FileTree := do
  if path.isEmpty then
    return t
  try
    return t.add path (.file (← IO.FS.readBinFile path))
  catch
    | .inappropriateType _ code _ =>
      return if code == directoryCode then t.add path .directory else t
    | .invalidArgument _ code _ =>
      return if code == circleCode then
        t.add path (.link (String.ofList ((t.spelledPlace path).getLast?.getD [])))
      else t
    | .permissionDenied _ _ _ => return if ends.contains path then t.add path .locked else t
    | _ => return t

def snapshot (paths : List String) : IO FileTree :=
  (paths.flatMap ancestors).foldlM (takeUp paths) .scratch

def sinkFault (error : IO.Error) : SinkFault :=
  match error with
  | .resourceVanished _ _ => .closed
  | .permissionDenied _ _ _ => .denied
  | other => .other (toString other)

/-- Writes the output of a run; where that fails, the result is that of a run whose output takes
nothing. -/
def print (run : Sink → Result) : IO Result := do
  let result := run {}
  let output ← IO.getStdout
  try
    output.write ⟨result.output.toArray⟩
    output.flush
    return result
  catch error =>
    return run { room := some 0, fault := sinkFault error }

def start (arguments : List String) : IO UInt32 := do
  let arguments := programName :: arguments
  let files ← snapshot (Program.paths arguments)
  let directives := (← IO.getEnv logVariable).getD ""
  let result ← print (Program.run files directives arguments)
  (← IO.getStderr).putStr result.errors
  return result.exitCode.toUInt32

end SizeRequest.Main

def main (arguments : List String) : IO UInt32 := SizeRequest.Main.start arguments
