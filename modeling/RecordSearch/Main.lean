import RecordSearch.Command.Run

/-!
The program on a real system: each step of a command is carried out on the file system and the
standard streams.
-/

namespace RecordSearch

def fileError : IO.Error → FileError
  | .noFileOrDirectory _ _ _ => .notFound
  | .inappropriateType _ code _ => if code = 20 then .notDirectory else .isDirectory
  | .invalidArgument _ code details => if code = 36 then .tooLong else .other details
  | e => .other (toString e)

def succeeds (action : IO Unit) : IO Bool := do
  try
    action
    return true
  catch _ => return false

def attempt {α : Type} (action : IO α) : IO (Except FileError α) := do
  try
    return .ok (← action)
  catch e => return .error (fileError e)

def openFile (p : String) : IO Unit := do
  let _ ← IO.FS.Handle.mk p .read

/-- A directory can be opened but not read. -/
def readStart (p : String) : IO Unit := do
  let h ← IO.FS.Handle.mk p .read
  let _ ← h.read 1

def Program.execute {α : Type} : Program α → IO α
  | .done a => return a
  | .isFile p next => do (next (← succeeds (readStart p))).execute
  | .isThere p next => do (next (← succeeds (openFile p))).execute
  | .readFile p next => do (next (← attempt (IO.FS.readFile p))).execute
  | .readInput next => do (next (← (← IO.getStdin).readToEnd)).execute
  | .writeFile p content next => do (next (← attempt (IO.FS.writeFile p content))).execute

end RecordSearch

open RecordSearch in
def main (args : List String) : IO UInt32 := do
  let home := (← IO.getEnv "HOME").getD ""
  let cwd := (← IO.currentDir).toString
  let report ← (Command.run home cwd args).execute
  IO.print report.out
  IO.eprint report.err
  return UInt32.ofNat report.code
