import RecordSearch.Json.Printer

/-!
What a command leaves behind: an exit code, and texts for the two output streams.
-/

namespace RecordSearch.Command

structure Report where
  code : Nat
  /-- For standard output. -/
  out : String
  /-- For standard error. -/
  err : String
  deriving DecidableEq, Repr

namespace Report

def success (out : String) : Report := ⟨0, out, ""⟩

def failure (err : String) : Report := ⟨1, "", err⟩

/-- Arguments that no command takes have a code of their own. -/
def misuse (err : String) : Report := ⟨2, "", err⟩

def errorLine (message : String) : String := "error: " ++ message ++ "\n"

def error (message : String) : Report := failure (errorLine message)

def json (value : Json) : Report := success (value.text ++ "\n")

/-- Puts messages in front of those on standard error. -/
def after (messages : String) (r : Report) : Report := { r with err := messages ++ r.err }

end Report

end RecordSearch.Command
