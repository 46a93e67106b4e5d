import RecordSearch.Json.Number

/-!
Writing JSON with an indent of two spaces: one item or entry to a line, empty containers as `[]`
and `\x7b\x7d`, every character above the controls as it is.
-/

namespace RecordSearch.Json

/-! ## Strings -/

def hexDigit (n : Nat) : Char := (Nat.digitChar n)

def escaped (c : Char) : List Char :=
  match c with
  | '"' => ['\\', '"']
  | '\\' => ['\\', '\\']
  | '\x08' => ['\\', 'b']
  | '\x0c' => ['\\', 'f']
  | '\n' => ['\\', 'n']
  | '\r' => ['\\', 'r']
  | '\t' => ['\\', 't']
  | _ =>
    if c.toNat < 0x20 then
      ['\\', 'u', '0', '0', hexDigit (c.toNat / 16), hexDigit (c.toNat % 16)]
    else [c]

def stringText (s : String) : String :=
  String.ofList ('"' :: s.toList.flatMap escaped ++ ['"'])

/-! ## Values -/

def newline (depth : Nat) : String := "\n" ++ String.ofList (List.replicate (2 * depth) ' ')

mutual

def pretty (depth : Nat) : Json → String
  | null => "null"
  | bool true => "true"
  | bool false => "false"
  | number n => n.text
  | string s => stringText s
  | array [] => "[]"
  | array (x :: xs) =>
    "[" ++ newline (depth + 1) ++ pretty (depth + 1) x ++ prettyItems (depth + 1) xs ++
      newline depth ++ "]"
  | object [] => "\x7b\x7d"
  | object ((k, v) :: es) =>
    "\x7b" ++ newline (depth + 1) ++ stringText k ++ ": " ++ pretty (depth + 1) v ++
      prettyEntries (depth + 1) es ++ newline depth ++ "\x7d"

def prettyItems (depth : Nat) : List Json → String
  | [] => ""
  | x :: xs => "," ++ newline depth ++ pretty depth x ++ prettyItems depth xs

def prettyEntries (depth : Nat) : List (String × Json) → String
  | [] => ""
  | (k, v) :: es =>
    "," ++ newline depth ++ stringText k ++ ": " ++ pretty depth v ++ prettyEntries depth es

end

/-- The whole text of a value. -/
def text (v : Json) : String := pretty 0 v

example : text (array [object [("a", string "é\n")], array []]) =
    "[\n  \x7b\n    \"a\": \"é\\n\"\n  \x7d,\n  []\n]" := by decide +kernel

end RecordSearch.Json
