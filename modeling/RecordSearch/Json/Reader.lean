import RecordSearch.Json.Number

/-!
Reading JSON text, strictly: one value with blanks around it and nothing else. The text is cut into
tokens (`tokens?`), and the tokens drive a machine that keeps the containers still open, innermost
first (`Machine.step?`). Containers nest less than `depthLimit` deep.
-/

namespace RecordSearch.Json

open RecordSearch.Text

/-! ## Strings -/

/-- What one character or escape of a string stands for: a character, or half of one. -/
inductive StringUnit where
  | char (c : Char)
  | high (n : Nat)
  | low (n : Nat)
  deriving DecidableEq, Repr

def unitOfCode (n : Nat) : StringUnit :=
  if 0xD800 ≤ n ∧ n < 0xDC00 then .high (n - 0xD800)
  else if 0xDC00 ≤ n ∧ n < 0xE000 then .low (n - 0xDC00)
  else .char (Char.ofNat n)

def simpleEscape? (c : Char) : Option Char :=
  match c with
  | '"' => some '"'
  | '\\' => some '\\'
  | '/' => some '/'
  | 'b' => some '\x08'
  | 'f' => some '\x0c'
  | 'n' => some '\n'
  | 'r' => some '\r'
  | 't' => some '\t'
  | _ => none

/-- The units up to the closing quote, and the text after it. -/
def stringUnits? : List Char → Option (List StringUnit × List Char)
  | [] => none
  | '"' :: rest => some ([], rest)
  | '\\' :: 'u' :: a :: b :: c :: d :: rest => do
    let n ← hexNumber? [a, b, c, d]
    let (us, rest) ← stringUnits? rest
    some (unitOfCode n :: us, rest)
  | '\\' :: c :: rest => do
    let e ← simpleEscape? c
    let (us, rest) ← stringUnits? rest
    some (.char e :: us, rest)
  | c :: rest =>
    if c = '\\' || c.toNat < 0x20 then none
    else (stringUnits? rest).map fun (us, rest) => (.char c :: us, rest)

/-- A high half counts only with a low half right after it. -/
def joinUnits? : List StringUnit → Option (List Char)
  | [] => some []
  | .char c :: us => (joinUnits? us).map (c :: ·)
  | .high h :: .low l :: us => (joinUnits? us).map (Char.ofNat (0x10000 + h * 0x400 + l) :: ·)
  | _ => none

def readString? (cs : List Char) : Option (String × List Char) := do
  let (us, rest) ← stringUnits? cs
  let text ← joinUnits? us
  some (String.ofList text, rest)

/-! ## Tokens -/

inductive Token where
  | openArray
  | closeArray
  | openObject
  | closeObject
  | colon
  | comma
  | scalar (value : Json)
  deriving DecidableEq, Repr

def isSpace (c : Char) : Bool := c = ' ' || c = '\t' || c = '\n' || c = '\r'

def isNumberChar (c : Char) : Bool :=
  c.isDigit || c = '-' || c = '+' || c = '.' || c = 'e' || c = 'E'

/-- The token that `c` begins, given the text after `c`. -/
def token? (c : Char) (rest : List Char) : Option (Token × List Char) :=
  match c with
  | '[' => some (.openArray, rest)
  | ']' => some (.closeArray, rest)
  | '{' => some (.openObject, rest)
  | '}' => some (.closeObject, rest)
  | ':' => some (.colon, rest)
  | ',' => some (.comma, rest)
  | '"' => (readString? rest).map fun (s, rest) => (.scalar (string s), rest)
  | _ =>
    if isNumberChar c && c ≠ 'e' && c ≠ 'E' then
      (Number.read? (c :: rest.takeWhile isNumberChar)).map fun n =>
        (.scalar (number n), rest.dropWhile isNumberChar)
    else
      let word := c :: rest.takeWhile Char.isAlpha
      let rest := rest.dropWhile Char.isAlpha
      if word = "null".toList then some (.scalar null, rest)
      else if word = "true".toList then some (.scalar (bool true), rest)
      else if word = "false".toList then some (.scalar (bool false), rest)
      else none

/-- `fuel` bounds the number of characters that begin a token or are skipped. -/
def tokensWithin? : Nat → List Char → Option (List Token)
  | _, [] => some []
  | 0, _ :: _ => none
  | fuel + 1, c :: rest =>
    if isSpace c then tokensWithin? fuel rest
    else do
      let (t, rest) ← token? c rest
      let ts ← tokensWithin? fuel rest
      some (t :: ts)

/-- Every token takes up a character, so the length of the text is enough fuel. -/
def tokens? (cs : List Char) : Option (List Token) := tokensWithin? cs.length cs

/-! ## The machine -/

/-- An open container: its items, the last first, or its entries and the key in hand. -/
inductive Frame where
  | array (items : List Json)
  | object (entries : List (String × Json)) (key : String)
  deriving DecidableEq, Repr

inductive Phase where
  /-- A value has to follow. -/
  | value
  /-- A value or the end of the array has to follow. -/
  | firstItem
  /-- A key has to follow; `empty` allows the end of the object. -/
  | key (entries : List (String × Json)) (empty : Bool)
  /-- The colon after a key has to follow. -/
  | colon
  /-- A value has ended. -/
  | ended (value : Json)
  deriving DecidableEq, Repr

structure Machine where
  frames : List Frame
  phase : Phase
  deriving DecidableEq, Repr

def depthLimit : Nat := 128

namespace Machine

def start : Machine := ⟨[], .value⟩

/-- Opens a container whose text has begun, unless `frames` are too many already. -/
def open? (frames : List Frame) (f : Frame) (phase : Phase) : Option Machine :=
  if frames.length + 1 < depthLimit then some ⟨f :: frames, phase⟩ else none

def begin? (frames : List Frame) : Token → Option Machine
  | .scalar v => some ⟨frames, .ended v⟩
  | .openArray => open? frames (.array []) .firstItem
  | .openObject => open? frames (.object [] "") (.key [] true)
  | _ => none

def step? (m : Machine) (t : Token) : Option Machine :=
  match m.phase, t, m.frames with
  | .firstItem, .closeArray, .array _ :: frames => some ⟨frames, .ended (.array [])⟩
  | .value, t, frames | .firstItem, t, frames => begin? frames t
  | .key _ true, .closeObject, .object _ _ :: frames => some ⟨frames, .ended (.object [])⟩
  | .key entries _, .scalar (.string k), .object _ _ :: frames =>
    some ⟨.object entries k :: frames, .colon⟩
  | .colon, .colon, frames => some ⟨frames, .value⟩
  | .ended v, .comma, .array items :: frames => some ⟨.array (v :: items) :: frames, .value⟩
  | .ended v, .closeArray, .array items :: frames =>
    some ⟨frames, .ended (.array (v :: items).reverse)⟩
  | .ended v, .comma, .object entries k :: frames =>
    some ⟨.object entries k :: frames, .key (put k v entries) false⟩
  | .ended v, .closeObject, .object entries k :: frames =>
    some ⟨frames, .ended (.object (put k v entries))⟩
  | _, _, _ => none

def result? (m : Machine) : Option Json :=
  match m with
  | ⟨[], .ended v⟩ => some v
  | _ => none

end Machine

def readChars? (cs : List Char) : Option Json := do
  let ts ← tokens? cs
  let m ← ts.foldlM Machine.step? Machine.start
  m.result?

def read? (text : String) : Option Json := readChars? text.toList

example : read? " [1, \x7b\"a\": null, \"a\": true\x7d] " =
    some (array [number (.integer 1), object [("a", bool true)]]) := by decide +kernel
example : read? "[1,]" = none := by decide +kernel
example : read? "\"\\uD83D\\uDE00\"" = some (string "😀") := by decide +kernel
example : read? "\"\\uD83D\"" = none := by decide +kernel

end RecordSearch.Json
