import RecordSearch.Toml.Scalar
import RecordSearch.Toml.Table

/-!
Reading a TOML document. Expressions stand on lines of their own: the header of a table, the header
of an element of an array of tables, or a key with its value. Line breaks and comments are allowed
between any two parts of an array or an inline table, but not inside a dotted key, and a comma after
its last entry. Arrays and inline tables nest at most `nestingLimit` deep, and a dotted key has no
more than as many parts.
-/

namespace RecordSearch.Toml

open RecordSearch.Text

/-! ## Blanks -/

def isBlankChar (c : Char) : Bool := c = ' ' || c = '\t'

def skipSpaces (cs : List Char) : List Char := cs.dropWhile isBlankChar

def lineBreak? : List Char → Option (List Char)
  | '\n' :: cs => some cs
  | '\r' :: '\n' :: cs => some cs
  | _ => none

/-- A character that may stand in a comment or a string on one line. -/
def isPlain (c : Char) : Bool := c = '\t' || (0x20 ≤ c.toNat && c.toNat ≠ 0x7F)

/-- The text after a comment, if there is one. -/
def skipComment (cs : List Char) : List Char :=
  match cs with
  | '#' :: cs => cs.dropWhile isPlain
  | _ => cs

/-- The text after the rest of a line: spaces, a comment, and the end of the line. -/
def endLine? (cs : List Char) : Option (List Char) :=
  match skipComment (skipSpaces cs) with
  | [] => some []
  | cs => lineBreak? cs

/-- Spaces, comments and line breaks. `fuel` bounds the number of lines. -/
def skipLinesWithin : Nat → List Char → List Char
  | 0, cs => cs
  | fuel + 1, cs =>
    let rest := skipComment (skipSpaces cs)
    match lineBreak? rest with
    | some rest => skipLinesWithin fuel rest
    | none => rest

def skipLines (cs : List Char) : List Char := skipLinesWithin (cs.length + 1) cs

/-! ## Strings -/

def charOfCode? (n : Nat) : Option Char :=
  if n < 0xD800 || (0xE000 ≤ n && n < 0x110000) then some (Char.ofNat n) else none

def hexChar? (ds : List Char) : Option Char := (hexNumber? ds).bind charOfCode?

def simpleEscape? (c : Char) : Option Char :=
  match c with
  | 'b' => some '\x08'
  | 't' => some '\t'
  | 'n' => some '\n'
  | 'f' => some '\x0c'
  | 'r' => some '\r'
  | 'e' => some '\x1b'
  | '"' => some '"'
  | '\\' => some '\\'
  | _ => none

/-- How many hexadecimal digits follow the letter of an escape. -/
def hexEscapeLength? (c : Char) : Option Nat :=
  match c with
  | 'x' => some 2
  | 'u' => some 4
  | 'U' => some 8
  | _ => none

/-- The character of an escape, given the text after the backslash, and the length of the escape. -/
def escape? (cs : List Char) : Option (Char × Nat) :=
  match cs with
  | [] => none
  | c :: cs =>
    match hexEscapeLength? c with
    | some n => if cs.length < n then none else (hexChar? (cs.take n)).map fun x => (x, n + 1)
    | none => (simpleEscape? c).map fun x => (x, 1)

/-- A string on one line, and the text after its closing quote. `skip` counts the characters of an
escape that are still to be passed over. -/
def basicString? : (skip : Nat) → List Char → Option (List Char × List Char)
  | _, [] => none
  | skip + 1, _ :: cs => basicString? skip cs
  | 0, c :: cs =>
    if c = '"' then some ([], cs)
    else if c = '\\' then do
      let (x, n) ← escape? cs
      let (text, rest) ← basicString? n cs
      some (x :: text, rest)
    else if isPlain c then (basicString? 0 cs).map fun (text, rest) => (c :: text, rest)
    else none

def literalString? (cs : List Char) : Option (List Char × List Char) :=
  match cs.dropWhile fun c => isPlain c && c ≠ '\'' with
  | '\'' :: rest => some (cs.takeWhile fun c => isPlain c && c ≠ '\'', rest)
  | _ => none

/-- A line break at the start of a string of several lines does not count. -/
def dropFirstBreak (cs : List Char) : List Char := (lineBreak? cs).getD cs

/-- The quotes that belong to a string of several lines although its end has come, and the text
after the end. Up to two quotes may stand before the three closing ones. -/
def closing? (quote : Char) (cs : List Char) : Option (Option (List Char × List Char)) :=
  let n := (cs.takeWhile (· = quote)).length
  if n < 3 then none
  else if n < 6 then some (some (List.replicate (n - 3) quote, cs.drop n))
  else some none

/-- What is being passed over in a string of several lines. -/
inductive Passing where
  | nothing
  /-- This many characters of an escape. -/
  | escape (n : Nat)
  /-- Blanks and line breaks after a backslash at the end of a line. -/
  | blanks
  deriving DecidableEq, Repr

/-- A backslash at the end of a line. -/
def endsLine (cs : List Char) : Bool := (lineBreak? (skipSpaces cs)).isSome

def multilineBasic? : Passing → List Char → Option (List Char × List Char)
  | _, [] => none
  | .escape (n + 1), _ :: cs => multilineBasic? (if n = 0 then .nothing else .escape n) cs
  | passing, c :: cs =>
    if passing = .blanks && (isBlankChar c || (lineBreak? (c :: cs)).isSome || c = '\n') then
      multilineBasic? .blanks cs
    else if passing = .blanks && c = '\r' then none
    else
      match closing? '"' (c :: cs) with
      | some answer => answer
      | none =>
        if c = '\\' then
          if endsLine cs then multilineBasic? .blanks cs
          else do
            let (x, n) ← escape? cs
            let (text, rest) ← multilineBasic? (.escape n) cs
            some (x :: text, rest)
        else if isPlain c || c = '\n' || (c = '\r' && cs.head? = some '\n') then
          (multilineBasic? .nothing cs).map fun (text, rest) => (c :: text, rest)
        else none

def multilineLiteral? : List Char → Option (List Char × List Char)
  | [] => none
  | c :: cs =>
    match closing? '\'' (c :: cs) with
    | some answer => answer
    | none =>
      if isPlain c || c = '\n' || (c = '\r' && cs.head? = some '\n') then
        (multilineLiteral? cs).map fun (text, rest) => (c :: text, rest)
      else none

def stringValue? (r : Option (List Char × List Char)) : Option (Toml × List Char) :=
  r.map fun (text, rest) => (string (String.ofList text), rest)

/-! ## Keys -/

def isBareKeyChar (c : Char) : Bool := c.isAlphanum || c = '_' || c = '-'

def keyPart? (cs : List Char) : Option (String × List Char) :=
  match cs with
  | '"' :: cs => (basicString? 0 cs).map fun (k, rest) => (String.ofList k, rest)
  | '\'' :: cs => (literalString? cs).map fun (k, rest) => (String.ofList k, rest)
  | _ =>
    let k := cs.takeWhile isBareKeyChar
    if k.isEmpty then none else some (String.ofList k, cs.dropWhile isBareKeyChar)

/-- How deep arrays and inline tables may nest, and how many parts a dotted key may have. -/
def nestingLimit : Nat := 80

/-- The parts of a dotted key, and the text after it. `fuel` bounds their number. -/
def keyWithin? : Nat → List Char → Option (List String × List Char)
  | 0, _ => none
  | fuel + 1, cs => do
    let (k, rest) ← keyPart? (skipSpaces cs)
    match skipSpaces rest with
    | '.' :: rest =>
      let (ks, rest) ← keyWithin? fuel rest
      some (k :: ks, rest)
    | rest => some ([k], rest)

def key? (cs : List Char) : Option (List String × List Char) := keyWithin? nestingLimit cs

/-- Adds a value under a dotted key. -/
def addUnder? (keys : List String) (v : Toml) (es : Entries) : Option Entries :=
  match keys.getLast? with
  | none => none
  | some k => Entries.add? v k keys.dropLast es

/-! ## Values -/

def endsBare (c : Char) : Bool :=
  c = '=' || c = ',' || c = '[' || c = ']' || c = '{' || c = '}' || c = ' ' || c = '\t' ||
    c = '#' || c = '\r' || c = '\n'

/-- A scalar without quotes; a day may be followed by a space and a time. -/
def bareValue? (cs : List Char) : Option (Toml × List Char) :=
  let text := cs.takeWhile (!endsBare ·)
  let rest := cs.dropWhile (!endsBare ·)
  match rest with
  | ' ' :: d :: more =>
    if isDay text && d.isDigit then
      let time := (d :: more).takeWhile (!endsBare ·)
      (scalar? (text ++ ' ' :: time)).map fun v => (v, (d :: more).dropWhile (!endsBare ·))
    else (scalar? text).map fun v => (v, rest)
  | _ => (scalar? text).map fun v => (v, rest)

mutual

/-- A value at the start of `cs`. `fuel` bounds the steps, `depth` counts the arrays and inline
tables that are open. -/
def valueWithin? (fuel depth : Nat) (cs : List Char) : Option (Toml × List Char) :=
  match fuel with
  | 0 => none
  | fuel + 1 =>
    match cs with
    | '"' :: '"' :: '"' :: cs => stringValue? (multilineBasic? .nothing (dropFirstBreak cs))
    | '"' :: cs => stringValue? (basicString? 0 cs)
    | '\'' :: '\'' :: '\'' :: cs => stringValue? (multilineLiteral? (dropFirstBreak cs))
    | '\'' :: cs => stringValue? (literalString? cs)
    | '[' :: cs =>
      if nestingLimit ≤ depth then none
      else (itemsWithin? fuel (depth + 1) cs).map fun (vs, rest) => (array vs, rest)
    | '{' :: cs =>
      if nestingLimit ≤ depth then none
      else (entriesWithin? fuel (depth + 1) [] cs).map fun (es, rest) =>
        (table (Node.entriesToToml es), rest)
    | _ => bareValue? cs

/-- The items of an array up to its end. -/
def itemsWithin? (fuel depth : Nat) (cs : List Char) : Option (List Toml × List Char) :=
  match fuel with
  | 0 => none
  | fuel + 1 =>
    match skipLines cs with
    | ']' :: rest => some ([], rest)
    | cs => do
      let (v, rest) ← valueWithin? fuel depth cs
      match skipLines rest with
      | ']' :: rest => some ([v], rest)
      | ',' :: rest =>
        let (vs, rest) ← itemsWithin? fuel depth rest
        some (v :: vs, rest)
      | _ => none

/-- The entries of an inline table up to its end, added to `es`. -/
def entriesWithin? (fuel depth : Nat) (es : Entries) (cs : List Char) :
    Option (Entries × List Char) :=
  match fuel with
  | 0 => none
  | fuel + 1 =>
    match skipLines cs with
    | '}' :: rest => some (es, rest)
    | cs => do
      let (keys, rest) ← key? cs
      let '=' :: rest := skipLines rest | none
      let (v, rest) ← valueWithin? fuel depth (skipLines rest)
      let es ← addUnder? keys v es
      match skipLines rest with
      | '}' :: rest => some (es, rest)
      | ',' :: rest => entriesWithin? fuel depth es rest
      | _ => none

end

/-- Every other step takes up a character. -/
def value? (cs : List Char) : Option (Toml × List Char) := valueWithin? (2 * cs.length + 2) 0 cs

/-! ## Documents -/

/-- The entries read so far, and the path of the last header. -/
structure Document where
  root : Entries
  header : List String

namespace Document

def empty : Document := ⟨[], []⟩

/-- Opens the table or the array element that a header names. -/
def openHeader? (d : Document) (element : Bool) (path : List String) : Option Document := do
  let key ← path.getLast?
  let f := if element then Entries.openElement? key else Entries.openTable? key
  let root ← Entries.changeAt? f path.dropLast d.root
  some ⟨root, path⟩

def addEntry? (d : Document) (keys : List String) (v : Toml) : Option Document := do
  let root ← Entries.changeAt? (addUnder? keys v) d.header d.root
  some { d with root }

/-- Reads the expression that `cs` starts with; the rest of its line follows. -/
def expression? (d : Document) (cs : List Char) : Option (Document × List Char) :=
  match cs with
  | '[' :: '[' :: cs => do
    let (path, rest) ← key? cs
    let (']', ']', rest) := (rest.headD ' ', (rest.drop 1).headD ' ', rest.drop 2) | none
    some (← d.openHeader? true path, rest)
  | '[' :: cs => do
    let (path, rest) ← key? cs
    let (']', rest) := (rest.headD ' ', rest.drop 1) | none
    some (← d.openHeader? false path, rest)
  | cs => do
    let (keys, rest) ← key? cs
    let ('=', rest) := (rest.headD ' ', rest.drop 1) | none
    let (v, rest) ← value? (skipSpaces rest)
    some (← d.addEntry? keys v, rest)

/-- Reads line by line. `fuel` bounds the number of lines. -/
def readWithin? : Nat → Document → List Char → Option Document
  | 0, _, _ => none
  | fuel + 1, d, cs =>
    let cs := skipLines cs
    if cs.isEmpty then some d
    else do
      let (d, rest) ← d.expression? cs
      let rest ← endLine? rest
      d.readWithin? fuel rest

end Document

/-- A mark of the byte order at the very start is passed over. -/
def read? (text : String) : Option (List (String × Toml)) :=
  let cs := match text.toList with
    | '\ufeff' :: cs => cs
    | cs => cs
  (Document.readWithin? (cs.length + 1) .empty cs).map fun d => Node.entriesToToml d.root

end RecordSearch.Toml
