import RecordSearch.Text.Blank
import RecordSearch.Text.Lowercase
import RecordSearch.Text.Punctuation

/-!
The words of a text as they are indexed, in lower case and without blanks; and map keys as one part
of a token.
-/

namespace RecordSearch.Index

open RecordSearch.Text

/-- Punctuation separates words, unless it is kept. -/
def blankPunctuation (keep : Bool) (cs : List Char) : List Char :=
  if keep then cs else cs.map fun c => if isPunctuation c then ' ' else c

def normalizedWords (keep : Bool) (cs : List Char) : List (List Char) :=
  words (lowerChars (blankPunctuation keep cs))

def normalizeWords (text : String) (keep : Bool) : List String :=
  (normalizedWords keep text.toList).map String.ofList

/-- A key in lower case, without blanks and colons. -/
def normalizeKey (key : String) : String :=
  String.ofList
    ((lowerChars key.toList).map fun c => if isBlank c || c = ':' then '_' else c)

example : normalizeWords "Well-known, 2nd ed." false = ["well", "known", "2nd", "ed"] := by
  decide +kernel

end RecordSearch.Index
