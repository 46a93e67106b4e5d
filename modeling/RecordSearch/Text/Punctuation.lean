import RecordSearch.Text.CharSet

/-!
Punctuation: the ASCII marks and symbols, and the common marks beyond ASCII.
-/

namespace RecordSearch.Text

def punctuationRanges : List (Nat × Nat) :=
  [(0x21, 0x2F), (0x3A, 0x40), (0x5B, 0x60), (0x7B, 0x7E), (0xA1, 0xA1), (0xA7, 0xA7),
   (0xAB, 0xAB), (0xB6, 0xB7), (0xBB, 0xBB), (0xBF, 0xBF), (0x2010, 0x2027), (0x2030, 0x205E),
   (0x3001, 0x3003), (0x3008, 0x3011)]

def isPunctuation (c : Char) : Bool := inRanges c punctuationRanges

end RecordSearch.Text
