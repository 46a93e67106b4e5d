import Mathlib.Data.List.Basic
import Mathlib.Data.List.Infix
import RecordSearch.Proofs.Text.AsciiCase

/-!
Texts in UTF-8. An ASCII character is one byte below 128, and the bytes of other characters are all
above (`le_of_mem_utf8EncodeChar`). So an ASCII text is found at the end of the bytes of a text
where it is found at the end of the text (`utf8_isSuffixOf_utf8`), and letters `A` to `Z` are made
small byte by byte (`map_lowerByte_utf8`).
-/

namespace RecordSearch.Text

def utf8 (cs : List Char) : List UInt8 := cs.flatMap String.utf8EncodeChar

@[simp] theorem utf8_nil : utf8 [] = [] := rfl

@[simp] theorem utf8_append (cs ds : List Char) : utf8 (cs ++ ds) = utf8 cs ++ utf8 ds :=
  List.flatMap_append

theorem utf8_concat (cs : List Char) (c : Char) :
    utf8 (cs ++ [c]) = utf8 cs ++ String.utf8EncodeChar c := by
  rw [utf8_append, utf8, utf8, List.flatMap_singleton]

theorem toByteArray_utf8 (cs : List Char) :
    (utf8 cs).toByteArray = (String.ofList cs).toByteArray := by
  rw [String.toByteArray_ofList, List.utf8Encode, utf8]

theorem length_utf8 (s : String) : (utf8 s.toList).length = s.utf8ByteSize := by
  rw [← List.size_toByteArray, toByteArray_utf8, String.ofList_toList, String.size_toByteArray]

theorem utf8_injective : Function.Injective utf8 := fun cs ds h => by
  have hbytes := congrArg List.toByteArray h
  rwa [toByteArray_utf8, toByteArray_utf8, String.toByteArray_inj, String.ofList_inj] at hbytes

@[simp] theorem utf8_eq_nil_iff {cs : List Char} : utf8 cs = [] ↔ cs = [] :=
  utf8_injective.eq_iff' utf8_nil

/-! ## Characters -/

theorem le_of_mem_utf8EncodeChar {c : Char} (hc : 128 ≤ c.toNat) {b : UInt8}
    (hb : b ∈ String.utf8EncodeChar c) : 128 ≤ b.toNat := by
  have hval : ¬ c.val.toNat ≤ 127 := by
    change ¬ c.toNat ≤ 127
    omega
  have hbyte {n : Nat} (hlow : 128 ≤ n) (hhigh : n < 256) : 128 ≤ (UInt8.ofNat n).toNat := by
    rwa [UInt8.toNat_ofNat', Nat.mod_eq_of_lt hhigh]
  rw [String.utf8EncodeChar, if_neg hval] at hb
  -- two, three or four bytes
  split at hb <;> try split at hb
  all_goals
    simp only [List.mem_cons, List.not_mem_nil, or_false] at hb
    rcases hb with rfl | rfl | rfl | rfl <;> exact hbyte (by omega) (by omega)

theorem exists_utf8EncodeChar_eq_concat (c : Char) :
    ∃ bs b, String.utf8EncodeChar c = bs ++ [b] :=
  (List.eq_nil_or_concat' _).resolve_left String.utf8EncodeChar_ne_nil

theorem utf8EncodeChar_of_ascii {c : Char} (hc : c.toNat < 128) :
    String.utf8EncodeChar c = [c.toUInt8] := by
  have hval : c.val.toNat ≤ 127 := Nat.le_of_lt_succ hc
  rw [String.utf8EncodeChar, if_pos hval]
  rfl

theorem toNat_toUInt8_of_ascii {c : Char} (hc : c.toNat < 128) : c.toUInt8.toNat = c.toNat := by
  rw [Char.toUInt8, UInt32.toNat_toUInt8]
  exact Nat.mod_eq_of_lt (Nat.lt_trans hc (by decide))

/-- A byte of an ASCII character stands for no other character, nor for a part of one. -/
theorem eq_of_mem_utf8EncodeChar {c d : Char} (hc : c.toNat < 128)
    (h : c.toUInt8 ∈ String.utf8EncodeChar d) : d = c := by
  have hbyte := toNat_toUInt8_of_ascii hc
  have hd : d.toNat < 128 := by
    by_contra hd
    have := le_of_mem_utf8EncodeChar (Nat.le_of_not_lt hd) h
    omega
  rw [utf8EncodeChar_of_ascii hd, List.mem_singleton] at h
  rw [← Char.toNat_inj, ← toNat_toUInt8_of_ascii hd, ← h, hbyte]

/-! ## ASCII texts -/

theorem utf8_of_ascii {cs : List Char} (h : IsAscii cs) : utf8 cs = cs.map Char.toUInt8 := by
  induction cs with
  | nil => rfl
  | cons c cs ih =>
    obtain ⟨hc, hcs⟩ := List.forall_mem_cons.mp h
    rw [List.map_cons, ← ih hcs, utf8, List.flatMap_cons, utf8EncodeChar_of_ascii hc]
    rfl

/-- The last byte of a character is among those of an ASCII text if the character is in the text. -/
theorem mem_utf8_iff_of_ascii {cs : List Char} (h : IsAscii cs) {c : Char} {bs : List UInt8}
    {b : UInt8} (hc : String.utf8EncodeChar c = bs ++ [b]) : b ∈ utf8 cs ↔ c ∈ cs := by
  rw [utf8_of_ascii h, List.mem_map]
  constructor
  · rintro ⟨d, hd, rfl⟩
    have hmem : d.toUInt8 ∈ String.utf8EncodeChar c := hc ▸ List.mem_append_right bs (by simp)
    rwa [eq_of_mem_utf8EncodeChar (h d hd) hmem]
  · intro hmem
    rw [utf8EncodeChar_of_ascii (h c hmem)] at hc
    exact ⟨c, hmem, by simpa using congrArg List.getLast? hc⟩

theorem suffix_of_utf8_suffix {s w : List Char} (hs : IsAscii s) (h : utf8 s <:+ utf8 w) :
    s <:+ w := by
  induction s using List.reverseRecOn generalizing w with
  | nil => exact List.nil_suffix
  | append_singleton s c ih =>
    obtain ⟨hinit, hc⟩ := List.forall_mem_append.mp hs
    rw [List.forall_mem_singleton] at hc
    rw [utf8_concat, utf8EncodeChar_of_ascii hc] at h
    rcases List.eq_nil_or_concat' w with rfl | ⟨w, d, rfl⟩
    · simp at h
    · -- the bytes of `d` end in the one byte of `c`, so `d` is `c`
      obtain ⟨bs, b, hd⟩ := exists_utf8EncodeChar_eq_concat d
      rw [utf8_concat] at h
      have hlast : c.toUInt8 = b := by
        have hsuffix := (List.suffix_append (utf8 s) [c.toUInt8]).trans h
        rwa [hd, ← List.append_assoc, List.singleton_suffix_append_singleton_iff] at hsuffix
      have hmem : c.toUInt8 ∈ String.utf8EncodeChar d := by
        rw [hd, hlast]
        exact List.mem_append_right bs (List.mem_singleton_self b)
      obtain rfl : d = c := eq_of_mem_utf8EncodeChar hc hmem
      rw [utf8EncodeChar_of_ascii hc, List.suffix_append_self_iff] at h
      exact List.suffix_append_self_iff.mpr (ih hinit h)

/-- An ASCII text is found at the end of the bytes only where it is found at the end of the text. -/
theorem utf8_isSuffixOf_utf8 {s : List Char} (hs : IsAscii s) (w : List Char) :
    (utf8 s).isSuffixOf (utf8 w) = s.isSuffixOf w := by
  rw [Bool.eq_iff_iff, List.isSuffixOf_iff_suffix, List.isSuffixOf_iff_suffix]
  refine ⟨suffix_of_utf8_suffix hs, ?_⟩
  rintro ⟨t, rfl⟩
  rw [utf8_append]
  exact List.suffix_append _ _

theorem utf8_beq_utf8 (s w : List Char) : (utf8 s == utf8 w) = (s == w) := by
  rw [Bool.eq_iff_iff, beq_iff_eq, beq_iff_eq, utf8_injective.eq_iff]

/-! ## Letters -/

def lowerByte (b : UInt8) : UInt8 :=
  if 'A'.toUInt8 ≤ b ∧ b ≤ 'Z'.toUInt8 then b + 32 else b

/-- The byte stands for a letter from `A` to `Z` or from `a` to `z`. -/
def isLetterByte (b : UInt8) : Bool := (Char.ofUInt8 b).isAlpha

theorem isLetterByte_toUInt8 {c : Char} (hc : c.isAlpha = true) :
    isLetterByte c.toUInt8 = true := by
  rw [← hc]
  exact of_ascii_table (P := fun c => isLetterByte c.toUInt8 = c.isAlpha) (by decide +kernel)
    (ascii_of_isAlpha hc)

theorem map_lowerByte_utf8EncodeChar (c : Char) :
    (String.utf8EncodeChar c).map lowerByte = String.utf8EncodeChar (lowerAscii c) := by
  by_cases hc : c.toNat < 128
  · exact of_ascii_table (P := fun c => (String.utf8EncodeChar c).map lowerByte =
      String.utf8EncodeChar (lowerAscii c)) (by decide +kernel) hc
  · have hself : lowerAscii c = c := if_neg fun h => hc (Nat.lt_of_le_of_lt h.2 (by decide))
    rw [hself, List.map_congr_left (g := id), List.map_id]
    intro b hb
    have hle := le_of_mem_utf8EncodeChar (Nat.le_of_not_lt hc) hb
    refine if_neg fun h => ?_
    have hZ : b.toNat ≤ 90 := h.2
    omega

theorem map_lowerByte_utf8 (cs : List Char) :
    (utf8 cs).map lowerByte = utf8 (cs.map lowerAscii) := by
  rw [utf8, utf8, List.map_flatMap, List.flatMap_map]
  simp only [map_lowerByte_utf8EncodeChar]

end RecordSearch.Text
