/-
Module: StudyDesk.Proofs.Text.Order
Purpose: The order of texts by their characters is their order by their bytes.
Main exports:
  charsBefore_iff, before_iff, encode_lt_iff, lt_iff_encode_lt
-/
import Mathlib.Data.String.Basic
import StudyDesk.Text.Bytes

namespace StudyDesk.Text

theorem charsBefore_iff {one two : List Char} : charsBefore one two = true ↔ one < two := by
  induction one generalizing two with
  | nil =>
      cases two with
      | nil => simp [charsBefore]
      | cons b two => simp [charsBefore]
  | cons a one ih =>
      cases two with
      | nil => simp [charsBefore]
      | cons b two =>
          rw [charsBefore, List.cons_lt_cons_iff]
          split_ifs with same
          · subst same
            simp [ih]
          · have code : (decide (a.toNat < b.toNat)) = true ↔ a < b := decide_eq_true_iff
            simp [code, same]

theorem before_iff {one two : String} : before one two = true ↔ one < two := by
  rw [before, charsBefore_iff, String.lt_iff_toList_lt]

/-!
### Bytes

The first byte of a character tells how many there are, and a character of more bytes has the greater
first byte; so two characters are told apart by a byte of theirs, whatever follows them.
-/

/-- Of two lists of bytes the first byte decides that differs. -/
theorem byte_cons_lt_iff {m n : Nat} {front back : List UInt8} (small : m < 256)
    (small' : n < 256) :
    UInt8.ofNat m :: front < UInt8.ofNat n :: back ↔ m < n ∨ m = n ∧ front < back := by
  have value : ∀ k, k < 256 → (UInt8.ofNat k).toNat = k := fun k small =>
    UInt8.toNat_ofNat_of_lt' small
  rw [List.cons_lt_cons_iff, UInt8.lt_iff_toNat_lt, ← UInt8.toNat_inj, value m small,
    value n small']

/-- The bytes of the lesser of two characters come first, whatever follows. -/
theorem encodeChar_append_lt {a b : Char} (less : a < b) (front back : List UInt8) :
    String.utf8EncodeChar a ++ front < String.utf8EncodeChar b ++ back := by
  have code : a.val.toNat < b.val.toNat := less
  have last : b.val.toNat < 0x110000 := by
    have valid := b.valid
    simp only [UInt32.isValidChar, Nat.isValidChar] at valid
    omega
  -- the digits of a character to the base of 64, each from the one before it
  have third : ∀ n, n / 4096 = n / 64 / 64 := by omega
  have fourth : ∀ n, n / 262144 = n / 64 / 64 / 64 := by omega
  simp only [String.utf8EncodeChar, third, fourth]
  generalize a.val.toNat = m at code
  generalize b.val.toNat = n at code last
  split_ifs <;>
    simp (disch := omega) only [List.cons_append, List.nil_append, byte_cons_lt_iff] <;> omega

theorem encode_cons (c : Char) (cs : List Char) :
    encode (c :: cs) = String.utf8EncodeChar c ++ encode cs := List.flatMap_cons

theorem encode_lt_of_lt {one two : List Char} (less : one < two) : encode one < encode two := by
  induction one generalizing two with
  | nil =>
      cases two with
      | nil => exact absurd less (List.not_lt_nil _)
      | cons b two =>
          obtain ⟨byte, bytes, shown⟩ :=
            List.exists_cons_of_ne_nil (String.utf8EncodeChar_ne_nil (c := b))
          rw [encode_cons, shown]
          exact List.nil_lt_cons _ _
  | cons a one ih =>
      cases two with
      | nil => exact absurd less (List.not_lt_nil _)
      | cons b two =>
          rw [encode_cons, encode_cons]
          rcases List.cons_lt_cons_iff.mp less with early | ⟨rfl, later⟩
          · exact encodeChar_append_lt early _ _
          · exact List.append_left_lt (ih later)

/-- UTF-8 keeps the order of characters. -/
theorem encode_lt_iff {one two : List Char} : encode one < encode two ↔ one < two := by
  refine ⟨fun less => ?_, encode_lt_of_lt⟩
  rcases lt_trichotomy one two with early | rfl | late
  · exact early
  · exact absurd less (List.lt_irrefl _)
  · exact absurd less (List.lt_asymm (encode_lt_of_lt late))

theorem lt_iff_encode_lt {one two : String} :
    one < two ↔ encode one.toList < encode two.toList := by
  rw [String.lt_iff_toList_lt, encode_lt_iff]

end StudyDesk.Text
