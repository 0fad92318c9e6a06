import Mathlib.Data.List.Lex
import Mathlib.Data.String.Basic
import Mathlib.Data.UInt
/-
# LiveMarkup.Proofs.Text.ByteOrder -- strings in the order of their bytes

Strings are compared character by character, and that is the order of the bytes that
encode them (`lt_iff_bytes_lt`).  A smaller character has a smaller byte at the first
place at which its bytes differ from those of a greater one (`Diverges`), whatever
stands behind either.
-/

namespace LiveMarkup.Text

set_option autoImplicit false

/-- The bytes that encode a string. -/
def bytes (s : String) : List UInt8 := s.toUTF8.data.toList

theorem bytes_eq_flatMap (s : String) : bytes s = s.toList.flatMap String.utf8EncodeChar := by
  unfold bytes
  rw [String.toUTF8, ← String.utf8Encode_toList, List.utf8Encode, List.toList_data_toByteArray]

/-- Two lists of bytes part at a smaller byte of the first. -/
def Diverges (xs ys : List UInt8) : Prop :=
  ∃ shared x y xs' ys', xs = shared ++ x :: xs' ∧ ys = shared ++ y :: ys' ∧ x < y

theorem Diverges.append_lt {xs ys : List UInt8} (diverges : Diverges xs ys) (more others : List UInt8) :
    xs ++ more < ys ++ others := by
  obtain ⟨shared, x, y, xs', ys', rfl, rfl, less⟩ := diverges
  simp only [List.append_assoc, List.cons_append]
  exact List.Lex.append_left _ (List.Lex.rel less) shared

theorem Diverges.cons {x y : Nat} {xs ys : List UInt8} (bound : y < UInt8.size) (upTo : x ≤ y)
    (later : x = y → Diverges xs ys) : Diverges (UInt8.ofNat x :: xs) (UInt8.ofNat y :: ys) := by
  rcases Nat.lt_or_eq_of_le upTo with less | rfl
  · exact ⟨[], _, _, xs, ys, rfl, rfl,
      (UInt8.ofNat_lt_iff_lt (Nat.lt_of_le_of_lt upTo bound) bound).mpr less⟩
  · obtain ⟨shared, a, b, xs', ys', rfl, rfl, less⟩ := later rfl
    exact ⟨UInt8.ofNat x :: shared, a, b, xs', ys', rfl, rfl, less⟩

theorem val_toNat_lt (c : Char) : c.val.toNat < 1114112 := by
  have valid := c.valid
  simp only [UInt32.isValidChar, Nat.isValidChar] at valid
  omega

/-- The bytes of a smaller character part from those of a greater one at a smaller byte. -/
theorem diverges_of_lt {c d : Char} (before : c < d) :
    Diverges (String.utf8EncodeChar c) (String.utf8EncodeChar d) := by
  have less : c.val.toNat < d.val.toNat := UInt32.lt_iff_toNat_lt.mp (Char.lt_def.mp before)
  have small := val_toNat_lt d
  have size : UInt8.size = 256 := rfl
  unfold String.utf8EncodeChar
  dsimp only
  -- The first byte tells how many there are, and the others hold six bits each.  The byte that
  -- parts the two is the first one that is not the same.
  split_ifs
  all_goals
    repeat refine .cons (by omega) (by omega) fun _ => ?_
    omega

theorem flatMap_bytes_lt {cs ds : List Char} (before : cs < ds) :
    cs.flatMap String.utf8EncodeChar < ds.flatMap String.utf8EncodeChar := by
  induction before with
  | @nil d ds =>
      have some : 0 < (String.utf8EncodeChar d).length := by
        rw [String.length_utf8EncodeChar]
        exact Char.utf8Size_pos d
      rw [List.flatMap_cons, List.flatMap_nil]
      cases written : String.utf8EncodeChar d with
      | nil => simp [written] at some
      | cons x xs => exact List.Lex.nil
  | @cons c cs ds later ih =>
      rw [List.flatMap_cons, List.flatMap_cons]
      exact List.Lex.append_left _ ih _
  | @rel c cs d ds less =>
      rw [List.flatMap_cons, List.flatMap_cons]
      exact (diverges_of_lt less).append_lt _ _

/-- Strings are ordered as their bytes are. -/
theorem lt_iff_bytes_lt {s t : String} : s < t ↔ bytes s < bytes t := by
  have mono : ∀ {s t : String}, s < t → bytes s < bytes t := by
    intro s t before
    rw [bytes_eq_flatMap, bytes_eq_flatMap]
    exact flatMap_bytes_lt (String.lt_iff_toList_lt.mp before)
  refine ⟨mono, fun before => ?_⟩
  rcases lt_trichotomy s t with less | rfl | greater
  · exact less
  · exact absurd before (List.lt_irrefl _)
  · exact absurd before (List.lt_asymm (mono greater))

end LiveMarkup.Text
