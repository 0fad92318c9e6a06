import LiveMarkup.Text.Identifier
/-
# LiveMarkup.Proofs.Text.Ascii -- plain letters and digits

Plain letters and digits are among the first 128 characters, so what is said of all of them can
be looked up.  The letters and digits that the library of the language knows are the plain ones.
-/

namespace LiveMarkup.Text

set_option autoImplicit false

/-- May a plain name start with a character? -/
def isNameLetter (c : Char) : Bool := isAsciiLetter c || c == '$' || c == '_'

variable {c d : Char}

theorem toNat_lt_of_le (upTo : c ≤ d) (small : d.toNat < 128) : c.toNat < 128 :=
  Nat.lt_of_le_of_lt (UInt32.le_iff_toNat_le.mp (Char.le_def.mp upTo)) small

theorem isAsciiLetter_of_isAlpha (letter : c.isAlpha = true) : c.toNat < 128 ∧ isAsciiLetter c = true := by
  have range : ('A' ≤ c ∧ c ≤ 'Z') ∨ 'a' ≤ c ∧ c ≤ 'z' := by
    rcases Bool.or_eq_true_iff.mp letter with upper | lower
    · exact .inl (of_decide_eq_true upper)
    · obtain ⟨least, greatest⟩ := Bool.and_eq_true_iff.mp lower
      exact .inr ⟨of_decide_eq_true least, of_decide_eq_true greatest⟩
  refine ⟨?_, by simpa [isAsciiLetter] using range.symm⟩
  rcases range with ⟨-, upTo⟩ | ⟨-, upTo⟩
  all_goals exact toNat_lt_of_le upTo (by decide)

theorem isAsciiDigit_of_isDigit (digit : c.isDigit = true) : c.toNat < 128 ∧ isAsciiDigit c = true := by
  obtain ⟨least, greatest⟩ := Bool.and_eq_true_iff.mp digit
  have range : '0' ≤ c ∧ c ≤ '9' := ⟨of_decide_eq_true least, of_decide_eq_true greatest⟩
  exact ⟨toNat_lt_of_le range.2 (by decide), by simpa [isAsciiDigit] using range⟩

theorem toNat_of_isNameLetter (letter : isNameLetter c = true) : c.toNat < 128 := by
  simp only [isNameLetter, isAsciiLetter, Bool.or_eq_true, Bool.and_eq_true, decide_eq_true_eq, beq_iff_eq]
    at letter
  rcases letter with ((⟨-, upTo⟩ | ⟨-, upTo⟩) | rfl) | rfl
  · exact toNat_lt_of_le upTo (by decide)
  · exact toNat_lt_of_le upTo (by decide)
  · decide
  · decide

theorem toNat_of_isAsciiDigit (digit : isAsciiDigit c = true) : c.toNat < 128 := by
  simp only [isAsciiDigit, Bool.and_eq_true, decide_eq_true_eq] at digit
  exact toNat_lt_of_le digit.2 (by decide)

end LiveMarkup.Text
