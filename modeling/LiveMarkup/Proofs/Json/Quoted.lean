import LiveMarkup.Json.Reader
import LiveMarkup.Json.Writer
/-
# LiveMarkup.Proofs.Json.Quoted -- a quoted string is read back

What `quoted` writes for a string, `readString` reads as that string, whatever the
string holds and whatever follows the closing quote (`readString_flatMap`).  One
character is one round of the reader (`readString_escaped`): it stands for itself, or it
is one of the short escapes, or it is a control character spelled with four digits.
-/

namespace LiveMarkup.Text

set_option autoImplicit false

theorem isHexDigit_digitChar : ∀ d < 16, isHexDigit d.digitChar = true := by decide

theorem hexValue_digitChar : ∀ d < 16, hexValue d.digitChar = d := by decide

/-- Two hexadecimal digits are read as the number they write. -/
theorem digitsValue_two {n : Nat} (small : n < 256) :
    digitsValue 16 [(n / 16).digitChar, (n % 16).digitChar] = n := by
  have high := hexValue_digitChar (n / 16) (by omega)
  have low := hexValue_digitChar (n % 16) (by omega)
  simp only [digitsValue, List.foldl_cons, List.foldl_nil, high, low]
  omega

end LiveMarkup.Text

namespace LiveMarkup.Json

set_option autoImplicit false

open LiveMarkup.Text (isHexDigit_digitChar digitsValue_two)

variable {c e : Char} {tail read : List Char}

/-! ## One character -/

theorem controlDigits_eq : ∀ n < 32,
    controlDigits n = [(n / 16).digitChar, (n % 16).digitChar] := by decide

/-- The four digits of a control character are read as the number they write. -/
theorem controlCode_spec (control : c.toNat < 32) :
    ['0', '0', (c.toNat / 16).digitChar, (c.toNat % 16).digitChar].all Text.isHexDigit = true ∧
      Text.digitsValue 16 ['0', '0', (c.toNat / 16).digitChar, (c.toNat % 16).digitChar] = c.toNat := by
  have high := isHexDigit_digitChar (c.toNat / 16) (by omega)
  have low := isHexDigit_digitChar (c.toNat % 16) (by omega)
  have zero : Text.isHexDigit '0' = true := by decide
  exact ⟨by simp [high, low, zero], digitsValue_two (show c.toNat < 256 by omega)⟩

/-- The three ways in which a character stands in a string. -/
theorem escaped_forms (c : Char) :
    (escaped c = [c] ∧ c ≠ '"' ∧ c ≠ '\\' ∧ 32 ≤ c.toNat) ∨
      (∃ e, escaped c = ['\\', e] ∧ e ≠ 'u' ∧ shortEscape? e = some c) ∨
      (c.toNat < 32 ∧
        escaped c = ['\\', 'u', '0', '0', (c.toNat / 16).digitChar, (c.toNat % 16).digitChar]) := by
  by_cases isQuote : c = '"'
  · subst isQuote
    exact .inr (.inl ⟨'"', rfl, by decide, rfl⟩)
  by_cases backslash : c = '\\'
  · subst backslash
    exact .inr (.inl ⟨'\\', rfl, by decide, rfl⟩)
  by_cases backspace : c = '\x08'
  · subst backspace
    exact .inr (.inl ⟨'b', rfl, by decide, rfl⟩)
  by_cases form : c = '\x0c'
  · subst form
    exact .inr (.inl ⟨'f', rfl, by decide, rfl⟩)
  by_cases feed : c = '\n'
  · subst feed
    exact .inr (.inl ⟨'n', rfl, by decide, rfl⟩)
  by_cases back : c = '\r'
  · subst back
    exact .inr (.inl ⟨'r', rfl, by decide, rfl⟩)
  by_cases tab : c = '\t'
  · subst tab
    exact .inr (.inl ⟨'t', rfl, by decide, rfl⟩)
  by_cases control : c.toNat < 32
  · refine .inr (.inr ⟨control, ?_⟩)
    simp [escaped, isQuote, backslash, backspace, form, feed, back, tab, control,
      controlDigits_eq c.toNat control]
  · refine .inl ⟨?_, isQuote, backslash, by omega⟩
    simp [escaped, isQuote, backslash, backspace, form, feed, back, tab, control]

theorem le_foldl_utf8Size (cs : List Char) (n : Nat) : n ≤ cs.foldl (fun n x => n + x.utf8Size) n := by
  induction cs generalizing n with
  | nil => exact Nat.le_refl n
  | cons c cs ih => exact Nat.le_trans (Nat.le_add_right n _) (ih _)

/-- Four digits behind which a text may go on. -/
theorem readHex_four {x y z w : Char} (offset : Nat) (hex : [x, y, z, w].all Text.isHexDigit = true) :
    readHex ⟨x :: y :: z :: w :: tail, offset⟩ =
      .ok (Text.digitsValue 16 [x, y, z, w], ⟨tail, offset + 4⟩) := by
  have bytes : ¬ (x :: y :: z :: w :: tail).foldl (fun n x => n + x.utf8Size) 0 < 4 := by
    have bound := le_foldl_utf8Size tail (0 + x.utf8Size + y.utf8Size + z.utf8Size + w.utf8Size)
    have first := Char.utf8Size_pos x
    have second := Char.utf8Size_pos y
    have third := Char.utf8Size_pos z
    have fourth := Char.utf8Size_pos w
    simp only [List.foldl_cons]
    omega
  simp only [readHex, if_neg bytes, List.take_succ_cons, List.take_zero, if_pos hex, Cursor.drop,
    List.drop_succ_cons, List.drop_zero, List.length_cons]
  rw [Nat.min_eq_left (by omega)]

theorem readCode_control (offset : Nat) (control : c.toNat < 32) :
    readCode ⟨'0' :: '0' :: (c.toNat / 16).digitChar :: (c.toNat % 16).digitChar :: tail, offset⟩ =
      .ok (c, ⟨tail, offset + 4⟩) := by
  obtain ⟨hex, value⟩ := controlCode_spec control
  have notLow : ¬ (0xdc00 ≤ c.toNat ∧ c.toNat ≤ 0xdfff) := by omega
  have notHigh : c.toNat < 0xd800 ∨ 0xdbff < c.toNat := by omega
  rw [readCode, readHex_four offset hex, value]
  simp [bind, Except.bind, pure, Except.pure, notLow, notHigh, Char.ofNat_toNat]

theorem readString_short (fuel offset : Nat) (notCode : e ≠ 'u') (stands : shortEscape? e = some c) :
    readString (fuel + 1) read ⟨'\\' :: e :: tail, offset⟩ =
      readString fuel (c :: read) ⟨tail, offset + 2⟩ := by
  simp [readString, Cursor.drop, stands]

/-- The reader takes one round for what is written for a character. -/
theorem readString_escaped (c : Char) (fuel offset : Nat) (read tail : List Char) : ∃ offset',
    readString (fuel + 1) read ⟨escaped c ++ tail, offset⟩ = readString fuel (c :: read) ⟨tail, offset'⟩ := by
  rcases escaped_forms c with ⟨written, notQuote, notBackslash, high⟩ | ⟨e, written, notCode, stands⟩ |
    ⟨control, written⟩
  · rw [written]
    refine ⟨offset + c.utf8Size, ?_⟩
    simp [readString, Nat.not_lt.mpr high]
  · rw [written]
    exact ⟨_, readString_short fuel offset notCode stands⟩
  · rw [written]
    refine ⟨offset + 6, ?_⟩
    simp [readString, Cursor.drop, readCode_control _ control]

/-! ## A string -/

/-- A string is read up to its closing quote. -/
theorem readString_flatMap (cs tail : List Char) {fuel : Nat} (enough : cs.length < fuel)
    (read : List Char) (offset : Nat) : ∃ offset',
    readString fuel read ⟨cs.flatMap escaped ++ '"' :: tail, offset⟩ =
      .ok (String.ofList (read.reverse ++ cs), ⟨tail, offset'⟩) := by
  induction cs generalizing fuel read offset with
  | nil =>
      cases fuel with
      | zero => cases enough
      | succ fuel => exact ⟨offset + 1, by simp [readString, Cursor.drop]⟩
  | cons c cs ih =>
      cases fuel with
      | zero => cases enough
      | succ fuel =>
          obtain ⟨next, step⟩ := readString_escaped c fuel offset read (cs.flatMap escaped ++ '"' :: tail)
          obtain ⟨stop, rest⟩ := ih (Nat.lt_of_succ_lt_succ enough) (c :: read) next
          refine ⟨stop, ?_⟩
          rw [List.flatMap_cons, List.append_assoc, step, rest]
          simp

theorem toList_quoted (s : String) : (quoted s).toList = '"' :: (s.toList.flatMap escaped ++ ['"']) := by
  simp [quoted, quotedChars]

theorem length_escaped_pos (c : Char) : 0 < (escaped c).length := by
  rcases escaped_forms c with ⟨written, -⟩ | ⟨e, written, -⟩ | ⟨-, written⟩ <;> simp [written]

theorem length_le_flatMap (cs : List Char) : cs.length ≤ (cs.flatMap escaped).length := by
  induction cs with
  | nil => exact Nat.le_refl 0
  | cons c cs ih =>
      have some := length_escaped_pos c
      rw [List.flatMap_cons, List.length_append, List.length_cons]
      omega

end LiveMarkup.Json
