import LiveMarkup.Proofs.Json.Quoted
import LiveMarkup.Syntax.Literal
import LiveMarkup.Syntax.Scanner
/-
# LiveMarkup.Proofs.Syntax.StringLiteral -- what the literal of a string is read as

A string that was not read from a text is written as a literal with escapes.  A script
takes the escapes back one by one (`escapedChar_word`), so its literal denotes the string
(`scriptString_stringLiteral`), and so does the literal that data is written with
(`scriptString_quoted`).

There is one exception.  A text can spell the half of a surrogate pair, a backslash
included, and the writer leaves such a backslash alone.  The reader takes the spelling for
an escape, and as no character is the half of a pair it spells the half out again, in
lower case and without braces.  `keepsHalves` tells the texts that come back as they were.
-/

namespace LiveMarkup.Syntax

set_option autoImplicit false

open LiveMarkup.Text

/-- The string that a token is. -/
def Token.string? : Token → Option String
  | .string value _ => some value
  | _ => none

/-- The string that a literal is in a script. -/
def scriptString (literal : String) : String :=
  ((scanCode ⟨literal.toList, 0⟩).token.string?).getD literal

/-- Is a character escaped for what it is, and not for the quotes around it? -/
def needsEscape (c : Char) : Bool :=
  (c.toNat < 32 && c != '\t') || c.toNat == 0x2028 || c.toNat == 0x2029 || c.toNat == 0xfeff

def isLowerHexDigit (c : Char) : Bool := c.isDigit || ('a' ≤ c && c ≤ 'f')

/-- Is a half spelled as the reader spells it? -/
def isPlainHalf : List Char → Bool
  | 'u' :: d :: a :: b :: c :: _ => [d, a, b, c].all isLowerHexDigit
  | _ => false

/-- Is every half that a text spells spelled as the reader spells it? -/
def keepsHalves : List Char → Bool
  | [] => true
  | c :: rest => (c != '\\' || !surrogateEscape rest || isPlainHalf rest) && keepsHalves rest

section Reading

variable {quote c : Char} {rest tail word cs : List Char} {fuel : Nat}

/-! ## One escape -/

/-- What is scanned when some characters were read in front of the rest. -/
def scannedAhead (cs : List Char) (n : Nat) (rest : List Char × Nat × Bool) : List Char × Nat × Bool :=
  (cs ++ rest.1, n + rest.2.1, rest.2.2)

@[simp] theorem scannedAhead_fst (cs : List Char) (n : Nat) (rest : List Char × Nat × Bool) :
    (scannedAhead cs n rest).1 = cs ++ rest.1 := rfl

theorem scanString_quote : scanString quote (fuel + 1) (quote :: tail) = ([], 1, true) := by
  simp [scanString]

theorem scanString_plain (notQuote : c ≠ quote) (notBackslash : c ≠ '\\') (notFeed : c ≠ '\n')
    (notReturn : c ≠ '\r') :
    scanString quote (fuel + 1) (c :: tail) = scannedAhead [c] 1 (scanString quote fuel tail) := by
  simp [scanString, scannedAhead, notQuote, notBackslash, notFeed, notReturn]

theorem scanString_backslash (notQuote : '\\' ≠ quote) :
    scanString quote (fuel + 1) ('\\' :: tail) = scannedAhead (stringEscape tail).1 (1 + (stringEscape tail).2)
      (scanString quote fuel (tail.drop (stringEscape tail).2)) := by
  simp [scanString, scannedAhead, notQuote]

theorem scanString_word (fuel : Nat) (notQuote : '\\' ≠ quote) (read : stringEscape (word ++ tail) = (cs, word.length)) :
    scanString quote (fuel + 1) ('\\' :: word ++ tail) =
      scannedAhead cs (1 + word.length) (scanString quote fuel tail) := by
  rw [List.cons_append, scanString_backslash notQuote, read, List.drop_left]

theorem toList_twoHexDigits : ∀ n < 32,
    (twoHexDigits n).toList = [(n / 16).digitChar, (n % 16).digitChar] := by decide

/-- No digit that an escape by a number could go on with comes next. -/
def NoDigitAhead (tail : List Char) : Prop := ∀ d ∈ tail.head?, ¬ ('0' ≤ d ∧ d ≤ '7')

theorem stringEscape_null (ahead : NoDigitAhead tail) :
    stringEscape ('0' :: tail) = ([Char.ofNat 0], 1) := by
  have read : stringEscape ('0' :: tail) =
      ([Char.ofNat (digitsValue 8 (('0' :: tail.take 2).takeWhile fun d => '0' ≤ d && d ≤ '7'))],
        (('0' :: tail.take 2).takeWhile fun d => '0' ≤ d && d ≤ '7').length) := rfl
  have others : ((tail.take 2).takeWhile fun d => '0' ≤ d && d ≤ '7') = [] := by
    cases tail with
    | nil => rfl
    | cons d tail => simp [ahead d rfl]
  rw [read, List.takeWhile_cons_of_pos (by decide), others]
  rfl

theorem stringEscape_hex {n : Nat} (tail : List Char) (small : n < 256) :
    stringEscape ('x' :: (n / 16).digitChar :: (n % 16).digitChar :: tail) = ([Char.ofNat n], 3) := by
  have high := isHexDigit_digitChar (n / 16) (by omega)
  have low := isHexDigit_digitChar (n % 16) (by omega)
  have read (a b : Char) : stringEscape ('x' :: a :: b :: tail) =
      if isHexDigit a && isHexDigit b then ([Char.ofNat (digitsValue 16 [a, b])], 3) else (['x'], 1) := rfl
  rw [read, high, low, digitsValue_two small]
  rfl

theorem stringEscape_u (cs : List Char) : stringEscape ('u' :: cs) =
    ((unicodeEscape? ('u' :: cs)).map fun p => (codePointText p.1, p.2)).getD (['u'], 1) := by
  unfold stringEscape
  cases unicodeEscape? ('u' :: cs) <;> rfl

/-- Four hexadecimal digits are read as the code point they write. -/
theorem stringEscape_unicode {a b c d : Char} (tail : List Char) (hex : [a, b, c, d].all isHexDigit = true) :
    stringEscape ('u' :: a :: b :: c :: d :: tail) = (codePointText (digitsValue 16 [a, b, c, d]), 5) := by
  have notBrace : a ≠ '{' := by
    rintro rfl
    simp [isHexDigit] at hex
  have read : unicodeEscape? ('u' :: a :: b :: c :: d :: tail) = some (digitsValue 16 [a, b, c, d], 5) := by
    unfold unicodeEscape?
    split
    · rename_i same
      exact absurd (List.cons.inj (List.cons.inj same).2).1 notBrace
    · rename_i same
      simp only [List.cons.injEq, true_and] at same
      obtain ⟨rfl, rfl, rfl, rfl, -⟩ := same
      rw [if_pos hex]
    · rename_i other
      exact absurd rfl (other a b c d tail)
  rw [stringEscape_u, read]
  rfl

/-! ## One character of a literal -/

theorem escapedChar_plain (rest : List Char) (notQuote : c ≠ quote) (notBackslash : c ≠ '\\')
    (plain : needsEscape c = false) :
    (escapedChar quote c rest).toList = [c] := by
  by_cases tab : c = '\t'
  · subst tab
    simp [escapedChar, notQuote]
  simp only [needsEscape, Bool.or_eq_false_iff, Bool.and_eq_false_iff, decide_eq_false_iff_not,
    bne_eq_false_iff_eq, tab, or_false, beq_eq_false_iff_ne, ne_eq] at plain
  obtain ⟨⟨⟨high, separator⟩, paragraph⟩, mark⟩ := plain
  have apart : ∀ d : Char, d.toNat < 32 → c ≠ d := by
    rintro d low rfl
    exact high low
  have feed := apart '\n' (by decide)
  have back := apart '\r' (by decide)
  have backspace := apart '\x08' (by decide)
  have form := apart '\x0c' (by decide)
  have vertical := apart '\x0b' (by decide)
  have null : c.toNat ≠ 0 := by omega
  simp [escapedChar, notBackslash, notQuote, feed, back, backspace, form, vertical, tab, null, high,
    separator, paragraph, mark]

/-- A control character is escaped by a letter, or by its number. -/
theorem escapedChar_control (notQuote : c ≠ quote) (control : c.toNat < 32) (tab : c ≠ '\t')
    (ahead : (∀ d ∈ rest.head?, d.isDigit = false) → NoDigitAhead tail) :
    ∃ word, (escapedChar quote c rest).toList = '\\' :: word ∧
      stringEscape (word ++ tail) = ([c], word.length) := by
  have backslash : c ≠ '\\' := by
    rintro rfl
    exact absurd control (by decide)
  by_cases feed : c = '\n'
  · subst feed
    exact ⟨['n'], by simp [escapedChar, notQuote], rfl⟩
  by_cases back : c = '\r'
  · subst back
    exact ⟨['r'], by simp [escapedChar, notQuote], rfl⟩
  by_cases backspace : c = '\x08'
  · subst backspace
    exact ⟨['b'], by simp [escapedChar, notQuote], rfl⟩
  by_cases form : c = '\x0c'
  · subst form
    exact ⟨['f'], by simp [escapedChar, notQuote], rfl⟩
  by_cases vertical : c = '\x0b'
  · subst vertical
    exact ⟨['v'], by simp [escapedChar, notQuote], rfl⟩
  by_cases null : c.toNat = 0
  · obtain rfl : Char.ofNat 0 = c := by rw [← null, Char.ofNat_toNat]
    -- a digit behind the short escape of the null character would be taken for a part of it
    cases digit : (rest.head?.map Char.isDigit).getD false with
    | true =>
        refine ⟨['x', '0', '0'], ?_, stringEscape_hex (n := 0) _ (by decide)⟩
        cases rest with
        | nil => cases digit
        | cons d rest =>
            have digit : d.isDigit = true := digit
            simp [escapedChar, notQuote, digit]
    | false =>
        have apart : ∀ d ∈ rest.head?, d.isDigit = false := by
          intro d first
          simpa [Option.mem_def.mp first] using digit
        refine ⟨['0'], ?_, stringEscape_null (ahead apart)⟩
        cases rest with
        | nil => simp [escapedChar, notQuote]
        | cons d rest => simp [escapedChar, notQuote, apart d rfl]
  refine ⟨['x', (c.toNat / 16).digitChar, (c.toNat % 16).digitChar], ?_, ?_⟩
  · simp [escapedChar, backslash, notQuote, feed, back, backspace, form, vertical, tab, null, control,
      toList_twoHexDigits c.toNat control]
  · simpa [Char.ofNat_toNat] using stringEscape_hex tail (show c.toNat < 256 by omega)

/-- An escape is read as the character it was written for. -/
theorem escapedChar_word (rest tail : List Char) (isQuote : quote = '"' ∨ quote = '\'')
    (needs : c = quote ∨ c = '\\' ∨ needsEscape c = true)
    (ahead : (∀ d ∈ rest.head?, d.isDigit = false) → NoDigitAhead tail)
    (notHalf : c = '\\' → surrogateEscape rest = false) :
    ∃ word, (escapedChar quote c rest).toList = '\\' :: word ∧
      stringEscape (word ++ tail) = ([c], word.length) := by
  by_cases backslash : c = '\\'
  · subst backslash
    exact ⟨['\\'], by simp [escapedChar, notHalf rfl], rfl⟩
  by_cases isQ : c = quote
  · subst isQ
    refine ⟨[c], by simp [escapedChar, backslash], ?_⟩
    rcases isQuote with rfl | rfl <;> rfl
  have code : ∀ n, c.toNat = n → Char.ofNat n = c := fun n same => by rw [← same, Char.ofNat_toNat]
  replace needs : ((c.toNat < 32 ∧ c ≠ '\t') ∨ c.toNat = 0x2028) ∨ c.toNat = 0x2029 ∨ c.toNat = 0xfeff := by
    simpa [needsEscape, backslash, isQ, or_assoc] using needs
  rcases needs with (⟨control, tab⟩ | separator) | paragraph | mark
  · exact escapedChar_control isQ control tab ahead
  · obtain rfl := code _ separator
    refine ⟨['u', '2', '0', '2', '8'], by simp [escapedChar, isQ], ?_⟩
    exact stringEscape_unicode tail (show ['2', '0', '2', '8'].all isHexDigit = true by decide)
  · obtain rfl := code _ paragraph
    refine ⟨['u', '2', '0', '2', '9'], by simp [escapedChar, isQ], ?_⟩
    exact stringEscape_unicode tail (show ['2', '0', '2', '9'].all isHexDigit = true by decide)
  · obtain rfl := code _ mark
    refine ⟨['u', 'F', 'E', 'F', 'F'], by simp [escapedChar, isQ], ?_⟩
    exact stringEscape_unicode tail (show ['F', 'E', 'F', 'F'].all isHexDigit = true by decide)

/-! ## Halves of pairs -/

theorem toNat_of_isHexDigit (hex : isHexDigit c = true) : c.toNat < 103 := by
  simp only [isHexDigit, Bool.or_eq_true, Bool.and_eq_true, decide_eq_true_eq] at hex
  rcases hex with (⟨-, upper⟩ | ⟨-, upper⟩) | ⟨-, upper⟩
  all_goals
    have bound : c.toNat ≤ _ := UInt32.le_iff_toNat_le.mp (Char.le_def.mp upper)
    exact Nat.lt_of_le_of_lt bound (by decide)

theorem hexDigit_ofNat : ∀ n < 103, isHexDigit (Char.ofNat n) = true →
    hexValue (Char.ofNat n) < 16 ∧ needsEscape (Char.ofNat n) = false ∧ Char.ofNat n ≠ '\\' ∧
      ((hexValue (Char.ofNat n)).digitChar = Char.ofNat n ↔ isLowerHexDigit (Char.ofNat n) = true) := by
  decide

/-- A hexadecimal digit is written as it is, and its value spells it if it is in lower case. -/
theorem hexDigit_spec (hex : isHexDigit c = true) :
    hexValue c < 16 ∧ needsEscape c = false ∧ c ≠ '\\' ∧
      ((hexValue c).digitChar = c ↔ isLowerHexDigit c = true) := by
  have spec := hexDigit_ofNat c.toNat (toNat_of_isHexDigit hex)
  rw [Char.ofNat_toNat] at spec
  exact spec hex

theorem isHexDigit_letter : ∀ x ∈ "abcdefABCDEF".toList, isHexDigit x = true :=
  List.all_eq_true.mp (by decide)

theorem hexValue_high : ∀ x ∈ "89abcdefABCDEF".toList, isHexDigit x = true ∧ 8 ≤ hexValue x := by
  have each : ("89abcdefABCDEF".toList.all fun x => isHexDigit x && decide (8 ≤ hexValue x)) = true := by decide
  simpa using each

/-- The four digits of a half. -/
theorem half_digits {d a b : Char} (half : surrogateEscape.half d a b c = true) :
    [d, a, b, c].all isHexDigit = true ∧ hexValue d = 13 ∧ 8 ≤ hexValue a := by
  have digit : ∀ x : Char, (x.isDigit || "abcdefABCDEF".contains x) = true → isHexDigit x = true := by
    intro x either
    rcases Bool.or_eq_true_iff.mp either with decimal | letter
    · have decimal : ('0' ≤ x && x ≤ '9') = true := by simpa [Char.isDigit, Char.le_def] using decimal
      simp only [isHexDigit, decimal, Bool.true_or]
    · rw [String.contains_char_eq, decide_eq_true_iff] at letter
      exact isHexDigit_letter x letter
  simp only [surrogateEscape.half, Bool.and_eq_true, List.all_cons, List.all_nil, Bool.and_true] at half
  obtain ⟨⟨first, second⟩, third, fourth⟩ := half
  rw [String.contains_char_eq, decide_eq_true_iff] at second
  have high : isHexDigit d = true ∧ hexValue d = 13 := by
    rcases (by simpa using first : d = 'd' ∨ d = 'D') with rfl | rfl <;> decide
  have next := hexValue_high a second
  simp [high, next, digit b third, digit c fourth]

/-- The code point of four digits, written out. -/
theorem toDigits_four {x y z w : Nat} (positive : 0 < x) (hx : x < 16) (hy : y < 16) (hz : z < 16)
    (hw : w < 16) : Nat.toDigits 16 (16 * (16 * (16 * x + y) + z) + w) =
      [x.digitChar, y.digitChar, z.digitChar, w.digitChar] := by
  rw [← Nat.toDigits_append_toDigits (by decide) (by omega) hw,
    ← Nat.toDigits_append_toDigits (by decide) (by omega) hz,
    ← Nat.toDigits_append_toDigits (by decide) positive hy]
  simp only [Nat.toDigits_of_lt_base, hx, hy, hz, hw, List.cons_append, List.nil_append]

/-- A half in four digits comes back as four digits, in lower case. -/
theorem stringEscape_half {d a b : Char} (half : surrogateEscape.half d a b c = true) :
    stringEscape ('u' :: d :: a :: b :: c :: tail) =
      ('\\' :: 'u' :: [d, a, b, c].map fun x => (hexValue x).digitChar, 5) := by
  obtain ⟨hex, high, next⟩ := half_digits half
  rw [stringEscape_unicode _ hex]
  simp only [List.all_cons, List.all_nil, Bool.and_true, Bool.and_eq_true] at hex
  obtain ⟨-, hexA, hexB, hexC⟩ := hex
  have boundA := (hexDigit_spec hexA).1
  have boundB := (hexDigit_spec hexB).1
  have boundC := (hexDigit_spec hexC).1
  have value : digitsValue 16 [d, a, b, c] =
      16 * (16 * (16 * hexValue d + hexValue a) + hexValue b) + hexValue c := by
    simp [digitsValue]
  have low : 0xd800 ≤ digitsValue 16 [d, a, b, c] := by omega
  have upper : digitsValue 16 [d, a, b, c] ≤ 0xdfff := by omega
  have digits := toDigits_four (x := hexValue d) (by omega) (by omega) boundA boundB boundC
  rw [← value] at digits
  simp [codePointText, low, upper, Text.hexDigits, digits]

theorem le_digitsValue (cs more : List Char) : digitsValue 16 cs ≤ digitsValue 16 (cs ++ more) := by
  rw [digitsValue, digitsValue, List.foldl_append]
  generalize cs.foldl (fun n c => 16 * n + hexValue c) 0 = n
  induction more generalizing n with
  | nil => exact Nat.le_refl n
  | cons c more ih => exact Nat.le_trans (by omega) (ih (16 * n + hexValue c))

/-- What stands for a code point past the first halves never starts like a half in braces. -/
theorem codePointText_ne {code : Nat} (high : 0xd800 ≤ code) (more : List Char) :
    codePointText code ++ more ≠ '\\' :: 'u' :: '{' :: rest := by
  unfold codePointText
  split
  · rename_i half
    have upper : code ≤ 0xdfff := by simpa [high] using half
    have digits := toDigits_four (x := 13) (y := code / 256 % 16) (z := code / 16 % 16) (w := code % 16)
      (by decide) (by decide) (by omega) (by omega) (by omega)
    have value : 16 * (16 * (16 * 13 + code / 256 % 16) + code / 16 % 16) + code % 16 = code := by omega
    rw [value] at digits
    simp [Text.hexDigits, digits]
  · intro same
    have head : Char.ofNat code = '\\' := (List.cons.inj same).1
    have small : (Char.ofNat code).toNat = 92 := congrArg Char.toNat head
    by_cases valid : code.isValidChar
    · have itself : (Char.ofNat code).toNat = code := by
        rw [Char.ofNat, dif_pos valid]
        rfl
      omega
    · have null : (Char.ofNat code).toNat = 0 := by
        rw [Char.ofNat, dif_neg valid]
        rfl
      omega

/-- A half in braces does not come back. -/
theorem stringEscape_brace {d a b : Char} (half : surrogateEscape.half d a b c = true) (more : List Char) :
    (stringEscape ('u' :: '{' :: d :: a :: b :: c :: tail)).1 ++ more ≠ '\\' :: 'u' :: '{' :: rest := by
  obtain ⟨hex, high, next⟩ := half_digits half
  simp only [List.all_cons, List.all_nil, Bool.and_true, Bool.and_eq_true] at hex
  obtain ⟨hexD, hexA, hexB, hexC⟩ := hex
  have code : 0xd800 ≤ digitsValue 16 ((d :: a :: b :: c :: tail).takeWhile isHexDigit) := by
    have split : (d :: a :: b :: c :: tail).takeWhile isHexDigit =
        [d, a, b, c] ++ tail.takeWhile isHexDigit := by
      simp [hexD, hexA, hexB, hexC]
    have value : 0xd800 ≤ digitsValue 16 [d, a, b, c] := by
      simp only [digitsValue, List.foldl_cons, List.foldl_nil]
      omega
    rw [split]
    exact Nat.le_trans value (le_digitsValue _ _)
  rw [stringEscape_u, unicodeEscape?]
  split
  · exact codePointText_ne code more
  · simp

theorem surrogateEscape_cases (spelled : surrogateEscape rest = true) : ∃ d a b c more,
    surrogateEscape.half d a b c = true ∧
      (rest = 'u' :: d :: a :: b :: c :: more ∨ rest = 'u' :: '{' :: d :: a :: b :: c :: more) := by
  unfold surrogateEscape at spelled
  split at spelled
  · rename_i d a b c more
    exact ⟨d, a, b, c, more, spelled, .inr rfl⟩
  · rename_i d a b c more _
    exact ⟨d, a, b, c, more, spelled, .inl rfl⟩
  · cases spelled

/-! ## Whole literals -/

/-- The characters between the quotes of a literal. -/
def escapes (quote : Char) (cs : List Char) : List Char := (escapedChars quote cs).flatMap String.toList

@[simp] theorem escapes_nil : escapes quote [] = [] := rfl

@[simp] theorem escapes_cons :
    escapes quote (c :: rest) = (escapedChar quote c rest).toList ++ escapes quote rest := rfl

theorem toList_stringLiteral (s : String) : (stringLiteral s).toList =
    preferredQuote s.toList :: (escapes (preferredQuote s.toList) s.toList ++ [preferredQuote s.toList]) := by
  simp [stringLiteral, escapes, String.toList_join]

theorem preferredQuote_cases (cs : List Char) : preferredQuote cs = '"' ∨ preferredQuote cs = '\'' := by
  unfold preferredQuote
  split
  · exact .inr rfl
  · exact .inl rfl

theorem head_escapedChar (c : Char) (rest : List Char) (isQuote : quote = '"' ∨ quote = '\'') :
    ∃ word, (escapedChar quote c rest).toList = c :: word ∨ (escapedChar quote c rest).toList = '\\' :: word := by
  by_cases half : c = '\\' ∧ surrogateEscape rest = true
  · exact ⟨[], .inr (by simp [escapedChar, half])⟩
  by_cases needs : c = quote ∨ c = '\\' ∨ needsEscape c = true
  · obtain ⟨word, written, -⟩ := escapedChar_word rest [] isQuote needs
      (fun _ => nofun) (by simpa using half)
    exact ⟨word, .inr written⟩
  · simp only [not_or, Bool.not_eq_true] at needs
    exact ⟨[], .inl (escapedChar_plain rest needs.1 needs.2.1 needs.2.2)⟩

/-- A literal goes on with a digit only where its text does. -/
theorem noDigitAhead_escapes (isQuote : quote = '"' ∨ quote = '\'')
    (apart : ∀ d ∈ cs.head?, d.isDigit = false) : NoDigitAhead (escapes quote cs ++ quote :: tail) := by
  intro d first
  cases cs with
  | nil =>
      obtain rfl : quote = d := by simpa using first
      rcases isQuote with rfl | rfl <;> decide
  | cons c rest =>
      have notDigit : c.isDigit = false := apart c rfl
      obtain ⟨word, written | written⟩ := head_escapedChar c rest isQuote
      · obtain rfl : c = d := by simpa [written] using first
        rintro ⟨low, upper⟩
        have small : c ≤ '9' := Char.le_trans upper (by decide)
        have digit : c.isDigit = true := by simpa [Char.isDigit, Char.le_def] using And.intro low small
        rw [digit] at notDigit
        cases notDigit
      · obtain rfl : '\\' = d := by simpa [written] using first
        decide

theorem escapes_plain (plain : ∀ c ∈ cs, c ≠ quote ∧ c ≠ '\\' ∧ needsEscape c = false) :
    escapes quote (cs ++ rest) = cs ++ escapes quote rest := by
  induction cs with
  | nil => rfl
  | cons c cs ih =>
      obtain ⟨⟨notQuote, notBackslash, simple⟩, others⟩ := List.forall_mem_cons.mp plain
      rw [List.cons_append, escapes_cons, escapedChar_plain _ notQuote notBackslash simple, ih others]
      rfl

theorem plain_of_isHexDigit (isQuote : quote = '"' ∨ quote = '\'') (hex : isHexDigit c = true) :
    c ≠ quote ∧ c ≠ '\\' ∧ needsEscape c = false := by
  obtain ⟨-, simple, notBackslash, -⟩ := hexDigit_spec hex
  refine ⟨?_, notBackslash, simple⟩
  rintro rfl
  rcases isQuote with rfl | rfl <;> cases hex

theorem keepsHalves_plain (plain : ∀ c ∈ cs, c ≠ '\\') : keepsHalves (cs ++ rest) = keepsHalves rest := by
  induction cs with
  | nil => rfl
  | cons c cs ih =>
      obtain ⟨notBackslash, others⟩ := List.forall_mem_cons.mp plain
      simp [keepsHalves, notBackslash, ih others]

theorem escapes_spelled (spelled : surrogateEscape rest = true) :
    escapes quote ('\\' :: rest) = '\\' :: escapes quote rest := by
  simp [escapedChar, spelled]

theorem plain_half (isQuote : quote = '"' ∨ quote = '\'') {d a b : Char}
    (half : surrogateEscape.half d a b c = true) :
    ∀ x ∈ ['u', '{', d, a, b, c], x ≠ quote ∧ x ≠ '\\' ∧ needsEscape x = false := by
  have hex := List.all_eq_true.mp (half_digits half).1
  refine List.forall_mem_cons.mpr ⟨?_, List.forall_mem_cons.mpr ⟨?_, fun x digit => ?_⟩⟩
  · rcases isQuote with rfl | rfl <;> decide
  · rcases isQuote with rfl | rfl <;> decide
  · exact plain_of_isHexDigit isQuote (hex x digit)

theorem length_escapes (isQuote : quote = '"' ∨ quote = '\'') (cs rest : List Char) :
    cs.length + (escapes quote rest).length ≤ (escapes quote (cs ++ rest)).length := by
  induction cs with
  | nil => simp
  | cons c cs ih =>
      have more : 1 ≤ (escapedChar quote c (cs ++ rest)).toList.length := by
        obtain ⟨word, written | written⟩ := head_escapedChar c (cs ++ rest) isQuote
        all_goals simp [written]
      simp only [List.cons_append, escapes_cons, List.length_append, List.length_cons]
      omega

/-- Does the text of a literal come back when it is read with so much fuel? -/
def Kept (quote : Char) (fuel : Nat) (tail cs : List Char) : Prop :=
  (scanString quote fuel (escapes quote cs ++ quote :: tail)).1 = cs ↔ keepsHalves cs = true

/-- A half in four digits is kept when it is in lower case. -/
theorem Kept.half (isQuote : quote = '"' ∨ quote = '\'') {d a b : Char}
    (half : surrogateEscape.half d a b c = true)
    (spelled : surrogateEscape ('u' :: d :: a :: b :: c :: rest) = true) (kept : Kept quote fuel tail rest) :
    Kept quote (fuel + 1) tail ('\\' :: 'u' :: d :: a :: b :: c :: rest) := by
  have notQuote : '\\' ≠ quote := by
    rcases isQuote with rfl | rfl <;> decide
  have plain : ∀ x ∈ ['u', d, a, b, c], x ≠ quote ∧ x ≠ '\\' ∧ needsEscape x = false :=
    fun x member => plain_half isQuote half x (by
      rcases List.mem_cons.mp member with rfl | digit
      · exact List.mem_cons_self
      · exact List.mem_cons_of_mem _ (List.mem_cons_of_mem _ digit))
  have written : escapes quote ('u' :: d :: a :: b :: c :: rest) =
      'u' :: d :: a :: b :: c :: escapes quote rest := escapes_plain plain
  have halves : keepsHalves ('u' :: d :: a :: b :: c :: rest) = keepsHalves rest :=
    keepsHalves_plain fun x member => (plain x member).2.1
  have low : ∀ x ∈ [d, a, b, c], (hexValue x).digitChar = x ↔ isLowerHexDigit x = true :=
    fun x digit => (hexDigit_spec (List.all_eq_true.mp (half_digits half).1 x digit)).2.2.2
  simp only [List.forall_mem_cons, List.not_mem_nil, false_implies, implies_true, and_true] at low
  rw [Kept, escapes_spelled spelled, written, List.cons_append, scanString_backslash notQuote]
  simp only [List.cons_append, stringEscape_half half, List.drop_succ_cons, List.drop_zero]
  rw [keepsHalves, halves]
  rw [Kept] at kept
  simp [spelled, isPlainHalf, low, kept, and_assoc]

/-- A half in braces is not kept. -/
theorem Kept.brace (isQuote : quote = '"' ∨ quote = '\'') {d a b : Char}
    (half : surrogateEscape.half d a b c = true) :
    Kept quote (fuel + 1) tail ('\\' :: 'u' :: '{' :: d :: a :: b :: c :: rest) := by
  have notQuote : '\\' ≠ quote := by
    rcases isQuote with rfl | rfl <;> decide
  have spelled : surrogateEscape ('u' :: '{' :: d :: a :: b :: c :: rest) = true := half
  have written : escapes quote ('u' :: '{' :: d :: a :: b :: c :: rest) =
      'u' :: '{' :: d :: a :: b :: c :: escapes quote rest := escapes_plain (plain_half isQuote half)
  have lost : keepsHalves ('\\' :: 'u' :: '{' :: d :: a :: b :: c :: rest) = false := by
    have notPlain : isPlainHalf ('u' :: '{' :: d :: a :: b :: c :: rest) = false := by
      simp [isPlainHalf, isLowerHexDigit, Char.isDigit]
    rw [keepsHalves, spelled, notPlain]
    rfl
  rw [Kept, lost, escapes_spelled spelled, written, List.cons_append, scanString_backslash notQuote]
  simpa using stringEscape_brace half _

theorem Kept.escaped (isQuote : quote = '"' ∨ quote = '\'') (needs : c = quote ∨ c = '\\' ∨ needsEscape c = true)
    (notHalf : c = '\\' → surrogateEscape rest = false) (kept : Kept quote fuel tail rest) :
    Kept quote (fuel + 1) tail (c :: rest) := by
  have notQuote : '\\' ≠ quote := by
    rcases isQuote with rfl | rfl <;> decide
  obtain ⟨word, written, read⟩ := escapedChar_word rest (escapes quote rest ++ quote :: tail) isQuote
    needs (noDigitAhead_escapes isQuote) notHalf
  have step := scanString_word fuel notQuote read
  have halves : keepsHalves (c :: rest) = keepsHalves rest := by
    by_cases backslash : c = '\\'
    · simp [keepsHalves, notHalf backslash]
    · simp [keepsHalves, backslash]
  rw [Kept, escapes_cons, written, List.append_assoc, step, scannedAhead_fst, List.singleton_append,
    List.cons.injEq, halves]
  simpa [Kept] using kept

theorem Kept.plain (other : c ≠ quote) (notBackslash : c ≠ '\\') (simple : needsEscape c = false)
    (kept : Kept quote fuel tail rest) : Kept quote (fuel + 1) tail (c :: rest) := by
  have written := escapedChar_plain rest other notBackslash simple
  have notFeed : c ≠ '\n' := by
    rintro rfl
    cases simple
  have notReturn : c ≠ '\r' := by
    rintro rfl
    cases simple
  rw [Kept, escapes_cons, written, List.append_assoc, List.singleton_append,
    scanString_plain other notBackslash notFeed notReturn, scannedAhead_fst, List.singleton_append,
    List.cons.injEq]
  simpa [Kept, keepsHalves, notBackslash] using kept

/-- The text of a literal comes back, halves apart: by induction on its length, because a half
is read at once. -/
theorem kept_of_length_lt (tail : List Char) (isQuote : quote = '"' ∨ quote = '\'') (cs : List Char) {fuel : Nat}
    (enough : (escapes quote cs).length < fuel) : Kept quote fuel tail cs := by
  induction shape : cs.length using Nat.strongRecOn generalizing cs fuel with
  | ind n ih =>
  subst shape
  cases fuel with
  | zero => cases enough
  | succ fuel =>
  cases cs with
  | nil => simp [Kept, keepsHalves, scanString_quote]
  | cons c rest =>
  have shorter := length_escapes isQuote [c] rest
  simp only [List.length_singleton, List.singleton_append] at shorter
  have kept : Kept quote fuel tail rest := ih rest.length (Nat.lt_succ_self _) rest (by omega) rfl
  by_cases spelled : c = '\\' ∧ surrogateEscape rest = true
  · obtain ⟨rfl, spelled⟩ := spelled
    obtain ⟨d, a, b, c, more, half, rfl | rfl⟩ := surrogateEscape_cases spelled
    · have after := length_escapes isQuote ['\\', 'u', d, a, b, c] more
      simp only [List.length_cons, List.length_nil, List.cons_append, List.nil_append] at after
      refine .half isQuote half spelled (ih more.length ?_ more (by omega) rfl)
      simp only [List.length_cons]
      omega
    · exact .brace isQuote half
  by_cases needs : c = quote ∨ c = '\\' ∨ needsEscape c = true
  · exact kept.escaped isQuote needs (by simpa using spelled)
  · simp only [not_or, Bool.not_eq_true] at needs
    exact kept.plain needs.1 needs.2.1 needs.2.2

end Reading

/-! ## Strings -/

/-- What a literal in quotes is in a script. -/
theorem scriptString_of_quotes {quote : Char} (isQuote : quote = '"' ∨ quote = '\'') {literal : String}
    {body : List Char} (shape : literal.toList = quote :: body) :
    scriptString literal = String.ofList (scanString quote (body.length + 1) body).1 := by
  have opens : (quote == '\'' || quote == '"') = true := by
    rcases isQuote with rfl | rfl <;> decide
  simp [scriptString, scanCode, shape, opens, Token.string?]

/-- A literal denotes its text, unless that spells a half of a pair in another way than the
reader does. -/
theorem scriptString_stringLiteral (s : String) :
    scriptString (stringLiteral s) = s ↔ keepsHalves s.toList = true := by
  have isQuote := preferredQuote_cases s.toList
  have enough : (escapes (preferredQuote s.toList) s.toList).length <
      (escapes (preferredQuote s.toList) s.toList ++ [preferredQuote s.toList]).length + 1 := by
    rw [List.length_append]
    omega
  have kept := kept_of_length_lt [] isQuote s.toList enough
  rw [scriptString_of_quotes isQuote (toList_stringLiteral s), ← String.toList_inj, String.toList_ofList]
  exact kept

/-- Data is spelled with the characters themselves, or with escapes that a script knows. -/
theorem escaped_cases (c : Char) :
    (Json.escaped c = [c] ∧ c ≠ '"' ∧ c ≠ '\\' ∧ c ≠ '\n' ∧ c ≠ '\r') ∨
      ∃ word, Json.escaped c = '\\' :: word ∧ ∀ tail, stringEscape (word ++ tail) = ([c], word.length) := by
  rcases Json.escaped_forms c with ⟨written, isQuote, backslash, high⟩ | ⟨e, written, -, stands⟩ |
    ⟨control, written⟩
  · refine .inl ⟨written, isQuote, backslash, ?_, ?_⟩
    all_goals
      rintro rfl
      exact absurd high (by decide)
  · -- what is a short escape in data is the same short escape in a script
    refine .inr ⟨[e], written, fun tail => ?_⟩
    unfold Json.shortEscape? at stands
    split at stands <;> cases stands <;> rfl
  · refine .inr ⟨_, written, fun tail => ?_⟩
    obtain ⟨hex, value⟩ := Json.controlCode_spec control
    have notHalf : ¬ 0xd800 ≤ c.toNat := by omega
    simpa [value, codePointText, notHalf, Char.ofNat_toNat] using stringEscape_unicode tail hex

theorem scanString_escaped (c : Char) (tail : List Char) (fuel : Nat) :
    scanString '"' (fuel + 1) (Json.escaped c ++ tail) =
      scannedAhead [c] (Json.escaped c).length (scanString '"' fuel tail) := by
  rcases escaped_cases c with ⟨written, notQuote, notBackslash, notFeed, notReturn⟩ | ⟨word, written, read⟩
  · rw [written]
    exact scanString_plain notQuote notBackslash notFeed notReturn
  · rw [written, scanString_word _ (by decide) (read tail), List.length_cons, Nat.add_comm]

/-- What stands between quotes in data is scanned up to the closing quote, whatever comes behind it. -/
theorem scanString_quotedChars (cs tail : List Char) {fuel : Nat}
    (enough : (cs.flatMap Json.escaped).length < fuel) :
    scanString '"' fuel (cs.flatMap Json.escaped ++ '"' :: tail) =
      (cs, (cs.flatMap Json.escaped).length + 1, true) := by
  induction cs generalizing fuel with
  | nil =>
      cases fuel with
      | zero => cases enough
      | succ fuel => exact scanString_quote
  | cons c cs ih =>
      have some := Json.length_escaped_pos c
      rw [List.flatMap_cons, List.length_append] at enough
      cases fuel with
      | zero => cases enough
      | succ fuel =>
          rw [List.flatMap_cons, List.append_assoc, scanString_escaped, ih (by omega), List.length_append,
            Nat.add_assoc]
          rfl

/-- A literal in the spelling of data denotes its text. -/
theorem scriptString_quoted (s : String) : scriptString (Json.quoted s) = s := by
  rw [scriptString_of_quotes (.inl rfl) (Json.toList_quoted s),
    scanString_quotedChars _ _ (by rw [List.length_append]; omega), String.ofList_toList]

end LiveMarkup.Syntax
