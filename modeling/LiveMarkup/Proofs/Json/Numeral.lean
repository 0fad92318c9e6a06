import LiveMarkup.Json.Reader
import LiveMarkup.Json.Writer
import LiveMarkup.Proofs.Number.Text
/-
# LiveMarkup.Proofs.Json.Numeral -- a number is read where it stands

A number has no closing mark: its reader stops at the first character that cannot go on
with it.  What may follow a number in a value without blanks is a comma or the end of an
array or an object (`Bounds`), and none of these goes on with a number.  So a number
that a text gives alone it gives in front of every such rest as well (`readNumeral_local`).

`Number.Legible` says that the text of a number alone is read as that number.
-/

namespace LiveMarkup.Json

set_option autoImplicit false

variable {cs tail : List Char} {positive : Bool} {count offset : Nat} {exponent : Int}
variable {x : Number} {next : Cursor}

/-! ## Cursors -/

/-- What may stand behind a value: the end, a comma, or the end of a container. -/
def Bounds (tail : List Char) : Prop := ∀ c ∈ tail.head?, c = ',' ∨ c = ']' ∨ c = '\x7d'

theorem Bounds.not_digit (bounds : Bounds tail) : ∀ c ∈ tail.head?, c.isDigit = false := by
  intro c first
  rcases bounds c first with rfl | rfl | rfl <;> rfl

theorem takeWhile_append_of_head {p : Char → Bool} (stops : ∀ c ∈ tail.head?, p c = false) :
    (cs ++ tail).takeWhile p = cs.takeWhile p := by
  have none : tail.takeWhile p = [] := by
    cases tail with
    | nil => rfl
    | cons c tail => simp [stops c rfl]
  rw [List.takeWhile_append, none, List.append_nil]
  split
  · next all => rw [(List.takeWhile_prefix p).eq_of_length all]
  · rfl

namespace Cursor

theorem drop_append {n : Nat} (within : n ≤ cs.length) :
    (⟨cs ++ tail, offset⟩ : Cursor).drop n = ⟨cs.drop n ++ tail, offset + n⟩ := by
  rw [drop, List.drop_append_of_le_length within, List.length_append, Nat.min_eq_left (by omega)]

@[simp] theorem drop_one (c : Char) (cs : List Char) (offset : Nat) :
    (⟨c :: cs, offset⟩ : Cursor).drop 1 = ⟨cs, offset + 1⟩ := by
  simp [drop]

/-- What may follow a number does not add to the digits it starts with. -/
theorem digitCount_spec (cs : List Char) : ∃ n ≤ cs.length,
    (∀ offset, (⟨cs, offset⟩ : Cursor).digitCount = n) ∧
      ∀ {tail : List Char}, Bounds tail → ∀ offset, (⟨cs ++ tail, offset⟩ : Cursor).digitCount = n := by
  refine ⟨(cs.takeWhile Char.isDigit).length, (List.takeWhile_prefix _).length_le, fun _ => rfl, ?_⟩
  intro tail bounds offset
  rw [digitCount, takeWhile_append_of_head bounds.not_digit]

theorem skipBlanks_of_head (stands : ∀ c ∈ cs.head?, isBlank c = false) :
    (⟨cs, offset⟩ : Cursor).skipBlanks = ⟨cs, offset⟩ := by
  have none : cs.takeWhile isBlank = [] := by
    cases cs with
    | nil => rfl
    | cons c cs => simp [stands c rfl]
  simp [skipBlanks, none, drop]

theorem skipBlanks_of_bounds (bounds : Bounds cs) :
    (⟨cs, offset⟩ : Cursor).skipBlanks = ⟨cs, offset⟩ :=
  skipBlanks_of_head fun c first => by rcases bounds c first with rfl | rfl | rfl <;> rfl

end Cursor

/-! ## One reader -/

/-- Reading `cs` gives `x` and leaves `left`, wherever it stands and whatever follows. -/
def Yields (read : Cursor → Except Fault (Number × Cursor)) (cs : List Char) (x : Number)
    (left : List Char) : Prop :=
  ∀ tail, Bounds tail → ∀ offset, ∃ stop,
    read ⟨cs ++ tail, offset⟩ = .ok (x, ⟨left ++ tail, stop⟩)

/-- A reader of numbers that takes a number off its text whatever follows it. -/
def Local (read : Cursor → Except Fault (Number × Cursor)) : Prop :=
  ∀ {cs : List Char} {offset : Nat} {x : Number} {next : Cursor},
    read ⟨cs, offset⟩ = .ok (x, next) → next.rest <:+ cs ∧ Yields read cs x next.rest

theorem decimalOf_local : Local (decimalOf positive count exponent) := by
  intro cs offset x next read
  rw [decimalOf] at read
  split at read
  · next y reached =>
      obtain ⟨rfl, rfl⟩ := Prod.mk.inj (Except.ok.inj read)
      refine ⟨List.suffix_refl _, fun tail _ offset => ⟨offset, ?_⟩⟩
      rw [decimalOf, reached]
  · cases read

/-- A reader that passes one character and goes on with a local reader is local there. -/
theorem Local.behind {read inner : Cursor → Except Fault (Number × Cursor)} {d : Char}
    (inside : Local inner) (passes : ∀ cs offset, read ⟨d :: cs, offset⟩ = inner ⟨cs, offset + 1⟩)
    (given : read ⟨d :: cs, offset⟩ = .ok (x, next)) :
    next.rest <:+ d :: cs ∧ Yields read (d :: cs) x next.rest := by
  rw [passes] at given
  obtain ⟨suffix, yields⟩ := inside given
  refine ⟨suffix.trans (List.suffix_cons _ _), fun tail bounds offset => ?_⟩
  obtain ⟨stop, standing⟩ := yields tail bounds (offset + 1)
  exact ⟨stop, (passes _ _).trans standing⟩

/-- A reader that goes on with a local reader where it stands is local there. -/
theorem Local.here {read inner : Cursor → Except Fault (Number × Cursor)} (inside : Local inner)
    (passes : ∀ tail, Bounds tail → ∀ offset, read ⟨cs ++ tail, offset⟩ = inner ⟨cs ++ tail, offset⟩)
    (alone : read ⟨cs, offset⟩ = inner ⟨cs, offset⟩) (given : read ⟨cs, offset⟩ = .ok (x, next)) :
    next.rest <:+ cs ∧ Yields read cs x next.rest := by
  rw [alone] at given
  obtain ⟨suffix, yields⟩ := inside given
  refine ⟨suffix, fun tail bounds offset => ?_⟩
  obtain ⟨stop, standing⟩ := yields tail bounds offset
  exact ⟨stop, (passes tail bounds offset).trans standing⟩

/-- The characters do not start with one of these marks. -/
def Avoids (marks cs : List Char) : Prop := ∀ c ∈ cs.head?, c ∉ marks

theorem Avoids.append {marks : List Char} (avoids : Avoids marks cs)
    (apart : ∀ c ∈ marks, c ≠ ',' ∧ c ≠ ']' ∧ c ≠ '\x7d') (bounds : Bounds tail) :
    Avoids marks (cs ++ tail) := by
  cases cs with
  | nil =>
      intro c first mark
      have others := apart c mark
      rcases bounds c first with rfl | rfl | rfl <;> simp at others
  | cons d cs => exact avoids

theorem exists_of_not_avoids {marks : List Char} (meets : ¬ Avoids marks cs) :
    ∃ d rest, cs = d :: rest ∧ d ∈ marks := by
  cases cs with
  | nil => exact (meets fun c first => nomatch first).elim
  | cons d rest =>
      refine ⟨d, rest, rfl, Decidable.of_not_not fun out => meets fun c first => ?_⟩
      exact Option.some.inj first ▸ out

/-! ## An exponent -/

/-- Behind the sign of an exponent. -/
def readPower (positive : Bool) (count : Nat) (start : Int) (up : Bool) (c : Cursor) :
    Except Fault (Number × Cursor) :=
  match c.rest with
  | [] => .error (c.fault .endInValue)
  | d :: _ =>
      if !d.isDigit then .error ⟨.badNumber, .offset (c.offset + 1)⟩
      else
        match exponentOf? (c.rest.take c.digitCount) with
        | some e =>
            decimalOf positive count (if up then start + e else start - e) (c.drop c.digitCount)
        | none =>
            if count != 0 && up then .error (c.fault .numberTooLarge)
            else .ok (.decimal (if positive then .zero else Double.zero.neg), c.drop c.digitCount)

theorem readPower_local {up : Bool} : Local (readPower positive count exponent up) := by
  intro cs offset x next read
  cases cs with
  | nil => cases read
  | cons d cs =>
      obtain ⟨n, within, alone, behind⟩ := Cursor.digitCount_spec (d :: cs)
      simp only [readPower, alone] at read
      split at read
      · cases read
      next digit =>
      split at read
      · next e power =>
          obtain ⟨suffix, yields⟩ := decimalOf_local read
          refine ⟨suffix.trans (List.drop_suffix n _), fun tail bounds offset => ?_⟩
          obtain ⟨stop, standing⟩ := yields tail bounds (offset + n)
          refine ⟨stop, ?_⟩
          have taken : ((d :: cs) ++ tail).take n = (d :: cs).take n :=
            List.take_append_of_le_length within
          simp only [readPower, behind bounds offset, taken, power, Cursor.drop_append within]
          simpa [digit] using standing
      · next large =>
          split at read
          · cases read
          · next small =>
              obtain ⟨rfl, rfl⟩ := Prod.mk.inj (Except.ok.inj read)
              refine ⟨List.drop_suffix n _, fun tail bounds offset => ⟨offset + n, ?_⟩⟩
              have taken : ((d :: cs) ++ tail).take n = (d :: cs).take n :=
                List.take_append_of_le_length within
              simp only [readPower, behind bounds offset, taken, large, Cursor.drop_append within]
              simp [digit, small, Cursor.drop]

theorem readExponent_plus (cs : List Char) (offset : Nat) :
    readExponent positive count exponent ⟨'+' :: cs, offset⟩ =
      readPower positive count exponent true ⟨cs, offset + 1⟩ := by
  rw [← Cursor.drop_one '+' cs offset]
  rfl

theorem readExponent_minus (cs : List Char) (offset : Nat) :
    readExponent positive count exponent ⟨'-' :: cs, offset⟩ =
      readPower positive count exponent false ⟨cs, offset + 1⟩ := by
  rw [← Cursor.drop_one '-' cs offset]
  rfl

theorem readExponent_unsigned {d : Char} (notPlus : d ≠ '+') (notMinus : d ≠ '-') (cs : List Char)
    (offset : Nat) : readExponent positive count exponent ⟨d :: cs, offset⟩ =
      readPower positive count exponent true ⟨d :: cs, offset⟩ := by
  rw [readExponent]
  split
  next up behind sign =>
  split at sign
  · next plus => exact absurd (List.cons.inj plus).1 notPlus
  · next minus => exact absurd (List.cons.inj minus).1 notMinus
  · cases sign
    rfl

theorem readExponent_local : Local (readExponent positive count exponent) := by
  intro cs offset x next given
  cases cs with
  | nil => cases given
  | cons d cs =>
      by_cases plus : d = '+'
      · subst plus
        exact Local.behind readPower_local readExponent_plus given
      by_cases minus : d = '-'
      · subst minus
        exact Local.behind readPower_local readExponent_minus given
      exact Local.here readPower_local (fun tail _ => readExponent_unsigned plus minus (cs ++ tail))
        (readExponent_unsigned plus minus cs offset) given

theorem readScale_unscaled (avoids : Avoids ['e', 'E'] cs) (offset : Nat) :
    readScale positive count exponent ⟨cs, offset⟩ =
      decimalOf positive count exponent ⟨cs, offset⟩ := by
  rw [readScale]
  split
  · next small => exact (avoids 'e' (by simp_all) (by simp)).elim
  · next large => exact (avoids 'E' (by simp_all) (by simp)).elim
  · rfl

theorem readScale_scaled {d : Char} (mark : d = 'e' ∨ d = 'E') (cs : List Char) (offset : Nat) :
    readScale positive count exponent ⟨d :: cs, offset⟩ =
      readExponent positive count exponent ⟨cs, offset + 1⟩ := by
  rcases mark with rfl | rfl <;> simp [readScale]

theorem readScale_local : Local (readScale positive count exponent) := by
  intro cs offset x next given
  by_cases avoids : Avoids ['e', 'E'] cs
  · exact Local.here decimalOf_local
      (fun tail bounds => readScale_unscaled (avoids.append (by simp) bounds))
      (readScale_unscaled avoids offset) given
  · obtain ⟨d, cs, rfl, mark⟩ := exists_of_not_avoids avoids
    simp only [List.mem_cons, List.not_mem_nil, or_false] at mark
    exact Local.behind readExponent_local (readScale_scaled mark) given

/-! ## Digits and a fraction -/

theorem takeDigits_append (bounds : Bounds tail) (cs : List Char) (count taken : Nat) :
    takeDigits count taken (cs ++ tail) = takeDigits count taken cs := by
  induction cs generalizing count taken with
  | nil =>
      cases tail with
      | nil => rfl
      | cons c tail =>
          have none := bounds.not_digit c rfl
          simp [takeDigits, none]
  | cons d cs ih =>
      simp only [List.cons_append, takeDigits, ih]

theorem readFraction_local : Local (readFraction positive count exponent) := by
  intro cs offset x next read
  obtain ⟨n, within, alone, behind⟩ := Cursor.digitCount_spec cs
  simp only [readFraction, alone] at read
  split at read
  · cases read
  next digits =>
  obtain ⟨suffix, yields⟩ := readScale_local read
  refine ⟨suffix.trans (List.drop_suffix n _), fun tail bounds offset => ?_⟩
  obtain ⟨stop, standing⟩ := yields tail bounds (offset + n)
  refine ⟨stop, ?_⟩
  simp only [readFraction, behind bounds offset, if_neg digits, takeDigits_append bounds,
    Cursor.drop_append within]
  exact standing

/-! ## Numbers -/

/-- Behind the whole digits of a number. -/
def readPoint (positive : Bool) (count : Nat) (exponent : Int) (more : Bool) (c : Cursor) :
    Except Fault (Number × Cursor) :=
  match c.rest with
  | '.' :: _ => readFraction positive count exponent (c.drop 1)
  | 'e' :: _ | 'E' :: _ => readExponent positive count exponent (c.drop 1)
  | _ =>
      if more then decimalOf positive count exponent c
      else if positive then .ok (.whole count, c)
      else if count = 0 ∨ 0x8000000000000000 < count then .ok (.decimal (Double.ofNat count).neg, c)
      else .ok (.whole (-count), c)

theorem readNumber_digit {d : Char} (digit : d.isDigit = true)
    (alone : (d == '0' && (cs.head?.map Char.isDigit).getD false) = false) (offset : Nat) :
    readNumber positive ⟨d :: cs, offset⟩ =
      let c : Cursor := ⟨d :: cs, offset⟩
      let taken := takeDigits 0 0 (d :: cs)
      readPoint positive taken.1 (c.digitCount - taken.2.1 : Nat) taken.2.2 (c.drop c.digitCount) := by
  simp only [readNumber, digit, alone]
  rfl

theorem readPoint_point {more : Bool} (cs : List Char) (offset : Nat) :
    readPoint positive count exponent more ⟨'.' :: cs, offset⟩ =
      readFraction positive count exponent ⟨cs, offset + 1⟩ := by
  simp [readPoint]

theorem readPoint_scaled {more : Bool} {d : Char} (mark : d = 'e' ∨ d = 'E') (cs : List Char)
    (offset : Nat) : readPoint positive count exponent more ⟨d :: cs, offset⟩ =
      readExponent positive count exponent ⟨cs, offset + 1⟩ := by
  rcases mark with rfl | rfl <;> simp [readPoint]

/-- A number without a fraction or an exponent. -/
def readWhole (positive : Bool) (count : Nat) (exponent : Int) (more : Bool) (c : Cursor) :
    Except Fault (Number × Cursor) :=
  if more then decimalOf positive count exponent c
  else if positive then .ok (.whole count, c)
  else if count = 0 ∨ 0x8000000000000000 < count then .ok (.decimal (Double.ofNat count).neg, c)
  else .ok (.whole (-count), c)

theorem readPoint_whole {more : Bool} (avoids : Avoids ['.', 'e', 'E'] cs) (offset : Nat) :
    readPoint positive count exponent more ⟨cs, offset⟩ =
      readWhole positive count exponent more ⟨cs, offset⟩ := by
  rw [readPoint]
  split
  · next point => exact (avoids '.' (by simp_all) (by simp)).elim
  · next small => exact (avoids 'e' (by simp_all) (by simp)).elim
  · next large => exact (avoids 'E' (by simp_all) (by simp)).elim
  · rfl

theorem readWhole_local {more : Bool} : Local (readWhole positive count exponent more) := by
  intro cs offset x next given
  cases more with
  | true => exact decimalOf_local given
  | false =>
      have kept (y : Number) (gives : ∀ c, readWhole positive count exponent false c = .ok (y, c)) :
          next.rest <:+ cs ∧ Yields (readWhole positive count exponent false) cs x next.rest := by
        obtain ⟨rfl, rfl⟩ := Prod.mk.inj (Except.ok.inj ((gives _).symm.trans given))
        exact ⟨List.suffix_refl _, fun tail _ offset => ⟨offset, gives _⟩⟩
      cases positive with
      | true => exact kept (.whole count) fun c => rfl
      | false =>
          by_cases inexact : count = 0 ∨ 0x8000000000000000 < count
          · exact kept (.decimal (Double.ofNat count).neg) fun c => by simp [readWhole, inexact]
          · exact kept (.whole (-count)) fun c => by simp [readWhole, inexact]

theorem readPoint_local {more : Bool} : Local (readPoint positive count exponent more) := by
  intro cs offset x next given
  by_cases avoids : Avoids ['.', 'e', 'E'] cs
  · exact Local.here readWhole_local
      (fun tail bounds => readPoint_whole (avoids.append (by simp) bounds))
      (readPoint_whole avoids offset) given
  · obtain ⟨d, cs, rfl, mark⟩ := exists_of_not_avoids avoids
    simp only [List.mem_cons, List.not_mem_nil, or_false] at mark
    rcases mark with rfl | rfl | rfl
    · exact Local.behind readFraction_local readPoint_point given
    · exact Local.behind readExponent_local (readPoint_scaled (.inl rfl)) given
    · exact Local.behind readExponent_local (readPoint_scaled (.inr rfl)) given

theorem readNumber_local : Local (readNumber positive) := by
  intro cs offset x next given
  cases cs with
  | nil => cases given
  | cons d cs =>
      cases digit : d.isDigit with
      | false => simp [readNumber, digit] at given
      | true =>
          cases alone : d == '0' && (cs.head?.map Char.isDigit).getD false with
          | true => simp [readNumber, digit, alone] at given
          | false =>
              rw [readNumber_digit digit alone] at given
              obtain ⟨n, within, counted, behind⟩ := Cursor.digitCount_spec (d :: cs)
              simp only [counted] at given
              obtain ⟨suffix, yields⟩ := readPoint_local given
              refine ⟨suffix.trans (List.drop_suffix n _), fun tail bounds offset => ?_⟩
              obtain ⟨stop, standing⟩ := yields tail bounds (offset + n)
              refine ⟨stop, ?_⟩
              have apart : (d == '0' && ((cs ++ tail).head?.map Char.isDigit).getD false) = false := by
                cases cs with
                | cons e cs => exact alone
                | nil =>
                    cases tail with
                    | nil => exact alone
                    | cons e tail => simp [bounds.not_digit e rfl]
              have taken := takeDigits_append bounds (d :: cs) 0 0
              rw [List.cons_append, readNumber_digit digit apart, ← List.cons_append]
              simp only [taken, behind bounds offset, Cursor.drop_append within]
              exact standing

/-! ## The text of a number -/

/-- Characters without a blank among them. -/
def Solid (cs : List Char) : Prop := ∀ c ∈ cs, Cursor.isBlank c = false

theorem isBlank_of_isGraphic {c : Char} (graphic : Double.isGraphic c = true) : Cursor.isBlank c = false := by
  simp only [Cursor.isBlank, Bool.or_eq_false_iff, beq_eq_false_iff_ne]
  refine ⟨⟨⟨?_, ?_⟩, ?_⟩, ?_⟩
  all_goals
    rintro rfl
    exact absurd graphic (by decide)

theorem isBlank_of_isDigit {c : Char} (digit : c.isDigit = true) : Cursor.isBlank c = false :=
  isBlank_of_isGraphic (Double.isGraphic_of_isDigit digit)

theorem solid_of_graphic {cs : List Char} (graphic : Double.Graphic cs) : Solid cs :=
  fun c member => isBlank_of_isGraphic (graphic c member)

theorem Number.solid_text (n : Number) : Solid n.text.toList := by
  cases n with
  | whole i => exact solid_of_graphic (Double.graphic_toString_int i)
  | decimal x => exact solid_of_graphic (Double.graphic_dataText x)

/-! ## Numbers among values -/

/-- A number with its sign. -/
def readNumeral (c : Cursor) : Except Fault (Number × Cursor) :=
  match c.rest with
  | '-' :: _ => readNumber false (c.drop 1)
  | _ => readNumber true c

theorem readNumeral_unsigned {d : Char} (notMinus : d ≠ '-') (cs : List Char) (offset : Nat) :
    readNumeral ⟨d :: cs, offset⟩ = readNumber true ⟨d :: cs, offset⟩ := by
  rw [readNumeral]
  split
  · next minus => exact absurd (List.cons.inj minus).1 notMinus
  · rfl

theorem readNumeral_local : Local readNumeral := by
  intro cs offset x next given
  cases cs with
  | nil => cases given
  | cons d cs =>
      by_cases minus : d = '-'
      · subst minus
        have inside : Local (readNumber false) := readNumber_local
        exact Local.behind inside (fun cs offset => by simp [readNumeral]) given
      · exact Local.here readNumber_local (fun tail _ => readNumeral_unsigned minus (cs ++ tail))
          (readNumeral_unsigned minus cs offset) given

/-- What a number starts with. -/
def opensNumber (c : Char) : Bool := c == '-' || c.isDigit

theorem readNumeral_head (given : readNumeral ⟨cs, offset⟩ = .ok (x, next)) :
    ∃ d rest, cs = d :: rest ∧ opensNumber d = true := by
  cases cs with
  | nil => cases given
  | cons d cs =>
      refine ⟨d, cs, rfl, ?_⟩
      by_cases minus : d = '-'
      · simp [opensNumber, minus]
      · cases digit : d.isDigit with
        | true => simp [opensNumber, digit]
        | false =>
            rw [readNumeral_unsigned minus] at given
            simp [readNumber, digit] at given

/-- Reading came to a value and stands in front of `tail`. -/
def Readout.Gives (r : Readout) (v : Json) (tail : List Char) : Prop :=
  r.value = v ∧ ∃ stop, r.rest = some ⟨tail, stop⟩

theorem Readout.damaged_value (fuel : Nat) (v : Json) (parts : List Outline) (c : Cursor) :
    ∃ skipped, (Readout.damaged fuel v parts c).value = .cut v skipped := by
  rw [Readout.damaged]
  split
  · exact ⟨_, rfl⟩
  · exact ⟨_, rfl⟩

/-- The value of a part that is a word, a string or a number. -/
def Readout.ofScalar (fuel : Nat) (c : Cursor) : Except Fault (Json × Cursor) → Readout
  | .ok (v, next) => .plain v c next []
  | .error f => .damaged fuel (.fault f) [] c

theorem readValue_numeral {d : Char} (opens : opensNumber d = true) (fuel depth : Nat)
    (cs : List Char) (offset : Nat) :
    readValue (fuel + 1) depth ⟨d :: cs, offset⟩ =
      Readout.ofScalar (fuel + 1) ⟨d :: cs, offset⟩
        ((readNumeral ⟨d :: cs, offset⟩).map fun r => (.number r.1, r.2)) := by
  have standing : (⟨d :: cs, offset⟩ : Cursor).skipBlanks = ⟨d :: cs, offset⟩ := by
    refine Cursor.skipBlanks_of_head fun c first => ?_
    obtain rfl := Option.some.inj first
    rcases Bool.or_eq_true _ _ ▸ opens with minus | digit
    · rw [eq_of_beq minus]; rfl
    · exact isBlank_of_isDigit digit
  unfold readValue
  dsimp only
  rw [standing]
  by_cases minus : d = '-'
  · subst minus
    rfl
  · have digit : d.isDigit = true := by simpa [opensNumber, minus] using opens
    -- No word, string or container starts with a digit.
    split
    · contradiction
    all_goals try
      next same =>
        obtain ⟨rfl, -⟩ := List.cons.inj same
        exact absurd digit (by decide)
    next first rest _ _ _ _ _ _ _ same =>
      obtain ⟨rfl, rfl⟩ := List.cons.inj same
      rw [if_pos digit, readNumeral_unsigned minus]
      rfl

theorem opensNumber_of_value {fuel depth : Nat} {c : Cursor} {n : Number}
    (given : (readValue (fuel + 1) depth c).value = .number n) :
    ∃ d rest, c.skipBlanks.rest = d :: rest ∧ opensNumber d = true := by
  have broken {fuel : Nat} {v : Json} {parts : List Outline} {c : Cursor} :
      (Readout.damaged fuel v parts c).value ≠ .number n := by
    obtain ⟨skipped, value⟩ := Readout.damaged_value fuel v parts c
    rw [value]
    exact Json.noConfusion
  have scalar {fuel : Nat} {c : Cursor} {r : Except Fault (Json × Cursor)}
      (other : ∀ a, r = .ok a → a.1 ≠ .number n) : (Readout.ofScalar fuel c r).value ≠ .number n := by
    cases r with
    | ok a => exact other a rfl
    | error f => exact broken
  have mapped {β : Type} {r : Except Fault β} {f : β → Json × Cursor}
      (other : ∀ b, (f b).1 ≠ .number n) (a : Json × Cursor) (read : r.map f = .ok a) :
      a.1 ≠ .number n := by
    cases r with
    | ok b => cases read; exact other b
    | error f => cases read
  unfold readValue at given
  dsimp only at given
  split at given
  · exact (broken given).elim
  · exact (scalar (mapped (by simp)) given).elim
  · exact (scalar (mapped (by simp)) given).elim
  · exact (scalar (mapped (by simp)) given).elim
  · next rest minus => exact ⟨'-', rest, minus, rfl⟩
  · exact (scalar (mapped (by simp)) given).elim
  · split at given
    · exact (broken given).elim
    split at given
    · cases given
    · exact (broken given).elim
    split at given
    · cases given
    · exact (broken given).elim
  · split at given
    · exact (broken given).elim
    split at given
    · cases given
    · split at given
      · cases given
      · exact (broken given).elim
    · exact (broken given).elim
    · exact (broken given).elim
  · next d rest _ _ _ _ _ _ _ stands =>
      split at given
      · next digit => exact ⟨d, rest, stands, by simp [opensNumber, digit]⟩
      · exact (broken given).elim

theorem Cursor.skipBlanks_of_solid (solid : Solid cs) :
    (⟨cs, offset⟩ : Cursor).skipBlanks = ⟨cs, offset⟩ :=
  skipBlanks_of_head fun c first => solid c (List.mem_of_mem_head? first)

namespace Number

/-- The text of a number alone is read as that number. -/
def Legible (n : Number) : Prop := ofText? n.text = .ok (.number n)

instance (n : Number) : Decidable n.Legible :=
  match given : ofText? n.text with
  | .ok (.number x) => decidable_of_iff (x = n) (by rw [Legible, given]; simp)
  | .ok .null | .ok (.boolean _) | .ok (.string _) | .ok (.array _) | .ok (.object _)
  | .ok (.fault _) | .ok (.cut _ _) | .error _ => isFalse (by rw [Legible, given]; simp)

/-- The text of a legible number is a numeral from end to end. -/
theorem Legible.numeral {n : Number} (legible : n.Legible) :
    ∃ stop, readNumeral ⟨n.text.toList, 0⟩ = .ok (n, ⟨[], stop⟩) := by
  have solid := n.solid_text
  obtain ⟨value, trailing⟩ : (ofText n.text).value = .number n ∧ (ofText n.text).trailing = none := by
    rw [Legible, ofText?] at legible
    split at legible
    · cases legible
    · next sound => exact ⟨Except.ok.inj legible, (Option.or_eq_none_iff.mp sound).2⟩
  obtain ⟨d, rest, opening, opens⟩ := opensNumber_of_value value
  simp only [ofText, Cursor.ofText] at value trailing opening
  rw [Cursor.skipBlanks_of_solid solid] at opening
  dsimp only at opening
  rw [opening] at solid value trailing ⊢
  rw [readValue_numeral opens] at value trailing
  cases given : readNumeral ⟨d :: rest, 0⟩ with
  | error f =>
      rw [given] at value
      obtain ⟨skipped, broken⟩ := Readout.damaged_value (2 * (d :: rest).length + 2) (.fault f) []
        ⟨d :: rest, 0⟩
      exact Json.noConfusion (broken.symm.trans value)
  | ok r =>
      obtain ⟨x, next⟩ := r
      rw [given] at value trailing
      obtain rfl : x = n := Json.number.inj value
      have left : Solid next.rest := fun c mem => solid c ((readNumeral_local given).1.mem mem)
      have blank : next.skipBlanks = next := Cursor.skipBlanks_of_solid left
      have ended : next.rest = [] := by
        simp only [Except.map, Readout.ofScalar, Readout.plain, Option.bind_some] at trailing
        rw [blank] at trailing
        simpa using trailing
      exact ⟨next.offset, by rw [← ended]⟩

/-- What a legible number is written as is read as it wherever the number ends. -/
theorem Legible.reads {n : Number} (legible : n.Legible) (bounds : Bounds tail)
    (fuel depth offset : Nat) :
    (readValue (fuel + 1) depth ⟨n.text.toList ++ tail, offset⟩).Gives (.number n) tail := by
  obtain ⟨_, alone⟩ := legible.numeral
  obtain ⟨d, rest, opening, opens⟩ := readNumeral_head alone
  obtain ⟨stop, standing⟩ := (readNumeral_local alone).2 tail bounds offset
  rw [opening, List.cons_append] at standing ⊢
  rw [readValue_numeral opens, standing]
  exact ⟨rfl, stop, rfl⟩

theorem Legible.head {n : Number} (legible : n.Legible) :
    ∃ d rest, n.text.toList = d :: rest ∧ opensNumber d = true := by
  obtain ⟨_, alone⟩ := legible.numeral
  exact readNumeral_head alone

/-- The numbers of a value of a property are written with a fraction or an exponent. -/
example : (Number.decimal (Double.ofDecimal false 15 (-1))).Legible := by decide +kernel

end Number

end LiveMarkup.Json
