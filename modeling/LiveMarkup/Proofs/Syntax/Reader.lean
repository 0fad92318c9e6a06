import LiveMarkup.Proofs.Syntax.ObjectLiteral
/-
# LiveMarkup.Proofs.Syntax.Reader -- the reader goes from token to token

The reader holds one token and the text behind it.  Which token a text starts with is a question
to the text alone (`Starts`), and a reader that was put in front of the text has that token at hand
(`At`).  `advance` goes on to the text behind the token (`advance_at`).  A punctuator is passed by
going on when it is the token at hand (`eat_advance`), and nothing happens when it is not (`eat_other`).

A name ends at a colon, a string at its closing quote and a whole number at a comma or a blank, so what
they are read as does not depend on what comes behind (`starts_word`, `starts_quoted`, `starts_digits`).
-/

namespace LiveMarkup.Syntax

set_option autoImplicit false

open LiveMarkup.Syntax.Parser Text

/-- The blanks in front of the first token of a text. -/
def blanksAt (from_ : Cursor) : Blanks := skipBlanks .between false from_.offset from_.rest

/-- The first token of a text. -/
def tokenAt (from_ : Cursor) : Scanned := scanCode (blanksAt from_).cursor

/-- A text starts with a token, and there is nothing to complain about. -/
structure Starts (from_ : Cursor) (token : Token) (next : Cursor) : Prop where
  closed : (blanksAt from_).closed = true
  scanned : tokenAt from_ = ⟨token, next, none⟩

/-- The reader has the first token of a text at hand, and has complained about nothing. -/
structure At (c : Context) (from_ : Cursor) (s : State) : Prop where
  current : s.current = (tokenAt from_).token
  start : s.start = (blanksAt from_).cursor
  cursor : s.cursor = (tokenAt from_).cursor
  mode : s.mode = .code
  quiet : s.troubles = []
  context : s.context = c

/-- The state in which the first token of a text is at hand. -/
def State.loaded (s : State) (from_ : Cursor) : State :=
  { s with
    current := (tokenAt from_).token
    start := (blanksAt from_).cursor
    afterNewline := (blanksAt from_).newline
    cursor := (tokenAt from_).cursor }

/-! ## Steps -/

section Steps

variable {α : Type} {c : Context} {from_ next next' : Cursor} {token token' : Token} {s s' s'' : State}
  {p : String}

theorem Parser.bind_ok {β : Type} {p : Parser α} {f : α → Parser β} {a : α} (read : p s = .ok a s') :
    (p >>= f) s = f a s' := by
  simp [bind, EStateM.bind, read]

theorem At.token_eq (here : At c from_ s) (starts : Starts from_ token next) : s.current = token := by
  rw [here.current, starts.scanned]

theorem load_eq (starts : Starts from_ token next) (mode : s.mode = .code) :
    load from_ s = .ok () (s.loaded from_) := by
  have got : (get : Parser State) s = .ok s s := rfl
  have quiet : (scanCode (skipBlanks .between false from_.offset from_.rest).cursor).complaint = none :=
    congrArg Scanned.complaint starts.scanned
  have closed : (skipBlanks .between false from_.offset from_.rest).closed = true := starts.closed
  simp only [load, bind_ok got, mode, scanToken, quiet, closed]
  rfl

/-- The next token is the first one of the text behind the one at hand. -/
theorem advance_at (here : At c from_ s) (starts : Starts from_ token next) (more : Starts next token' next') :
    ∃ s', advance s = .ok () s' ∧ At c next s' ∧ s'.lastEnd = next.offset := by
  have behind : s.cursor = next := by rw [here.cursor, starts.scanned]
  have advanced : advance s =
      load s.cursor { s with lastStart := s.start.offset, lastEnd := s.cursor.offset } := rfl
  rw [behind] at advanced
  exact ⟨_, advanced.trans (load_eq more here.mode),
    ⟨rfl, rfl, rfl, here.mode, here.quiet, here.context⟩, rfl⟩

theorem isPunctuator_eq (p : String) (s : State) : isPunctuator p s = .ok (s.current == .punctuator p) s := rfl

theorem eat_other (other : s.current ≠ .punctuator p) : eat p s = .ok false s := by
  rw [eat, bind_ok (isPunctuator_eq p s), beq_eq_false_iff_ne.mpr other]
  rfl

theorem eat_advance (same : s.current = .punctuator p) (more : advance s = .ok () s') :
    eat p s = .ok true s' := by
  rw [eat, bind_ok (isPunctuator_eq p s), beq_iff_eq.mpr same, if_pos rfl, bind_ok more]
  rfl

theorem expect_advance (same : s.current = .punctuator p) (more : advance s = .ok () s') :
    expect p s = .ok () s' := by
  rw [expect, bind_ok (eat_advance same more)]
  rfl

/-- A reader in another context leaves the context around it as it was. -/
theorem withContext_ok {p : Parser α} {a : α} {change : Context → Context}
    (read : p { s with context := change s.context } = .ok a s') :
    withContext change p s = .ok a { s' with context := { s.context with silent := s'.context.silent } } := by
  have goes : withContext change p s = (p >>= fun a => do
      modify fun s' => { s' with context := { s.context with silent := s'.context.silent } }
      return a : Parser α) { s with context := change s.context } := rfl
  rw [goes, bind_ok read]
  rfl

variable {atEnd : Parser Bool} {item : Parser α} {n : Nat} {a : α} {as : List α}

theorem untilEnd_step (other : atEnd s = .ok false s) (first : item s = .ok a s')
    (rest : untilEnd n atEnd item s' = .ok as s'') : untilEnd (n + 1) atEnd item s = .ok (a :: as) s'' := by
  rw [untilEnd, bind_ok other, if_neg Bool.false_ne_true, bind_ok first, bind_ok rest]
  rfl

theorem untilEnd_end (ended : atEnd s = .ok true s') : untilEnd (n + 1) atEnd item s = .ok [] s' := by
  rw [untilEnd, bind_ok ended]
  rfl

end Steps

/-! ## Tokens -/

section Tokens

variable {c d : Char} {cs ds rest tail : List Char} {context : Context} {token : Token} {next : Cursor} {s : State}

theorem starts_blank {o : Nat} (starts : Starts ⟨rest, o + 1⟩ token next) : Starts ⟨' ' :: rest, o⟩ token next :=
  ⟨starts.closed, starts.scanned⟩

theorem at_blank {o : Nat} (here : At context ⟨' ' :: rest, o⟩ s) : At context ⟨rest, o + 1⟩ s :=
  ⟨here.current, here.start, here.cursor, here.mode, here.quiet, here.context⟩

theorem starts_end (o : Nat) : Starts ⟨[], o⟩ .eof ⟨[], o⟩ := ⟨rfl, rfl⟩

theorem starts_open (rest : List Char) (o : Nat) :
    Starts ⟨'{' :: rest, o⟩ (.punctuator "\x7b") ⟨rest, o + 1⟩ := ⟨rfl, rfl⟩

theorem starts_close (rest : List Char) (o : Nat) :
    Starts ⟨'}' :: rest, o⟩ (.punctuator "\x7d") ⟨rest, o + 1⟩ := ⟨rfl, rfl⟩

theorem starts_comma (rest : List Char) (o : Nat) :
    Starts ⟨',' :: rest, o⟩ (.punctuator ",") ⟨rest, o + 1⟩ := ⟨rfl, rfl⟩

theorem starts_colon (rest : List Char) (o : Nat) :
    Starts ⟨':' :: rest, o⟩ (.punctuator ":") ⟨rest, o + 1⟩ := ⟨rfl, rfl⟩

theorem starts_points (rest : List Char) (o : Nat) :
    Starts ⟨'.' :: '.' :: '.' :: rest, o⟩ (.punctuator "...") ⟨rest, o + 3⟩ := ⟨rfl, rfl⟩

/-- A character that starts no blank and no comment is the first one of a token. -/
theorem blanksAt_solid (notSlash : c ≠ '/') (notEnd : isLineEnd c = false) (notBlank : isBlank c = false)
    (rest : List Char) (o : Nat) : blanksAt ⟨c :: rest, o⟩ = ⟨⟨c :: rest, o⟩, false, true⟩ := by
  simp [blanksAt, skipBlanks, notSlash, notEnd, notBlank]

/-! ### Names -/

theorem nameCharacter_ofNat : ∀ n < 128,
    ((isNameLetter (Char.ofNat n) || isAsciiDigit (Char.ofNat n)) = true →
      isNameContinue (Char.ofNat n) = true ∧ Char.ofNat n ≠ '\\') ∧
    (isNameLetter (Char.ofNat n) = true → isNameStart (Char.ofNat n) = true ∧
      isAsciiDigit (Char.ofNat n) = false ∧ isLineEnd (Char.ofNat n) = false ∧
      isBlank (Char.ofNat n) = false ∧ Char.ofNat n ∉ ['\'', '"', '.', '/']) := by
  decide

/-- A letter starts a name, and nothing else. -/
theorem isNameStart_of_letter (letter : isNameLetter c = true) :
    isNameStart c = true ∧ isAsciiDigit c = false ∧ isLineEnd c = false ∧ isBlank c = false ∧
      c ∉ ['\'', '"', '.', '/'] := by
  have known := (nameCharacter_ofNat c.toNat (toNat_of_isNameLetter letter)).2
  rw [Char.ofNat_toNat] at known
  exact known letter

/-- Letters and digits go on with a name. -/
theorem isNameContinue_of_letter (inside : isNameLetter c = true ∨ isAsciiDigit c = true) :
    isNameContinue c = true ∧ c ≠ '\\' := by
  have small : c.toNat < 128 := inside.elim toNat_of_isNameLetter toNat_of_isAsciiDigit
  have known := (nameCharacter_ofNat c.toNat small).1
  rw [Char.ofNat_toNat] at known
  exact known (by simpa using inside)

theorem scanName_letters (letters : ∀ c ∈ cs, isNameLetter c = true ∨ isAsciiDigit c = true) {fuel : Nat}
    (enough : cs.length < fuel) : scanName fuel (cs ++ ':' :: rest) = (cs, cs.length) := by
  induction cs generalizing fuel with
  | nil =>
      cases fuel with
      | zero => cases enough
      | succ fuel => rfl
  | cons c cs ih =>
      obtain ⟨first, others⟩ := List.forall_mem_cons.mp letters
      obtain ⟨goesOn, notBackslash⟩ := isNameContinue_of_letter first
      cases fuel with
      | zero => cases enough
      | succ fuel =>
          have read := ih others (Nat.lt_of_succ_lt_succ enough)
          simp [scanName, notBackslash, goesOn, read, Nat.add_comm]

theorem scanCode_letter (letter : isNameLetter c = true) (cs : List Char) (o : Nat) : scanCode ⟨c :: cs, o⟩ =
    let (name, n) := scanName ((c :: cs).length + 1) (c :: cs)
    ⟨.word (String.ofList name), Cursor.drop ⟨c :: cs, o⟩ n, none⟩ := by
  obtain ⟨start, notDigit, -, -, apart⟩ := isNameStart_of_letter letter
  simp only [List.mem_cons, List.not_mem_nil, or_false, not_or] at apart
  obtain ⟨notQuote, notDouble, notPoint, -⟩ := apart
  simp [scanCode, isNameHead, start, notDigit, notQuote, notDouble, notPoint]

/-- A name in front of a colon is read as a word. -/
theorem starts_word {text : String} (isName : Property.IsIdentifier text) (rest : List Char) (o : Nat) :
    Starts ⟨text.toList ++ ':' :: rest, o⟩ (.word text) ⟨':' :: rest, o + text.toList.length⟩ := by
  obtain ⟨c, cs, spelled, letter, letters⟩ := isName
  obtain ⟨-, -, notEnd, notBlank, apart⟩ := isNameStart_of_letter letter
  have notSlash : c ≠ '/' := by
    rintro rfl
    exact apart (by decide)
  have blanks := blanksAt_solid notSlash notEnd notBlank (cs ++ ':' :: rest) o
  have name : scanName ((c :: (cs ++ ':' :: rest)).length + 1) (c :: (cs ++ ':' :: rest)) =
      (c :: cs, (c :: cs).length) :=
    scanName_letters (List.forall_mem_cons.mpr ⟨.inl letter, letters⟩) (by
      simp only [List.length_cons, List.length_append]
      omega)
  have named : String.ofList (c :: cs) = text := by rw [← spelled, String.ofList_toList]
  rw [spelled, List.cons_append]
  refine ⟨congrArg Blanks.closed blanks, ?_⟩
  rw [tokenAt, blanks, scanCode_letter letter, name]
  simp [Cursor.drop, named]

/-! ### Strings -/

theorem scanCode_quote (cs : List Char) (o : Nat) : scanCode ⟨'"' :: cs, o⟩ =
    let (value, n, closed) := scanString '"' (cs.length + 1) cs
    let finish := Cursor.drop ⟨'"' :: cs, o⟩ (1 + n)
    ⟨.string (String.ofList value) (Cursor.textTo ⟨'"' :: cs, o⟩ finish), finish,
      if closed then none else some .unterminatedString⟩ := rfl

/-- A string in the spelling of data is read as one token. -/
theorem starts_quoted (text : String) (rest : List Char) (o : Nat) :
    Starts ⟨(Json.quoted text).toList ++ rest, o⟩ (.string text (Json.quoted text))
      ⟨rest, o + (Json.quoted text).toList.length⟩ := by
  let inside := text.toList.flatMap Json.escaped
  have shape : (Json.quoted text).toList = '"' :: (inside ++ ['"']) := Json.toList_quoted text
  have length : 1 + (inside.length + 1) = (Json.quoted text).toList.length := by simp [shape, Nat.add_comm]
  have body : (Json.quoted text).toList ++ rest = '"' :: (inside ++ '"' :: rest) := by simp [shape]
  have whole : ('"' :: (inside ++ '"' :: rest)).take (Json.quoted text).toList.length =
      (Json.quoted text).toList := by rw [← body, List.take_left]
  have behind : ('"' :: (inside ++ '"' :: rest)).drop (Json.quoted text).toList.length = rest := by
    rw [← body, List.drop_left]
  have enough : inside.length < (inside ++ '"' :: rest).length + 1 := by
    rw [List.length_append]
    omega
  have read : scanString '"' ((inside ++ '"' :: rest).length + 1) (inside ++ '"' :: rest) =
      (text.toList, inside.length + 1, true) := scanString_quotedChars _ _ enough
  have blanks : blanksAt ⟨'"' :: (inside ++ '"' :: rest), o⟩ = _ :=
    blanksAt_solid (by decide) (by decide) (by decide) _ o
  rw [body]
  refine ⟨congrArg Blanks.closed blanks, ?_⟩
  rw [tokenAt, blanks, scanCode_quote, read]
  simp only [Cursor.drop, Cursor.textTo, length, Nat.add_sub_cancel_left, whole, behind, String.ofList_toList,
    if_true]

/-! ### Numbers -/

theorem digit_ofNat : ∀ n < 128, isAsciiDigit (Char.ofNat n) = true →
    isLineEnd (Char.ofNat n) = false ∧ isBlank (Char.ofNat n) = false ∧ isWhite (Char.ofNat n) = false ∧
      Char.ofNat n ∉ ['\'', '"', '/', '_'] := by
  decide

theorem digit_spec (digit : isAsciiDigit c = true) :
    isLineEnd c = false ∧ isBlank c = false ∧ isWhite c = false ∧ c ∉ ['\'', '"', '/', '_'] := by
  have known := digit_ofNat c.toNat (toNat_of_isAsciiDigit digit)
  rw [Char.ofNat_toNat] at known
  exact known digit

theorem digitRun_digits (digits : ∀ c ∈ cs, isAsciiDigit c = true)
    (apart : ∀ c ∈ tail.head?, c = ',' ∨ c = ' ') : digitRun isAsciiDigit (cs ++ tail) = cs := by
  have stop : (tail.takeWhile fun c => isAsciiDigit c || c == '_') = [] := by
    cases tail with
    | nil => rfl
    | cons c tail => rcases apart c rfl with rfl | rfl <;> rfl
  rw [digitRun, List.takeWhile_append_of_pos (fun c member => by simp [digits c member]), stop, List.append_nil]

theorem withoutSeparators_digits (digits : ∀ c ∈ cs, isAsciiDigit c = true) : withoutSeparators cs = cs := by
  refine List.filter_eq_self.mpr fun c member => ?_
  obtain ⟨-, -, -, apart⟩ := digit_spec (digits c member)
  simp only [bne_iff_ne, ne_eq]
  rintro rfl
  exact apart (by decide)

theorem scanDecimal_digits (digits : ∀ c ∈ d :: ds, isAsciiDigit c = true) (plain : d ≠ '0')
    (apart : ∀ c ∈ tail.head?, c = ',' ∨ c = ' ') (o : Nat) : scanDecimal ⟨d :: (ds ++ tail), o⟩ =
      (.number (.ofDecimal false (digitsValue 10 (d :: ds)) 0) (String.ofList (d :: ds)),
        ⟨tail, o + (d :: ds).length⟩) := by
  have run : digitRun isAsciiDigit (d :: (ds ++ tail)) = d :: ds := digitRun_digits digits apart
  have behind : (d :: (ds ++ tail)).drop (d :: ds).length = tail := by
    rw [← List.cons_append, List.drop_left]
  have whole : (d :: (ds ++ tail)).take (d :: ds).length = d :: ds := by
    rw [← List.cons_append, List.take_left]
  have notBig : (tail.head? == some 'n') = false := by
    refine beq_eq_false_iff_ne.mpr fun big => ?_
    rcases apart 'n' big with comma | blank
    · cases comma
    · cases blank
  have noFraction : ∀ rest, tail ≠ '.' :: rest := by
    rintro rest rfl
    rcases apart '.' rfl with comma | blank
    · cases comma
    · cases blank
  have noExponent : scanExponent tail = (0, 0) := by
    cases tail with
    | nil => rfl
    | cons c tail => rcases apart c rfl with rfl | rfl <;> rfl
  have noOctal : (some d == some '0') = false := by simpa using plain
  have noSeparator : withoutSeparators [] = [] := rfl
  unfold scanDecimal
  simp only [run, Cursor.drop, behind, notBig, List.head?_cons, noOctal, Bool.false_and, Bool.false_eq_true,
    if_false, noExponent, withoutSeparators_digits digits, noSeparator, List.append_nil, Cursor.textTo,
    Nat.add_zero, Nat.add_sub_cancel_left, whole, List.drop_zero]
  rfl

theorem scanCode_digit (digit : isAsciiDigit d = true) (plain : d ≠ '0') (o : Nat) :
    scanCode ⟨d :: cs, o⟩ = ⟨(scanDecimal ⟨d :: cs, o⟩).1, (scanDecimal ⟨d :: cs, o⟩).2, none⟩ := by
  obtain ⟨-, -, -, apart⟩ := digit_spec digit
  simp only [List.mem_cons, List.not_mem_nil, or_false, not_or] at apart
  obtain ⟨notQuote, notDouble, -⟩ := apart
  simp [scanCode, scanNumber, notQuote, notDouble, digit, plain]

/-- The digits of a whole number are read as one token. -/
theorem starts_digits {text : String} (spelled : text.toList = d :: ds)
    (digits : ∀ c ∈ d :: ds, isAsciiDigit c = true) (plain : d ≠ '0')
    (apart : ∀ c ∈ tail.head?, c = ',' ∨ c = ' ') (o : Nat) :
    Starts ⟨text.toList ++ tail, o⟩ (.number (.ofDecimal false (digitsValue 10 text.toList) 0) text)
      ⟨tail, o + text.toList.length⟩ := by
  have digit : isAsciiDigit d = true := digits d List.mem_cons_self
  obtain ⟨notEnd, notBlank, -, other⟩ := digit_spec digit
  have notSlash : d ≠ '/' := by
    rintro rfl
    exact other (by decide)
  have blanks := blanksAt_solid notSlash notEnd notBlank (ds ++ tail) o
  have named : String.ofList (d :: ds) = text := by rw [← spelled, String.ofList_toList]
  rw [spelled, List.cons_append]
  refine ⟨congrArg Blanks.closed blanks, ?_⟩
  rw [tokenAt, blanks, scanCode_digit digit plain, scanDecimal_digits digits plain apart, named]

end Tokens

end LiveMarkup.Syntax
