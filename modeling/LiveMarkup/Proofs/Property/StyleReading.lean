import Mathlib
import LiveMarkup.Proofs.Number.Text
import LiveMarkup.Proofs.Property.Merging
import LiveMarkup.Proofs.Syntax.ObjectReading
/-
# LiveMarkup.Proofs.Property.StyleReading -- styles that are read back from their code

The code of a style puts the texts of its entries between braces.  Each of these texts spells a
member of an object literal (`spells_text`): a bare key is a name, any other key is the literal of a
string, and what stands behind it is the text of an expression.  So a language that goes by the
grammar of object literals reads the code as an object literal with one member for each entry
(`objectParts?_of_readable`).  It has to be told an expression from a sequence, because a comma in one
would separate members, and there may only be white space around it that a script knows.

Under these conditions a style with distinct keys comes back key by key (`style_survives`): quoted
keys and strings denote what they were made from, numbers lose at most the sign of zero, and
code is shown like the expression it is.

Poles: a style of each kind of value, and a sequence, which is an expression by itself and
falls apart in a style (`sequence_falls_apart`).
-/

namespace LiveMarkup

set_option autoImplicit false

open LiveMarkup.Syntax LiveMarkup.Property

/-- Zero without its sign, and any other number. -/
def Double.unsignedZero (x : Double) : Double := if x.isZero then .zero else x

/-- Is a value no number, or a finite one? -/
def StyleValue.isFinite : StyleValue → Bool
  | .number x => x.isFinite
  | _ => true

/-- The text of the expression in an entry: behind its key, or behind the points of a spread. -/
def StyleEntry.expression (e : StyleEntry) : String :=
  if e.isPasted then String.ofList (e.value.text.toList.drop 3) else e.value.text

/-- Numbers and strings are read as literals, and so they are in a member. -/
def Language.ReadsLiteral (l : Language) (fits : String → Prop) : StyleValue → Prop
  | .number x => x.isFinite = true → fits x.styleText ∧
      ∃ u ∈ l.expression? x.styleText, literalNumber? u = some x.unsignedZero
  | .string text => fits (Json.quoted text) ∧
      ∃ u ∈ l.expression? (Json.quoted text), u.bare = stringTree (scriptString (Json.quoted text))
  | .code _ => True

instance (l : Language) (fits : String → Prop) [DecidablePred fits] (v : StyleValue) :
    Decidable (l.ReadsLiteral fits v) := by
  unfold Language.ReadsLiteral
  split <;> infer_instance

namespace Property

/-- The key of an entry as it is read. -/
def keyTree (key : String) : Tree :=
  if isBareKey key then .leaf (.identifier key) else stringTree (scriptString (Json.quoted key))

/-- The member that an entry is around an expression. -/
def entryPart (e : StyleEntry) (u : Tree) : Tree :=
  if e.isPasted then .node .spread [u] else .node .keyValue [keyTree e.key, u]

/-- The expression of an entry is read as `u`.  A pasted one has to be written behind points. -/
structure Readable (l : Language) (fits : String → Prop) (e : StyleEntry) (u : Tree) : Prop where
  value : l.SpellsValue fits e.expression u
  pointed : e.isPasted = true → e.value.text = "..." ++ e.expression

variable {l : Language} {fits : String → Prop} {s : Style} {e : StyleEntry} {t u v part : Tree}

/-! ## Lists, member by member -/

section Lists

variable {α β γ : Type}

theorem exists_forall₂ {R : α → β → Prop} {as : List α} (each : ∀ a ∈ as, ∃ b, R a b) :
    ∃ bs, List.Forall₂ R as bs := by
  induction as with
  | nil => exact ⟨[], .nil⟩
  | cons a as ih =>
      obtain ⟨⟨b, first⟩, rest⟩ := List.forall_mem_cons.mp each
      obtain ⟨bs, others⟩ := ih rest
      exact ⟨b :: bs, .cons first others⟩

theorem forall₂_trans {R : α → β → Prop} {S : γ → β → Prop} {T : α → γ → Prop}
    (step : ∀ a b c, R a b → S c b → T a c) {as : List α} {bs : List β} {cs : List γ}
    (first : List.Forall₂ R as bs) (second : List.Forall₂ S cs bs) : List.Forall₂ T as cs := by
  induction first generalizing cs with
  | nil =>
      obtain rfl := List.forall₂_nil_right_iff.mp second
      exact .nil
  | cons here rest ih =>
      obtain ⟨c, cs, there, others, rfl⟩ := List.forall₂_cons_right_iff.mp second
      exact .cons (step _ _ _ here there) (ih others)

theorem filterMap_of_forall₂ {R : α → γ → Prop} {f : β → Option γ} {as : List α}
    {bs : List β} (each : List.Forall₂ (fun a b => ∃ c, f b = some c ∧ R a c) as bs) :
    List.Forall₂ R as (bs.filterMap f) := by
  induction each with
  | nil => exact .nil
  | cons here rest ih =>
      obtain ⟨c, found, holds⟩ := here
      rw [List.filterMap_cons_some found]
      exact .cons holds ih

theorem flatMap_of_forall₂ {f : α → List γ} {g : β → List γ} {as : List α} {bs : List β}
    (each : List.Forall₂ (fun a b => g b = f a) as bs) : bs.flatMap g = as.flatMap f := by
  induction each with
  | nil => rfl
  | cons here rest ih => rw [List.flatMap_cons, List.flatMap_cons, here, ih]

end Lists

/-! ## Parts -/

/-- The value that an expression is as a literal. -/
def styleLiteral? (t : Tree) : Option StyleValue :=
  match literalNumber? t with
  | some x => some (.number x)
  | none =>
      match t with
      | .node (.string s _) _ => some (.string s)
      | _ => none

theorem styleValue_eq (l : Language) (t : Tree) :
    styleValue l t = (styleLiteral? t).getD (.code (l.printTree t)) := by
  cases number : literalNumber? t with
  | some x => simp [styleValue, styleLiteral?, number]
  | none =>
      by_cases text : ∃ s raw parts, t = .node (.string s raw) parts
      · obtain ⟨s, raw, parts, rfl⟩ := text
        rfl
      · have shown : styleValue l t = .code (l.printTree t) := by
          simp only [styleValue, number]
          split
          · exact absurd ⟨_, _, _, rfl⟩ text
          · rfl
        have none : styleLiteral? t = none := by
          simp only [styleLiteral?, number]
          split
          · exact absurd ⟨_, _, _, rfl⟩ text
          · rfl
        rw [shown, none]
        rfl

theorem styleLiteral?_cases {value : StyleValue} (literal : styleLiteral? t = some value) :
    (∃ x, literalNumber? t = some x ∧ value = .number x) ∨
      ∃ s raw parts, t = .node (.string s raw) parts ∧ value = .string s := by
  unfold styleLiteral? at literal
  split at literal
  · rename_i x number
    exact .inl ⟨x, number, (Option.some.inj literal).symm⟩
  · split at literal
    · exact .inr ⟨_, _, _, rfl, (Option.some.inj literal).symm⟩
    · cases literal

theorem styleLiteral?_eq_some_of_bare (same : t.bare = u.bare) {value : StyleValue}
    (literal : styleLiteral? u = some value) : styleLiteral? t = some value := by
  rcases styleLiteral?_cases literal with ⟨x, number, rfl⟩ | ⟨s, raw, parts, rfl, rfl⟩
  · simp [styleLiteral?, literalNumber?_of_bare same, number]
  · obtain ⟨raw', parts', rfl⟩ := eq_text_of_bare same
    rfl

theorem styleLiteral?_of_bare (same : t.bare = u.bare) : styleLiteral? t = styleLiteral? u :=
  Option.ext fun _ => ⟨styleLiteral?_eq_some_of_bare same.symm, styleLiteral?_eq_some_of_bare same⟩

theorem styleValue_of_alike (alike : l.Alike v u) : styleValue l v = styleValue l u := by
  rw [styleValue_eq, styleValue_eq, styleLiteral?_of_bare alike.1, alike.2]

/-- A member behind its key is the entry of that key. -/
theorem styleEntryOf?_of_part (plain : e.isPasted = false) (alike : l.AlikePart part (entryPart e u)) :
    styleEntryOf? l part = some ⟨e.key, styleValue l u⟩ := by
  rw [entryPart, plain, if_neg Bool.false_ne_true] at alike
  obtain ⟨k, v, rfl, key, same⟩ := alike.keyValue
  rw [← styleValue_of_alike same]
  unfold keyTree at key
  split at key
  · obtain rfl := eq_identifier_of_bare key
    rfl
  · obtain ⟨raw, rfl⟩ := eq_string_of_bare key
    simp [styleEntryOf?, scriptString_quoted]

/-! ## The code of a style -/

theorem isIdentifier_of_isBareKey {key : String} (bare : isBareKey key = true) : IsIdentifier key := by
  have letter : ∀ c : Char, (c.isAlpha || c == '_' || c == '$') = true → Text.isNameLetter c = true := by
    intro c either
    simp only [Bool.or_eq_true] at either
    rcases either with (alphabetic | line) | dollar
    · simp [Text.isNameLetter, (Text.isAsciiLetter_of_isAlpha alphabetic).2]
    · simp [Text.isNameLetter, line]
    · simp [Text.isNameLetter, dollar]
  unfold isBareKey at bare
  cases chars : key.toList with
  | nil =>
      rw [chars] at bare
      cases bare
  | cons c rest =>
      rw [chars] at bare
      obtain ⟨first, others⟩ := Bool.and_eq_true_iff.mp bare
      refine ⟨c, rest, chars, letter c first, fun d member => ?_⟩
      rcases Bool.or_eq_true_iff.mp (List.all_eq_true.mp others d member) with inside | digit
      · exact .inl (letter d inside)
      · exact .inr (Text.isAsciiDigit_of_isDigit digit).2

theorem spellsKey_keyText (key : String) : SpellsKey (keyText key) (keyTree key) := by
  unfold keyText keyTree
  split
  · rename_i bare
    exact .name (isIdentifier_of_isBareKey bare)
  · exact .literal key

theorem text_of_plain (plain : e.isPasted = false) : e.text = keyText e.key ++ ": " ++ e.value.text := by
  obtain ⟨key, value⟩ := e
  cases value with
  | number x => rfl
  | string text => rfl
  | code c =>
      have unspread : StyleEntry.isSpread ⟨key, .code c⟩ = false := plain
      simp [StyleEntry.text, unspread]

theorem text_of_pasted (pasted : e.isPasted = true) : e.text = e.value.text := by
  obtain ⟨key, value⟩ := e
  cases value with
  | number x => cases pasted
  | string text => cases pasted
  | code c => simp [StyleEntry.text, isSpread_of_isPasted pasted, StyleValue.text]

theorem expression_of_plain (plain : e.isPasted = false) : e.expression = e.value.text := by
  simp [StyleEntry.expression, plain]

/-- The text of an entry spells the member that the entry is. -/
theorem spells_text (readable : Readable l fits e u) : l.Spells fits e.text (entryPart e u) := by
  unfold entryPart
  split
  · rename_i pasted
    rw [text_of_pasted pasted, readable.pointed pasted]
    exact .spread readable.value
  · rename_i plain
    have plain := Bool.eq_false_iff.mpr plain
    rw [text_of_plain plain, ← expression_of_plain plain]
    exact .pair (spellsKey_keyText e.key) readable.value

theorem code_eq_braced (s : Style) : s.code = braced (s.entries.map (·.text)) := by
  unfold Style.code
  cases s.entries <;> rfl

/-- A style whose expressions can be read one by one is read as a whole. -/
theorem objectParts?_of_readable (objects : l.ReadsObjects fits)
    (readable : ∀ e ∈ s.entries, ∃ u, Readable l fits e u) :
    ∃ parts, l.objectParts? s.code = some parts ∧ List.Forall₂
      (fun e part => ∃ u, Readable l fits e u ∧ l.AlikePart part (entryPart e u)) s.entries parts := by
  have each : ∀ e ∈ s.entries, ∃ part, ∃ u, Readable l fits e u ∧ part = entryPart e u :=
    fun e member => (readable e member).elim fun u reads => ⟨_, u, reads, rfl⟩
  obtain ⟨parts, spelled⟩ := exists_forall₂ each
  have members : List.Forall₂ (l.Spells fits) (s.entries.map (·.text)) parts := by
    refine List.forall₂_map_left_iff.mpr (spelled.imp ?_)
    rintro e part ⟨u, reads, rfl⟩
    exact spells_text reads
  obtain ⟨parts', read, alike⟩ := objects _ _ members
  refine ⟨parts', by rw [code_eq_braced]; exact read, forall₂_trans ?_ spelled alike⟩
  rintro e part part' ⟨u, reads, rfl⟩ same
  exact ⟨u, reads, same⟩

/-! ## Literals in a style -/

theorem isWhite_of_isGraphic {c : Char} (graphic : Double.isGraphic c = true) : Text.isWhite c = false := by
  have range := Double.isGraphic_iff.mp graphic
  simp only [Text.isWhite, Bool.or_eq_false_iff, Bool.and_eq_false_iff, beq_eq_false_iff_ne,
    decide_eq_false_iff_not]
  omega

theorem isFenced_of_solid {text : String} (first : ∀ c ∈ text.toList.head?, Text.isWhite c = false)
    (last : ∀ c ∈ text.toList.reverse.head?, Text.isWhite c = false) : isFenced text = true := by
  have none : ∀ cs : List Char, (∀ c ∈ cs.head?, Text.isWhite c = false) → cs.takeWhile Text.isWhite = [] := by
    intro cs solid
    cases cs with
    | nil => rfl
    | cons c cs => exact List.takeWhile_cons_of_neg (by simp [solid c rfl])
  rw [isFenced, none _ first, none _ last]
  rfl

theorem isFenced_styleText (x : Double) : isFenced x.styleText = true :=
  isFenced_of_solid
    (fun c first => isWhite_of_isGraphic (Double.graphic_styleText x c (List.mem_of_mem_head? first)))
    fun c last => isWhite_of_isGraphic
      (Double.graphic_styleText x c (List.mem_reverse.mp (List.mem_of_mem_head? last)))

theorem isFenced_quoted (text : String) : isFenced (Json.quoted text) = true := by
  refine isFenced_of_solid (fun c first => ?_) fun c last => ?_
  · obtain rfl : '"' = c := by simpa [Json.toList_quoted] using first
    decide
  · obtain rfl : '"' = c := by simpa [Json.toList_quoted] using last
    decide

theorem readable_plain (plain : e.isPasted = false) (value : l.SpellsValue fits e.value.text u) :
    Readable l fits e u :=
  ⟨by rwa [expression_of_plain plain], fun pasted => absurd pasted (by simp [plain])⟩

theorem readable_number (reads : l.ReadsLiteral fits e.value) {x : Double} (number : e.value = .number x)
    (finite : x.isFinite = true) : ∃ u, Readable l fits e u ∧ literalNumber? u = some x.unsignedZero := by
  rw [number] at reads
  obtain ⟨fit, u, read, literal⟩ := reads finite
  have single : isSequence u = false := by
    rcases literalNumber?_cases literal with ⟨raw, parts, rfl⟩ | ⟨y, raw, parts, rfl, -⟩ <;> rfl
  refine ⟨u, readable_plain (by simp [StyleEntry.isPasted, number]) ?_, literal⟩
  rw [number]
  exact ⟨read, single, isFenced_styleText x, fit⟩

theorem readable_string (reads : l.ReadsLiteral fits e.value) {text : String} (string : e.value = .string text) :
    ∃ u, Readable l fits e u ∧ u.bare = stringTree text := by
  rw [string] at reads
  obtain ⟨fit, u, read, literal⟩ := reads
  rw [scriptString_quoted] at literal
  obtain ⟨raw, rfl⟩ := eq_string_of_bare literal
  refine ⟨_, readable_plain (by simp [StyleEntry.isPasted, string]) ?_, literal⟩
  rw [string]
  exact ⟨read, rfl, isFenced_quoted text, fit⟩

/-! ## Survival -/

/-- An entry comes back as another one: with its key, its number up to the sign of zero, its
string, or what its code is as an expression. -/
def Survives (l : Language) (e e' : StyleEntry) : Prop :=
  e'.key = e.key ∧
    match e.value with
    | .number x => e'.value = .number x.unsignedZero
    | .string text => e'.value = .string text
    | .code c => ∃ u, readFragment l c = .ok u ∧ e'.value = styleValue l u

/-- What is read back of one entry. -/
theorem entry_survives (literal : l.ReadsLiteral fits e.value) (plain : e.isSpread = false)
    (finite : e.value.isFinite = true)
    (accepted : ∀ c, e.value = .code c →
      ∃ u, readFragment l c = .ok u ∧ isSequence u = false ∧ isFenced c = true ∧ fits c) :
    ∃ u, Readable l fits e u ∧ Survives l e ⟨e.key, styleValue l u⟩ := by
  cases value : e.value with
  | number x =>
      have finite : x.isFinite = true := by simpa [StyleValue.isFinite, value] using finite
      obtain ⟨u, readable, number⟩ := readable_number literal value finite
      exact ⟨u, readable, rfl, by simp [value, styleValue, number]⟩
  | string text =>
      obtain ⟨u, readable, string⟩ := readable_string literal value
      obtain ⟨raw, rfl⟩ := eq_string_of_bare string
      exact ⟨_, readable, rfl, by rw [value]; rfl⟩
  | code c =>
      obtain ⟨u, read, single, fenced, fit⟩ := accepted c value
      refine ⟨u, readable_plain (by simp [StyleEntry.isPasted, value, plain]) ?_, rfl, ?_⟩
      · rw [value]
        exact ⟨Language.mem_expression?.mpr read, single, fenced, fit⟩
      · rw [value]
        exact ⟨u, read, rfl⟩

/-- A style without spreads comes back from its code entry by entry. -/
theorem style_survives (objects : l.ReadsObjects fits) (literals : ∀ e ∈ s.entries, l.ReadsLiteral fits e.value)
    (distinct : (s.entries.map (·.key)).Nodup) (plain : ∀ e ∈ s.entries, e.isSpread = false)
    (finite : ∀ e ∈ s.entries, e.value.isFinite = true)
    (accepted : ∀ e ∈ s.entries, ∀ c, e.value = .code c →
      ∃ u, readFragment l c = .ok u ∧ isSequence u = false ∧ isFenced c = true ∧ fits c) :
    ∃ parts s', readFragment l s.code = .ok (.node .object parts) ∧
      styleOf? l (containerTree (.node .object parts)) = some s' ∧
      List.Forall₂ (Survives l) s.entries s'.entries := by
  have each : ∀ e ∈ s.entries, ∃ u, Readable l fits e u ∧ Survives l e ⟨e.key, styleValue l u⟩ :=
    fun e member => entry_survives (literals e member) (plain e member) (finite e member) (accepted e member)
  obtain ⟨parts, found, shapes⟩ := objectParts?_of_readable objects fun e member =>
    (each e member).imp fun _ both => both.1
  have entries : List.Forall₂ (Survives l) s.entries (parts.filterMap (styleEntryOf? l)) := by
    refine filterMap_of_forall₂ (List.Forall₂.imp ?_
      ((List.forall₂_and_left s.entries parts).mpr ⟨fun e member => member, shapes⟩))
    rintro e part ⟨member, u, readable, shape⟩
    obtain ⟨u', readable', survives⟩ := each e member
    obtain rfl := Option.some.inj (readable.value.read.symm.trans readable'.value.read)
    have unpasted : e.isPasted = false :=
      Bool.eq_false_iff.mpr fun pasted => Bool.eq_false_iff.mp (plain e member) (isSpread_of_isPasted pasted)
    exact ⟨_, styleEntryOf?_of_part unpasted shape, survives⟩
  have keys : s.entries.map (·.key) = (parts.filterMap (styleEntryOf? l)).map (·.key) := by
    rw [← List.forall₂_eq_eq_eq, List.forall₂_map_left_iff, List.forall₂_map_right_iff]
    exact entries.imp fun _ _ survives => survives.1.symm
  refine ⟨parts, _, Language.objectParts?_eq_some.mp found, rfl, ?_⟩
  rw [ofEntries_of_nodup (keys ▸ distinct)]
  exact entries

/-! ## Poles -/

/-- A style of a string, a number and an expression. -/
def chalk : Style :=
  ⟨[⟨"color", .string "\"red\"\u2028"⟩, ⟨"font-size", .number (.ofNat 5)⟩, ⟨"width", .code " f(x) "⟩]⟩

theorem stands_chalk : Stands " f(x) " := by
  refine stands_of_run (t := .node (.call false) [.leaf (.identifier "f"), .node .group [.leaf (.identifier "x")],
    .absent]) (by decide +kernel) ?_ ?_
  · rintro tail o (rest | rest) <;> exact ⟨.word "f", _, ⟨rfl, rfl⟩, by decide⟩
  · rintro n lines o tail newline first last (rest | rest) <;> exact ⟨false, o + 4, o + 5, by cbv⟩

theorem style_survives_chalk : ∃ parts s', readFragment .standard chalk.code = .ok (.node .object parts) ∧
    styleOf? .standard (containerTree (.node .object parts)) = some s' ∧
    List.Forall₂ (Survives .standard) chalk.entries s'.entries := by
  have color : ∃ u ∈ Language.standard.expression? (Json.quoted "\"red\"\u2028"),
      u.bare = stringTree (scriptString (Json.quoted "\"red\"\u2028")) := by decide +kernel
  have size : ∃ u ∈ Language.standard.expression? (Double.styleText (.ofNat 5)),
      literalNumber? u = some (Double.ofNat 5).unsignedZero := by decide +kernel
  have five : Double.styleText (.ofNat 5) = "5" := by decide +kernel
  have width : ∃ u ∈ Language.standard.expression? " f(x) ",
      isSequence u = false ∧ isFenced " f(x) " = true := by decide +kernel
  refine style_survives readsObjects_standard ?_ (by decide) (by decide) (by decide) ?_
  · intro e member
    simp only [chalk, List.mem_cons, List.not_mem_nil, or_false] at member
    rcases member with rfl | rfl | rfl
    · exact ⟨stands_quoted _, color⟩
    · exact fun _ => ⟨five ▸ stands_digits rfl (List.all_eq_true.mp rfl) (by decide), size⟩
    · trivial
  · intro e member c code
    simp only [chalk, List.mem_cons, List.not_mem_nil, or_false] at member
    rcases member with rfl | rfl | rfl
    · cases code
    · cases code
    · cases code
      obtain ⟨u, read, single, fenced⟩ := width
      exact ⟨u, Language.mem_expression?.mp read, single, fenced, stands_chalk⟩

/-- A style of one expression, which is a sequence. -/
def comma : Style := ⟨[⟨"a", .code "x, y"⟩]⟩

/-- Refuting pole: the language goes by the grammar, the code of the one entry is an expression, and
what comes back are two entries. -/
theorem sequence_falls_apart :
    (comma.entries.map (·.key)).Nodup ∧ (∀ e ∈ comma.entries, e.isSpread = false) ∧
    (Language.standard.expression? "x, y").isSome = true ∧ Language.standard.ReadsObjects Stands ∧
    ((Language.standard.expression? comma.code).bind fun t => styleOf? .standard (containerTree t)) =
      some ⟨[⟨"a", .code "x"⟩, ⟨"y", .code "y"⟩]⟩ :=
  ⟨by decide, by decide, by decide +kernel, readsObjects_standard, by decide +kernel⟩

-- a line end of texts that no script knows is dropped around code alone, and not in a style
example : (Language.standard.expression? "x\u0085").isSome = true ∧
    Language.standard.expression? (Style.code ⟨[⟨"a", .code "x\u0085"⟩]⟩) = none := by decide +kernel

end Property

end LiveMarkup
