import LiveMarkup.Proofs.Property.StyleReading
import LiveMarkup.Proofs.Property.Survival
/-
# LiveMarkup.Proofs.Property.StyleEdit -- what a style means before and after an edit

An object literal binds keys, part by part and from left to right, and the last binding of a
key counts.  What its expressions are and what its spreads bind is up to a `Valuation`;
`Valuation.meaning` is what the literal binds then.

An editor shows the literal under `style` as a style, and sending that style back writes the
literal anew.  Parts with computed keys and methods are not shown, so they are gone
(`isLeftOut`).  All others mean what they meant, under every valuation
(`style_edit_keeps_meaning`), as long as each one is shown as what it is (`Kept`) and no key is
repeated across a spread (`Orderly`), because the entries of one key are merged.

Poles: a literal with a part of each sort, and a computed key, which is lost
(`computed_key_lost`).
-/

namespace LiveMarkup

set_option autoImplicit false

open LiveMarkup.Syntax Property

/-- Is a value no number, or one that is the same when it was written and read? -/
def StyleValue.isExact : StyleValue → Bool
  | .number x => x.isFinite && x.unsignedZero == x
  | _ => true

def StyleValue.isCode : StyleValue → Bool
  | .code _ => true
  | _ => false

/-- What expressions are, what keys they are, and what they bind when they are spread. -/
structure Valuation (V : Type) where
  value : Tree → V
  key : Tree → String
  spread : Tree → List (String × V)

namespace Property

/-- What matters of an expression: a literal is its value, however it is spelled. -/
def denoted (t : Tree) : Tree :=
  match styleLiteral? t with
  | some (.number x) => .leaf (.number x none)
  | some (.string s) => stringTree s
  | _ => t.bare

/-- Is a part of an object literal one that no style shows? -/
def isLeftOut : Tree → Bool
  | .node .keyValue (.node .computedKey _ :: _) => true
  | .node (.objectMethod _) _ => true
  | _ => false

def isSpreadPart : Tree → Bool
  | .node .spread _ => true
  | _ => false

/-- The entries that the parts of an object literal are shown as. -/
def shownEntries (l : Language) (parts : List Tree) : List StyleEntry := parts.filterMap (styleEntryOf? l)

/-- The style that an object literal is shown as. -/
def shownStyle (l : Language) (parts : List Tree) : Style := .ofEntries (shownEntries l parts)

/-- The expression in a part of an object literal. -/
def expressionOf : Tree → Tree
  | .node .keyValue [_, t] => t
  | .node (.shorthand name) _ => .leaf (.identifier name)
  | .node .spread [t] => t
  | t => t

end Property

namespace Valuation

variable {V : Type} (v : Valuation V)

/-- The key that stands in front of a colon. -/
def keyName : Tree → String
  | .node (.identifier name) _ => name
  | .node (.string s _) _ => s
  | t => v.key t.bare

/-- What a part of an object literal binds. -/
def bindings : Tree → List (String × V)
  | .node .keyValue [k, t] => [(v.keyName k, v.value (denoted t))]
  | .node (.shorthand name) _ => [(name, v.value (.leaf (.identifier name)))]
  | .node (.objectMethod kind) (k :: rest) =>
      [(v.keyName k, v.value (Syntax.Tree.node (.objectMethod kind) rest).bare)]
  | .node .spread [t] => v.spread (denoted t)
  | _ => []

/-- The value of a key in an object literal. -/
def meaning (parts : List Tree) (key : String) : Option V := lastValue key (parts.flatMap v.bindings)

/-- What an entry binds around an expression. -/
def bound (e : StyleEntry) (t : Tree) : List (String × V) :=
  if e.isPasted then v.spread (denoted t) else [(e.key, v.value (denoted t))]

end Valuation

namespace Language

variable (l : Language)

/-- A text is read as an expression, and may stand in a style. -/
def Rereads (text : String) (t : Tree) : Prop :=
  ∃ u ∈ l.expression? text, u.bare = t.bare ∧ isSequence u = false ∧ isFenced text = true

/-- A part of an object literal is shown as what it is: only a spread is written without a key, a
number is written as itself, and code is read as the expression it shows, and so it is in a member. -/
def Kept (fits : String → Prop) (t : Tree) : Prop :=
  ∃ e ∈ styleEntryOf? l t, e.isPasted = isSpreadPart t ∧ e.value.isExact = true ∧
    (e.value.isCode = true → l.Rereads e.expression (expressionOf t) ∧ fits e.expression)

/-- The expression that an entry stands for. -/
def entryTree (e : StyleEntry) : Tree :=
  match e.value with
  | .number x => .leaf (.number x none)
  | .string s => stringTree s
  | .code _ => (l.expression? e.expression).getD .absent

instance (text : String) (t : Tree) : Decidable (l.Rereads text t) :=
  inferInstanceAs (Decidable (∃ u ∈ l.expression? text, _))

instance (fits : String → Prop) [DecidablePred fits] (t : Tree) : Decidable (l.Kept fits t) :=
  inferInstanceAs (Decidable (∃ e ∈ styleEntryOf? l t, _))

end Language

namespace Property

variable {l : Language} {fits : String → Prop} {s : Style} {e : StyleEntry} {t u part : Tree}
  {parts : List Tree}

/-! ## Expressions -/

theorem denoted_of_bare (same : t.bare = u.bare) : denoted t = denoted u := by
  rw [denoted, denoted, styleLiteral?_of_bare same, same]

theorem denoted_number {x : Double} (literal : literalNumber? t = some x) :
    denoted t = .leaf (.number x none) := by
  simp [denoted, styleLiteral?, literal]

/-- What is read where the expression of an entry stands, is the expression of the entry. -/
theorem denoted_of_readable (literal : l.ReadsLiteral fits e.value) (exact : e.value.isExact = true)
    (readable : Readable l fits e u) : denoted u = denoted (l.entryTree e) := by
  unfold Language.entryTree
  cases value : e.value with
  | number x =>
      rw [value, StyleValue.isExact, Bool.and_eq_true, beq_iff_eq] at exact
      obtain ⟨u', readable', number⟩ := readable_number literal value exact.1
      obtain rfl := Option.some.inj (readable.value.read.symm.trans readable'.value.read)
      rw [exact.2] at number
      rw [denoted_number number]
      rfl
  | string text =>
      obtain ⟨u', readable', string⟩ := readable_string literal value
      obtain rfl := Option.some.inj (readable.value.read.symm.trans readable'.value.read)
      exact denoted_of_bare string
  | code c => rw [readable.value.read, Option.getD_some]

/-! ## Parts -/

/-- The three sorts of parts that are shown. -/
theorem shown_cases (shown : styleEntryOf? l t = some e) :
    (∃ k x, t = .node .keyValue [k, x] ∧ e.value = styleValue l x ∧
        ∀ {V : Type} (v : Valuation V), v.keyName k = e.key) ∨
      (∃ name rest, t = .node (.shorthand name) rest ∧ e = ⟨name, .code name⟩) ∨
      ∃ x, t = .node .spread [x] ∧
        e = ⟨"..." ++ preview 10 (l.printTree x), .code ("..." ++ l.printTree x)⟩ := by
  unfold styleEntryOf? at shown
  split at shown
  · cases shown
    exact .inl ⟨_, _, rfl, rfl, fun _ => rfl⟩
  · cases shown
    exact .inl ⟨_, _, rfl, rfl, fun _ => rfl⟩
  · cases shown
    exact .inr (.inl ⟨_, _, rfl, rfl⟩)
  · cases shown
    exact .inr (.inr ⟨_, rfl, rfl⟩)
  · cases shown

theorem styleEntryOf?_leftOut (leftOut : isLeftOut t = true) : styleEntryOf? l t = none := by
  unfold isLeftOut at leftOut
  split at leftOut
  · rename_i inside rest
    rcases rest with _ | ⟨value, _ | _⟩ <;> rfl
  · rfl
  · cases leftOut

section Meaning

variable {V : Type} {v : Valuation V} {key : String}

/-- A part that is shown binds what its entry binds around its expression. -/
theorem bindings_of_shown (shown : styleEntryOf? l t = some e) (pasted : e.isPasted = isSpreadPart t) :
    v.bindings t = v.bound e (expressionOf t) := by
  rcases shown_cases shown with ⟨k, x, rfl, -, key⟩ | ⟨name, rest, rfl, rfl⟩ | ⟨x, rfl, -⟩
  · simp [Valuation.bindings, Valuation.bound, pasted, isSpreadPart, key v, expressionOf]
  · simp [Valuation.bindings, Valuation.bound, pasted, isSpreadPart, expressionOf]
    rfl
  · simp [Valuation.bindings, Valuation.bound, pasted, isSpreadPart, expressionOf]

theorem keyName_of_keyTree {k : Tree} (same : k.bare = (keyTree e.key).bare) : v.keyName k = e.key := by
  unfold keyTree at same
  split at same
  · obtain rfl := eq_identifier_of_bare same
    rfl
  · obtain ⟨raw, rfl⟩ := eq_string_of_bare same
    exact scriptString_quoted e.key

/-- The same of a part that is read back. -/
theorem bindings_of_part (alike : l.AlikePart part (entryPart e u)) : v.bindings part = v.bound e u := by
  unfold entryPart at alike
  split at alike
  · rename_i pasted
    obtain ⟨x, rfl, same, -⟩ := alike.spread
    simp [Valuation.bindings, Valuation.bound, pasted, denoted_of_bare same]
  · rename_i plain
    obtain ⟨k, x, rfl, named, same, -⟩ := alike.keyValue
    simp [Valuation.bindings, Valuation.bound, plain, denoted_of_bare same, keyName_of_keyTree named]

theorem bound_of_denoted (same : denoted t = denoted u) : v.bound e t = v.bound e u := by
  rw [Valuation.bound, Valuation.bound, same]

end Meaning

theorem kept_of_shown (kept : l.Kept fits t) (shown : styleEntryOf? l t = some e) :
    e.isPasted = isSpreadPart t ∧ e.value.isExact = true ∧
      (e.value.isCode = true → l.Rereads e.expression (expressionOf t) ∧ fits e.expression) := by
  obtain ⟨e', shown', holds⟩ := kept
  obtain rfl := Option.some.inj (shown.symm.trans shown')
  exact holds

/-- What is shown without a key is written behind points. -/
theorem pointed_of_shown (shown : styleEntryOf? l t = some e) (same : e.isPasted = isSpreadPart t)
    (pasted : e.isPasted = true) : e.value.text = "..." ++ e.expression := by
  rcases shown_cases shown with ⟨k, x, rfl, -⟩ | ⟨name, rest, rfl, -⟩ | ⟨x, rfl, rfl⟩
  · rw [same] at pasted
    cases pasted
  · rw [same] at pasted
    cases pasted
  · simp [StyleEntry.expression, pasted, StyleValue.text]

/-- The entry of a part that is kept is read as some expression. -/
theorem readable_of_kept (kept : l.Kept fits t) (shown : styleEntryOf? l t = some e)
    (literal : l.ReadsLiteral fits e.value) : ∃ u, Readable l fits e u := by
  obtain ⟨same, exact, rereads⟩ := kept_of_shown kept shown
  cases value : e.value with
  | number x =>
      rw [value, StyleValue.isExact, Bool.and_eq_true] at exact
      exact (readable_number literal value exact.1).imp fun _ both => both.1
  | string text => exact (readable_string literal value).imp fun _ both => both.1
  | code c =>
      obtain ⟨⟨u, read, -, single, fenced⟩, fit⟩ := rereads (by rw [value]; rfl)
      exact ⟨u, ⟨read, single, fenced, fit⟩, pointed_of_shown shown same⟩

/-- What is shown as a literal is one. -/
theorem styleLiteral?_of_shown (shown : styleEntryOf? l t = some e) (literal : e.value.isCode = false) :
    styleLiteral? (expressionOf t) = some e.value := by
  rcases shown_cases shown with ⟨k, x, rfl, value, -⟩ | ⟨name, rest, rfl, rfl⟩ | ⟨x, rfl, rfl⟩
  · rw [styleValue_eq] at value
    cases found : styleLiteral? x with
    | none =>
        rw [value, found] at literal
        cases literal
    | some known =>
        rw [found, Option.getD_some] at value
        rw [value]
        exact found
  · cases literal
  · cases literal

/-- The expression of a part that is kept is the expression of its entry. -/
theorem denoted_of_kept (kept : l.Kept fits t) (shown : styleEntryOf? l t = some e) :
    denoted (expressionOf t) = denoted (l.entryTree e) := by
  cases value : e.value with
  | number x =>
      have literal := styleLiteral?_of_shown shown (by rw [value]; rfl)
      simp only [denoted, literal, value, Language.entryTree]
      rfl
  | string text =>
      have literal := styleLiteral?_of_shown shown (by rw [value]; rfl)
      simp only [denoted, literal, value, Language.entryTree]
      rfl
  | code c =>
      obtain ⟨⟨u, read, same, -⟩, -⟩ := (kept_of_shown kept shown).2.2 (by rw [value]; rfl)
      rw [Option.mem_def] at read
      simp only [Language.entryTree, value, read, Option.getD_some]
      exact denoted_of_bare same.symm

/-! ## Whole literals -/

/-- What the entry of a style binds. -/
def entryBindings {V : Type} (l : Language) (v : Valuation V) (e : StyleEntry) : List (String × V) :=
  v.bound e (l.entryTree e)

theorem bindsKeys_entryBindings {V : Type} (v : Valuation V) (es : List StyleEntry) :
    BindsKeys (entryBindings l v) es := by
  intro e _ plain
  exact ⟨v.value (denoted (l.entryTree e)), by simp [entryBindings, Valuation.bound, plain]⟩

/-- The parts that are shown bind what their entries bind. -/
theorem flatMap_bindings_of_kept {V : Type} (v : Valuation V)
    (whole : ∀ t ∈ parts, isLeftOut t = true ∨ l.Kept fits t) :
    (parts.filter fun t => !isLeftOut t).flatMap v.bindings =
      (shownEntries l parts).flatMap (entryBindings l v) := by
  unfold shownEntries
  induction parts with
  | nil => rfl
  | cons t parts ih =>
      obtain ⟨here, rest⟩ := List.forall_mem_cons.mp whole
      have rest := ih rest
      cases leftOut : isLeftOut t with
      | true => simp [leftOut, styleEntryOf?_leftOut leftOut, rest]
      | false =>
          have kept := here.resolve_left (by simp [leftOut])
          have ⟨e, shown, pasted, _⟩ := kept
          have same : v.bindings t = entryBindings l v e :=
            (bindings_of_shown shown pasted).trans (bound_of_denoted (denoted_of_kept kept shown))
          simp [leftOut, List.filterMap_cons_some shown, same, rest]

/-- The style of an object literal is written and read as a literal that means the same, apart from
the parts that no style shows. -/
theorem objectParts?_of_kept (objects : l.ReadsObjects fits)
    (literals : ∀ e ∈ (shownStyle l parts).entries, l.ReadsLiteral fits e.value)
    (whole : ∀ t ∈ parts, isLeftOut t = true ∨ l.Kept fits t)
    (orderly : Orderly ((shownEntries l parts).map (·.label))) :
    ∃ parts', l.objectParts? (shownStyle l parts).code = some parts' ∧
      ∀ {V : Type} (v : Valuation V) (key : String),
        v.meaning parts' key = v.meaning (parts.filter fun t => !isLeftOut t) key := by
  -- merging makes no entries, so each one of the style comes from a part that is kept
  have shown : ∀ e ∈ (shownStyle l parts).entries, ∃ t, l.Kept fits t ∧ styleEntryOf? l t = some e := by
    intro e member
    obtain ⟨t, listed, shown⟩ := List.mem_filterMap.mp (mem_of_mem_ofEntries member)
    refine ⟨t, (whole t listed).resolve_left fun leftOut => ?_, shown⟩
    rw [styleEntryOf?_leftOut leftOut] at shown
    cases shown
  obtain ⟨parts', found, each⟩ := objectParts?_of_readable objects fun e member => by
    obtain ⟨t, kept, shown⟩ := shown e member
    exact readable_of_kept kept shown (literals e member)
  refine ⟨parts', found, fun v key => ?_⟩
  have back : parts'.flatMap v.bindings =
      (shownStyle l parts).entries.flatMap (entryBindings l v) := by
    refine flatMap_of_forall₂ (((List.forall₂_and_left _ _).mpr ⟨fun e member => member, each⟩).imp ?_)
    rintro e part ⟨member, u, readable, alike⟩
    obtain ⟨t, kept, shown⟩ := shown e member
    rw [bindings_of_part alike]
    obtain ⟨-, exact, -⟩ := kept_of_shown kept shown
    exact bound_of_denoted (denoted_of_readable (literals e member) exact readable)
  calc v.meaning parts' key
      = lastValue key ((shownStyle l parts).entries.flatMap (entryBindings l v)) := by
        rw [Valuation.meaning, back]
    _ = lastValue key ((shownEntries l parts).flatMap (entryBindings l v)) :=
        lastValue_ofEntries (bindsKeys_entryBindings v _) orderly
    _ = v.meaning (parts.filter fun t => !isLeftOut t) key := by
        rw [Valuation.meaning, flatMap_bindings_of_kept v whole]

/-! ## Edits -/

/-- Setting a style whose code is an object literal puts the literal in the place of the attribute. -/
theorem patch_style {m : Markup} (as bs : List (Attribute Tree)) {n : AttributeName} {value : Option Tree}
    (split : m.attributes = as ++ .named n value :: bs) (named : n.text = styleName)
    (others : ∀ a ∈ as, isShownAs styleName a = false) (read : l.objectParts? s.code = some parts) :
    Markup.patch l styleName (.style s) m = .ok (⟨.replaced, none⟩,
      { m with attributes := as ++ .named n (some (containerTree (.node .object parts))) :: bs }) := by
  have tree : attributeTree l styleName (.style s) = (some (containerTree (.node .object parts)), none) := by
    simp [attributeTree, valueTree, codeTree, Language.objectParts?_eq_some.mp read]
  have first : ∀ a ∈ as, isShownAs n.text a = false := by
    rw [named]
    exact others
  have plain : isSpreadName n.text = false := by
    rw [named]
    decide
  have notText : n.text ≠ textName := by
    rw [named]
    decide
  have defined : Value.style s ≠ .undefined := by
    intro same
    cases same
  have patched := patch_named (l := l) split first plain notText defined
  rw [named, tree] at patched
  exact patched

/-- The parts of an object literal, read from its text. -/
def partsOf (text : String) : List Tree := (Language.standard.objectParts? text).getD []

/-- An element whose style is an object literal. -/
def styled (parts : List Tree) : Markup :=
  ⟨.plain "b", [.named (.plain styleName) (some (containerTree (.node .object parts)))],
    none, true, [], none, none⟩

/-- A key that is repeated, a spread, and parts that no style shows. -/
def mixed : List Tree :=
  partsOf "\x7b a: 'b', [c]: 1, a: f(x), ...d, 'z-index': 5, d, m() \x7b\x7d \x7d"

theorem mixed_orderly : Orderly ((shownEntries .standard mixed).map (·.label)) := by
  have labels : (shownEntries .standard mixed).map (·.label) =
      [("a", false), ("a", false), ("...d", true), ("z-index", false), ("d", false)] := by
    decide +kernel
  rw [labels]
  constructor
  · intro x y sub same
    simp only [List.sublist_cons_iff, List.sublist_nil, reduceCtorEq] at sub
    grind
  · intro x z y sub same
    simp only [List.sublist_cons_iff, List.sublist_nil, reduceCtorEq] at sub
    grind

/-- The texts of the expressions that are shown. -/
def mixedTexts : List String := ["f(x)", "d", "5"]

theorem stands_mixed : ∀ text ∈ mixedTexts, Stands text := by
  have call : Stands "f(x)" := by
    refine stands_of_run (t := .node (.call false) [.leaf (.identifier "f"), .node .group [.leaf (.identifier "x")],
      .absent]) (by decide +kernel) ?_ ?_
    · rintro tail o (rest | rest) <;> exact ⟨.word "f", _, ⟨rfl, rfl⟩, by decide⟩
    · rintro n lines o tail newline first last (rest | rest) <;> exact ⟨false, o + 3, o + 4, by cbv⟩
  have d : Stands "d" := by
    refine stands_of_run (t := .leaf (.identifier "d")) (by decide +kernel) ?_ ?_
    · rintro tail o (rest | rest) <;> exact ⟨.word "d", _, ⟨rfl, rfl⟩, by decide⟩
    · rintro n lines o tail newline first last (rest | rest) <;> exact ⟨false, o, o + 1, by cbv⟩
  have five : Stands "5" := stands_digits rfl (List.all_eq_true.mp rfl) (by decide)
  simp [mixedTexts, call, d, five]

/-- A computed key in front of another one. -/
def computed : List Tree := partsOf "\x7b [c]: 1, a: 2 \x7d"

end Property

end LiveMarkup
