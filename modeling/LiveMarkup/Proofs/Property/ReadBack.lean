import LiveMarkup.Proofs.Property.Addressing
import LiveMarkup.Proofs.Property.Locality
import LiveMarkup.Proofs.Property.StyleReading
/-
# LiveMarkup.Proofs.Property.ReadBack -- a value that is set is shown at once

A value comes to stand in an element as a node, and what the element then shows under the name
is read from that node.  `readBack` says what that is without the node: a literal comes back as it is, but
for the sign of zero, and code as whatever the expression shows that it is
(`expressionShown`).  Code that is no expression comes back as a string with a remark around
it, and in this case alone the patch has a fallback.

Every value has a tree and an attribute or a child around it; that these are shown as `readBack` says is
the content of `valueTree_shown`, `attributeTree_shown` and `textTree_shown`.  The place is known
from the cases of a patch, so `patch_read_back` only has to look there.

Poles: an object literal under the name of styles, code that breaks off, and a text that is undefined.
-/

namespace LiveMarkup

set_option autoImplicit false

open LiveMarkup.Syntax

namespace Property

/-! ## What is read back -/

namespace Value

/-- Is a value no number, or a finite one? -/
def isFinite : Value → Bool
  | .number x => x.isFinite
  | _ => true

/-- A value, with zero instead of negative zero, which is equal to it. -/
def unsigned : Value → Value
  | .number x => .number x.unsignedZero
  | v => v

/-- The code that a value is written as: code itself, and a style as an object literal. -/
def code? : Value → Option String
  | .code c => some c
  | .style s => some s.code
  | _ => none

end Value

/-- What an expression shows under a name: an object literal under the name of styles its entries,
and everything else its value. -/
def expressionShown (l : Language) (name : String) (t : Tree) : Value :=
  if name = styleName then
    match t with
    | .node .object parts => .style (.ofEntries (parts.filterMap (styleEntryOf? l)))
    | t => expressionValue l t
  else expressionValue l t

/-- What code shows under a name: what the expression does that it is, or a remark that it is none. -/
def codeShown (l : Language) (name code : String) : Value :=
  match readFragment l code with
  | .ok t => expressionShown l name t
  | .error _ => .string ("/* Invalid Code: " ++ code ++ " */")

/-- What is shown under a name where a value was set. -/
def readBack (l : Language) (name : String) (v : Value) : Value :=
  match v.code? with
  | none => v.unsigned
  | some c => codeShown l name c

variable {l : Language} {name : String} {v : Value} {e e' : Markup} {o : PatchOutcome} {t : Tree}

/-! ## Expressions -/

theorem expressionShown_of_ne (other : name ≠ styleName) (l : Language) (t : Tree) :
    expressionShown l name t = expressionValue l t := if_neg other

/-- An object literal is code, so what has another value shows that value under every name. -/
theorem expressionShown_of_literal {w : Value} (value : expressionValue l t = w)
    (literal : ∀ c, w ≠ .code c) : expressionShown l name t = w := by
  unfold expressionShown
  split
  · split
    · exact absurd value.symm (literal _)
    · exact value
  · exact value

theorem expressionShown_string (l : Language) (name s : String) :
    expressionShown l name (stringTree s) = .string s :=
  expressionShown_of_literal rfl nofun

/-- A finite number is written as one that is equal to it. -/
theorem expressionValue_numberTree (l : Language) {x : Double} (finite : x.isFinite = true) :
    expressionValue l (numberTree x) = .number x.unsignedZero := by
  cases x with
  | nan => cases finite
  | infinite negative => cases finite
  | finite negative rank =>
      have zero : (Double.finite negative rank).isZero = true → rank = 0 := by
        intro zero
        exact Fin.ext (eq_of_beq zero)
      cases isZero : (Double.finite negative rank).isZero with
      | true =>
          obtain rfl := zero isZero
          cases negative <;> rfl
      | false =>
          rw [Double.unsignedZero, isZero, if_neg Bool.false_ne_true]
          cases negative with
          | false => rfl
          | true =>
              have tree : numberTree (.finite true rank) =
                  .node (.unary "-") [.leaf (.number (.finite false rank) none)] := by
                rw [numberTree, isZero]
                rfl
                exact nofun
              rw [tree]
              rfl

/-- Code is shown as the expression that it is, or as a remark. -/
theorem codeTree_shown (l : Language) (name code : String) :
    expressionShown l name (codeTree l name code).1 = codeShown l name code := by
  cases read : readFragment l code with
  | ok t => simp only [codeTree, codeShown, read]
  | error f =>
      simp only [codeTree, codeShown, read]
      exact expressionShown_string l name _

/-- The tree of a value shows what is read back. -/
theorem valueTree_shown (name : String) (defined : v ≠ .undefined) (finite : v.isFinite = true) :
    expressionShown l name (valueTree l name v).1 = readBack l name v := by
  cases v with
  | undefined => exact absurd rfl defined
  | null => exact expressionShown_of_literal rfl nofun
  | boolean b => exact expressionShown_of_literal rfl nofun
  | number x => exact expressionShown_of_literal (expressionValue_numberTree l finite) nofun
  | string s => exact expressionShown_string l name s
  | code c => exact codeTree_shown l name c
  | style s => exact codeTree_shown l name s.code

/-- The fallback of a value is its code, if that is no expression. -/
theorem valueTree_fallback (l : Language) (name : String) (v : Value) (bad : InvalidCode) :
    (valueTree l name v).2 = some bad ↔
      bad.name = name ∧ v.code? = some bad.code ∧ readFragment l bad.code = .error bad.failure := by
  have ofCode (code : String) : (codeTree l name code).2 = some bad ↔
      bad.name = name ∧ some code = some bad.code ∧ readFragment l bad.code = .error bad.failure := by
    cases read : readFragment l code with
    | ok t =>
      simp only [codeTree, read, reduceCtorEq, Option.some.injEq, false_iff, not_and]
      rintro - rfl
      simp [read]
    | error f =>
      simp only [codeTree, read, Option.some.injEq]
      constructor
      · rintro rfl
        exact ⟨rfl, rfl, read⟩
      · rintro ⟨rfl, rfl, failure⟩
        obtain rfl := Except.error.inj (read.symm.trans failure)
        rfl
  cases v with
  | code c => exact ofCode c
  | style s => exact ofCode s.code
  | _ => simp [valueTree, Value.code?]

/-! ## Attributes and text -/

/-- An expression that is no object literal is no style. -/
theorem styleOf?_containerTree (l : Language) (t : Tree) :
    (∃ parts, t = .node .object parts) ∨
      styleOf? l (containerTree t) = none ∧ expressionShown l styleName t = expressionValue l t := by
  by_cases literal : ∃ parts, t = .node .object parts
  · exact .inl literal
  · refine .inr ⟨?_, ?_⟩
    · unfold styleOf?
      split
      · rename_i parts same
        cases same
        exact absurd ⟨parts, rfl⟩ literal
      · rfl
    · unfold expressionShown
      rw [if_pos rfl]
      split
      · rename_i parts
        exact absurd ⟨parts, rfl⟩ literal
      · rfl

theorem namedValue?_containerTree (l : Language) (name : String) (t : Tree) :
    namedValue? l name (some (containerTree t)) = some (expressionShown l name t) := by
  by_cases styled : name = styleName
  · subst styled
    rcases styleOf?_containerTree l t with ⟨parts, rfl⟩ | ⟨none, value⟩
    · rfl
    · rw [namedValue?, if_pos rfl, none, value]
      rfl
  · rw [namedValue?, if_neg styled, expressionShown_of_ne styled]
    rfl

theorem namedValue?_stringAttribute (l : Language) (name s : String) :
    namedValue? l name (some (stringAttribute s)) = some (.string s) := by
  unfold stringAttribute
  split
  · exact ite_self _
  · rw [namedValue?_containerTree, expressionShown_string]

/-- A value is written as an attribute without a value, as a string, or in a container. -/
theorem attributeTree_cases (l : Language) (name : String) (v : Value) :
    v = .boolean true ∧ attributeTree l name v = (none, none) ∨
      (∃ s, (valueTree l name v).1 = stringTree s ∧
        attributeTree l name v = (some (stringAttribute s), (valueTree l name v).2)) ∨
      attributeTree l name v = (some (containerTree (valueTree l name v).1), (valueTree l name v).2) := by
  have ofCode (c : String) : (∃ s, (codeTree l name c).1 = stringTree s ∧
        attributeTree l name (.code c) = (some (stringAttribute s), (codeTree l name c).2)) ∨
      attributeTree l name (.code c) = (some (containerTree (codeTree l name c).1), (codeTree l name c).2) := by
    cases read : readFragment l c with
    | ok t => exact .inr (by simp [attributeTree, valueTree, codeTree, read])
    | error f =>
        exact .inl ⟨(⟨name, c, f⟩ : InvalidCode).placeholder, by simp [codeTree, read],
          by simp [attributeTree, valueTree, codeTree, read]⟩
  cases v with
  | string s => exact .inr (.inl ⟨s, rfl, rfl⟩)
  | boolean b =>
      cases b with
      | true => exact .inl ⟨rfl, rfl⟩
      | false => exact .inr (.inr rfl)
  | code c => exact .inr (ofCode c)
  | style s =>
      have same : attributeTree l name (.style s) = attributeTree l name (.code s.code) := by
        simp only [attributeTree, valueTree]
      rw [same]
      exact .inr (ofCode s.code)
  | _ => exact .inr (.inr rfl)

/-- The attribute that a value is written as shows what is read back. -/
theorem attributeTree_shown (name : String) (defined : v ≠ .undefined) (finite : v.isFinite = true) :
    (attributeTree l name v).2 = (valueTree l name v).2 ∧
      namedValue? l name (attributeTree l name v).1 = some (readBack l name v) := by
  have shown := valueTree_shown (l := l) name defined finite
  rcases attributeTree_cases l name v with ⟨rfl, tree⟩ | ⟨s, string, tree⟩ | tree
  · rw [tree]
    exact ⟨rfl, rfl⟩
  · rw [string, expressionShown_string] at shown
    rw [tree]
    exact ⟨rfl, by rw [namedValue?_stringAttribute, shown]⟩
  · rw [tree]
    exact ⟨rfl, by rw [namedValue?_containerTree, shown]⟩

/-- Text that may stand between tags as it is shows as it is. -/
theorem childValue?_markupText (l : Language) {s : String} (fits : fitsText s = true) :
    isMeaningful (.leaf (.markupText s s)) = true ∧
      childValue? l (.leaf (.markupText s s)) = some (.string s) := by
  simp only [fitsText, Bool.and_eq_true, Bool.not_eq_true', beq_iff_eq] at fits
  obtain ⟨⟨nonempty, trimmed⟩, -⟩ := fits
  constructor
  · rw [Tree.leaf, isMeaningful, trimmed, nonempty]
    rfl
  · rw [Tree.leaf, childValue?, trimmed]

/-- A value is written as text between tags where it fits there, and else in a container. -/
theorem textTree_cases (l : Language) (v : Value) :
    (∃ s, v = .string s ∧ fitsText s = true ∧ textTree l v = (.leaf (.markupText s s), none)) ∨
      textTree l v = (containerTree (valueTree l textName v).1, (valueTree l textName v).2) := by
  cases v with
  | string s =>
      rw [textTree_string]
      cases fits : fitsText s with
      | true => exact .inl ⟨s, rfl, fits, rfl⟩
      | false => exact .inr rfl
  | _ => exact .inr rfl

/-- The child that a value is written as shows what is read back, unless that is undefined. -/
theorem textTree_shown (defined : v ≠ .undefined) (finite : v.isFinite = true) :
    (textTree l v).2 = (valueTree l textName v).2 ∧ isMeaningful (textTree l v).1 = true ∧
      childValue? l (textTree l v).1 =
        if readBack l textName v = .undefined then none else some (readBack l textName v) := by
  rcases textTree_cases l v with ⟨s, rfl, fits, tree⟩ | tree
  · rw [tree]
    exact ⟨rfl, childValue?_markupText l fits⟩
  · have shown := valueTree_shown (l := l) textName defined finite
    rw [expressionShown_of_ne (by decide)] at shown
    rw [tree]
    refine ⟨rfl, rfl, ?_⟩
    rw [containerTree, childValue?, shown]
    split
    · rename_i undefined
      rw [if_pos undefined]
    · rename_i other
      rw [if_neg other]

/-! ## Properties -/

/-- The text of an element with one meaningful child is what the child shows. -/
theorem text_of_child {child : Tree} (only : e.children = [child]) (meaningful : isMeaningful child = true) :
    (e.properties l).filter (fun p => p.part = .text) =
      ((childValue? l child).map fun v => make textName v .text false).toList := by
  rw [filter_text_properties, only, List.filter_cons_of_pos meaningful, List.filter_nil, ofChildren]
  cases childValue? l child <;> rfl

/-- The attribute that a name addresses is the first property of that name. -/
theorem property_of_attribute {as bs : List (Attribute Tree)} {n : AttributeName} {new : Option Tree}
    {w : Value} (plain : isSpreadName name = false) (other : name ≠ textName)
    (split : e.attributes = as ++ .named n new :: bs) (before : ∀ a ∈ as, isShownAs name a = false)
    (shown : n.text = name) (value : namedValue? l name new = some w) :
    (e.properties l).find? (·.name == name) = some (make name w (addressed name e) false) := by
  subst shown
  have here : isShownAs n.text (.named n new) = true := beq_self_eq_true n.text
  rw [addressed_of_split other split before here]
  refine find?_properties plain split before ?_ rfl
  rw [ofAttribute?, value, Option.map_some]

/-- **What is set is shown.**  Under the reserved name it is the one text, or none if it is undefined,
and under any other name the first property of that name, at the attribute the name
addresses.  The patch has a fallback just when the code of the value is no expression. -/
theorem patch_read_back (defined : v ≠ .undefined) (finite : v.isFinite = true)
    (patched : Markup.patch l name v e = .ok (o, e')) :
    (name ≠ textName → (e'.properties l).find? (·.name == name) =
      some (make name (readBack l name v) (addressed name e') false)) ∧
    (name = textName → (e'.properties l).filter (fun p => p.part = .text) =
      if readBack l textName v = .undefined then [] else [make textName (readBack l textName v) .text false]) ∧
    ∀ bad, o.fallback = some bad ↔
      bad.name = name ∧ v.code? = some bad.code ∧ readFragment l bad.code = .error bad.failure := by
  cases patch_eq_ok_iff.mp patched with
  | attributes plain other done =>
      obtain ⟨fallback, shown⟩ := attributeTree_shown (l := l) name defined finite
      obtain ⟨kept, as, n, bs, split, before, named⟩ := done.placed defined
      refine ⟨fun _ => ?_, fun reserved => absurd reserved other, fun bad => ?_⟩
      · exact property_of_attribute plain other split before named shown
      · rw [kept, fallback, valueTree_fallback]
  | @text children reserved done =>
      subst reserved
      obtain ⟨fallback, meaningful, shown⟩ := textTree_shown (l := l) defined finite
      obtain ⟨kept, rfl⟩ := done.placed defined
      refine ⟨fun other => absurd rfl other, fun _ => ?_, fun bad => ?_⟩
      · rw [text_of_child (Markup.withChildren_children e _) meaningful, shown]
        split <;> rfl
      · rw [kept, fallback, valueTree_fallback]

/-! ## Poles -/

/-- The button with one more attribute. -/
def buttonWith (name : String) (v : Value) : Markup :=
  { button with
    attributes := button.attributes ++ [.named (.plain name) (attributeTree .standard name v).1] }

theorem patch_buttonWith {name : String} {v : Value} (valid : isValidName name = true)
    (other : name ≠ textName ∧ name ≠ "type") (defined : v ≠ .undefined) :
    Markup.patch .standard name v button =
      .ok (⟨.inserted, (attributeTree .standard name v).2⟩, buttonWith name v) := by
  refine (Patched.attributes (isSpreadName_of_valid valid) other.1 (.inserted defined ?_ valid)).patch
  simpa [button, isShownAs, AttributeName.text] using other.2.symm

/-- An object literal as a style, code that breaks off, and the undefined text. -/
theorem patch_read_back_button :
    ((buttonWith styleName (.code "\x7b color: 'red' \x7d")).properties .standard).find? (·.name == styleName) =
      some (make styleName (.style ⟨[⟨"color", .string "red"⟩]⟩) (.attribute 1) false) ∧
    (∃ o e', Markup.patch .standard "onClick" (.code "() => \x7b") button = .ok (o, e') ∧
      (e'.properties .standard).find? (·.name == "onClick") =
        some (make "onClick" (.string "/* Invalid Code: () => \x7b */") (.attribute 1) false) ∧
      o.fallback.isSome = true) ∧
    ∃ o e', Markup.patch .standard textName (.code "undefined") button = .ok (o, e') ∧
      (e'.properties .standard).filter (fun p => p.part = .text) = [] := by
  obtain ⟨style, broken, undefined, unread⟩ :
      readBack .standard styleName (.code "\x7b color: 'red' \x7d") = .style ⟨[⟨"color", .string "red"⟩]⟩ ∧
      readBack .standard "onClick" (.code "() => \x7b") = .string "/* Invalid Code: () => \x7b */" ∧
      readBack .standard textName (.code "undefined") = .undefined ∧
      (readFragment .standard "() => \x7b").isOk = false := by
    decide +kernel
  obtain ⟨f, failure⟩ : ∃ f, readFragment .standard "() => \x7b" = .error f := by
    cases read : readFragment .standard "() => \x7b" with
    | ok t =>
        rw [read] at unread
        cases unread
    | error f => exact ⟨f, rfl⟩
  have patched (name c : String) (valid : isValidName name = true) (other : name ≠ textName ∧ name ≠ "type") :=
    patch_read_back (v := .code c) nofun rfl (patch_buttonWith valid other nofun)
  have text := (Patched.text (l := .standard) (v := .code "undefined") (e := button) rfl
    (.inserted nofun rfl)).patch
  have shown := (patch_read_back (v := .code "undefined") nofun rfl text).2.1 rfl
  rw [if_pos undefined] at shown
  refine ⟨?_, ⟨_, _, patch_buttonWith (by decide) (by decide) nofun, ?_, ?_⟩, _, _, text, shown⟩
  · rw [← style]
    exact (patched styleName _ (by decide) (by decide)).1 (by decide)
  · rw [← broken]
    exact (patched "onClick" _ (by decide) (by decide)).1 (by decide)
  · rw [((patched "onClick" _ (by decide) (by decide)).2.2 ⟨"onClick", _, f⟩).mpr ⟨rfl, rfl, failure⟩]
    rfl

end Property

end LiveMarkup
