import Mathlib.Data.Option.Basic
import LiveMarkup.Property.Patch
/-
# LiveMarkup.Proofs.Property.Cases -- all that a patch can do

`AttributesPatched` lists what becomes of the attributes of an element when one is set or
removed, and `TextPatched` what becomes of its children when the text is; each case carries what
the patch found and the answer it gives.  `Refused` lists why nothing is done.  Together they are
the patch (`patch_eq_ok_iff`, `patch_eq_error_iff`), so laws about patches are read off
these cases and do not open the definition.

Setting the text is the only patch that touches the tags: an element without a closing tag gets
one (`Markup.withChildren`).
-/

namespace LiveMarkup

set_option autoImplicit false

open LiveMarkup.Syntax

namespace Markup

/-- The element with other children; where there are any, tags stand around them. -/
def withChildren (e : Markup) (children : List Tree) : Markup :=
  if children.isEmpty then { e with children := [] } else opened { e with children := children }

theorem withChildren_nil (e : Markup) : e.withChildren [] = { e with children := [] } := rfl

theorem withChildren_cons (e : Markup) (child : Tree) (children : List Tree) :
    e.withChildren (child :: children) = opened { e with children := child :: children } := rfl

/-- Only the children and the tags are others. -/
theorem withChildren_frame (e : Markup) (children : List Tree) :
    e.withChildren children =
      { e with
        children := children
        selfClosing := (e.withChildren children).selfClosing
        closing := (e.withChildren children).closing } := by
  cases children with
  | nil => rfl
  | cons child children =>
      rw [withChildren_cons]
      unfold opened
      split <;> rfl

@[simp]
theorem withChildren_children (e : Markup) (children : List Tree) :
    (e.withChildren children).children = children := by
  rw [withChildren_frame]

/-- The first children leave no trace. -/
theorem withChildren_withChildren (e : Markup) (child child' : Tree) :
    (e.withChildren [child]).withChildren [child'] = e.withChildren [child'] := by
  simp only [withChildren_cons]
  unfold opened
  by_cases closes : (e.selfClosing || e.closing.isNone) = true <;> simp [closes]

end Markup

namespace Property

variable {l : Language} {name : String} {v : Value} {e e' : Markup} {o : PatchOutcome}

/-! ## What a patch does -/

/-- What becomes of attributes when one of them is set or removed: the first of the name goes or
gets another value in its place, or a new one comes behind all others. -/
inductive AttributesPatched (l : Language) (name : String) (v : Value) :
    PatchOutcome → List (Attribute Tree) → List (Attribute Tree) → Prop where
  | unchanged {as : List (Attribute Tree)} (undefined : v = .undefined)
      (absent : ∀ a ∈ as, isShownAs name a = false) :
      AttributesPatched l name v ⟨.unchanged, none⟩ as as
  | removed {as bs : List (Attribute Tree)} {n : AttributeName} {old : Option Tree}
      (undefined : v = .undefined) (before : ∀ a ∈ as, isShownAs name a = false) (shown : n.text = name) :
      AttributesPatched l name v ⟨.removed, none⟩ (as ++ .named n old :: bs) (as ++ bs)
  | replaced {as bs : List (Attribute Tree)} {n : AttributeName} {old : Option Tree}
      (defined : v ≠ .undefined) (before : ∀ a ∈ as, isShownAs name a = false) (shown : n.text = name) :
      AttributesPatched l name v ⟨.replaced, (attributeTree l name v).2⟩ (as ++ .named n old :: bs)
        (as ++ .named n (attributeTree l name v).1 :: bs)
  | inserted {as : List (Attribute Tree)} (defined : v ≠ .undefined)
      (absent : ∀ a ∈ as, isShownAs name a = false) (valid : isValidName name = true) :
      AttributesPatched l name v ⟨.inserted, (attributeTree l name v).2⟩ as
        (as ++ [.named (.plain name) (attributeTree l name v).1])

/-- What the children of an element become when its text is set or removed: the one child that shows
the value, or none. -/
inductive TextPatched (l : Language) (v : Value) (e : Markup) : PatchOutcome → List Tree → Prop where
  | unchanged (undefined : v = .undefined) (empty : e.children = []) :
      TextPatched l v e ⟨.unchanged, none⟩ []
  | removed (undefined : v = .undefined) (editable : isTextless? e ≠ none) (inhabited : e.children ≠ []) :
      TextPatched l v e ⟨.removed, none⟩ []
  | replaced (defined : v ≠ .undefined) (text : isTextless? e = some false) :
      TextPatched l v e ⟨.replaced, (textTree l v).2⟩ [(textTree l v).1]
  | inserted (defined : v ≠ .undefined) (textless : isTextless? e = some true) :
      TextPatched l v e ⟨.inserted, (textTree l v).2⟩ [(textTree l v).1]

/-- What a patch makes of an element. -/
inductive Patched (l : Language) (name : String) (v : Value) (e : Markup) :
    PatchOutcome → Markup → Prop where
  | attributes {o : PatchOutcome} {as : List (Attribute Tree)} (plain : isSpreadName name = false)
      (other : name ≠ textName) (done : AttributesPatched l name v o e.attributes as) :
      Patched l name v e o { e with attributes := as }
  | text {o : PatchOutcome} {children : List Tree} (reserved : name = textName)
      (done : TextPatched l v e o children) : Patched l name v e o (e.withChildren children)

/-- Why a patch is refused: the name of a spread, children that are no text, or an attribute that is
not there and may not be added. -/
inductive Refused (name : String) (v : Value) (e : Markup) : PatchFailure → Prop where
  | spread (spread : isSpreadName name = true) : Refused name v e (.readOnly name)
  | children (reserved : name = textName) (mixed : isTextless? e = none) : Refused name v e (.readOnly name)
  | invalid (plain : isSpreadName name = false) (other : name ≠ textName) (defined : v ≠ .undefined)
      (absent : ∀ a ∈ e.attributes, isShownAs name a = false) (invalid : isValidName name = false) :
      Refused name v e (.invalidName name)

/-! ## The cases are the patch -/

theorem patch_textName (v : Value) (e : Markup) : Markup.patch l textName v e = patchText l v e := by
  have plain : ¬ isSpreadName textName = true := by decide
  rw [Markup.patch, if_neg plain, if_pos rfl]

theorem patch_attribute (plain : isSpreadName name = false) (other : name ≠ textName) (v : Value)
    (e : Markup) : Markup.patch l name v e = patchAttribute l name v e := by
  rw [Markup.patch, if_neg (Bool.eq_false_iff.mp plain), if_neg other]

theorem removeFirst_split {as bs : List (Attribute Tree)} {a : Attribute Tree}
    (before : ∀ a ∈ as, isShownAs name a = false) (shown : isShownAs name a = true) :
    removeFirst name (as ++ a :: bs) = as ++ bs := by
  induction as with
  | nil => simp [removeFirst, shown]
  | cons b as ih =>
      obtain ⟨other, rest⟩ := List.forall_mem_cons.mp before
      simp [removeFirst, other, ih rest]

theorem replaceFirst_split {as bs : List (Attribute Tree)} {a : Attribute Tree}
    (before : ∀ a ∈ as, isShownAs name a = false) (shown : isShownAs name a = true)
    (value : Option Tree) : replaceFirst name value (as ++ a :: bs) = as ++ withValue value a :: bs := by
  induction as with
  | nil => simp [replaceFirst, shown]
  | cons b as ih =>
      obtain ⟨other, rest⟩ := List.forall_mem_cons.mp before
      simp [replaceFirst, other, ih rest]

theorem isTextless?_of_empty (empty : e.children = []) : isTextless? e = some true := by
  rw [isTextless?, empty]
  rfl

/-- Attributes are without a name, or split at the first of the name. -/
theorem attributes_cases (name : String) (attributes : List (Attribute Tree)) :
    (∀ a ∈ attributes, isShownAs name a = false) ∨
      ∃ as n old bs, attributes = as ++ .named n old :: bs ∧ (∀ a ∈ as, isShownAs name a = false) ∧
        n.text = name := by
  cases found : attributes.find? (isShownAs name) with
  | none =>
      refine .inl fun a member => ?_
      simpa using List.find?_eq_none.mp found a member
  | some a =>
      obtain ⟨shown, as, bs, rfl, others⟩ := List.find?_eq_some_iff_append.mp found
      cases a with
      | spread t => cases shown
      | named n old =>
          refine .inr ⟨as, n, old, bs, rfl, fun a member => ?_, by simpa [isShownAs] using shown⟩
          simpa using others a member

/-- Setting or removing an attribute that is not there. -/
theorem patchAttribute_of_absent (absent : ∀ a ∈ e.attributes, isShownAs name a = false) :
    patchAttribute l name v e =
      if v = .undefined then .ok (⟨.unchanged, none⟩, e)
      else if isValidName name then
        .ok (⟨.inserted, (attributeTree l name v).2⟩,
          { e with attributes := e.attributes ++ [.named (.plain name) (attributeTree l name v).1] })
      else .error (.invalidName name) := by
  have none : e.attributes.any (isShownAs name) = false := by simpa using absent
  simp [patchAttribute, none]

/-- Setting or removing an attribute that is there. -/
theorem patchAttribute_of_split {as bs : List (Attribute Tree)} {n : AttributeName} {old : Option Tree}
    (split : e.attributes = as ++ .named n old :: bs) (before : ∀ a ∈ as, isShownAs name a = false)
    (shown : n.text = name) :
    patchAttribute l name v e =
      if v = .undefined then .ok (⟨.removed, none⟩, { e with attributes := as ++ bs })
      else .ok (⟨.replaced, (attributeTree l name v).2⟩,
        { e with attributes := as ++ .named n (attributeTree l name v).1 :: bs }) := by
  subst shown
  have first : isShownAs n.text (.named n old) = true := beq_self_eq_true n.text
  simp [patchAttribute, split, first, removeFirst_split before first, replaceFirst_split before first,
    withValue]

theorem AttributesPatched.patchAttribute {as : List (Attribute Tree)}
    (done : AttributesPatched l name v o e.attributes as) :
    patchAttribute l name v e = .ok (o, { e with attributes := as }) := by
  generalize split : e.attributes = attributes at done
  cases done with
  | unchanged undefined absent =>
      rw [← split] at absent ⊢
      rw [patchAttribute_of_absent absent, if_pos undefined]
  | removed undefined before shown =>
      rw [patchAttribute_of_split split before shown, if_pos undefined]
  | replaced defined before shown =>
      rw [patchAttribute_of_split split before shown, if_neg defined]
  | inserted defined absent valid =>
      rw [← split] at absent ⊢
      rw [patchAttribute_of_absent absent, if_neg defined, if_pos valid]

theorem TextPatched.patchText {children : List Tree} (done : TextPatched l v e o children) :
    patchText l v e = .ok (o, e.withChildren children) := by
  cases done with
  | unchanged undefined empty =>
      have same : e.withChildren [] = e := by rw [Markup.withChildren_nil, ← empty]
      simp [patchText, isTextless?_of_empty empty, undefined, empty, same]
  | removed undefined editable inhabited =>
      obtain ⟨textless, found⟩ := Option.ne_none_iff_exists'.mp editable
      simp [patchText, found, undefined, inhabited, Markup.withChildren_nil]
  | replaced defined text =>
      simp [patchText, text, defined, Markup.withChildren_cons]
  | inserted defined textless =>
      simp [patchText, textless, defined, Markup.withChildren_cons]

theorem Patched.patch (patched : Patched l name v e o e') : Markup.patch l name v e = .ok (o, e') := by
  cases patched with
  | attributes plain other done => rw [patch_attribute plain other, done.patchAttribute]
  | text reserved done =>
      subst reserved
      rw [patch_textName, done.patchText]

theorem Refused.patch {f : PatchFailure} (refused : Refused name v e f) :
    Markup.patch l name v e = .error f := by
  cases refused with
  | spread spread => rw [Markup.patch, if_pos spread]
  | children reserved mixed =>
      subst reserved
      rw [patch_textName, patchText, mixed]
  | invalid plain other defined absent invalid =>
      rw [patch_attribute plain other, patchAttribute_of_absent absent, if_neg defined, if_neg (by simp [invalid])]

/-- Attributes can be changed unless one had to be added that may not be. -/
theorem attributesPatched_or_invalid (l : Language) (name : String) (v : Value)
    (attributes : List (Attribute Tree)) :
    (∃ o as, AttributesPatched l name v o attributes as) ∨
      v ≠ .undefined ∧ (∀ a ∈ attributes, isShownAs name a = false) ∧ isValidName name = false := by
  rcases attributes_cases name attributes with absent | ⟨as, n, old, bs, rfl, before, shown⟩
  · by_cases undefined : v = .undefined
    · exact .inl ⟨_, _, .unchanged undefined absent⟩
    · cases valid : isValidName name with
      | true => exact .inl ⟨_, _, .inserted undefined absent valid⟩
      | false => exact .inr ⟨undefined, absent, rfl⟩
  · by_cases undefined : v = .undefined
    · exact .inl ⟨_, _, .removed undefined before shown⟩
    · exact .inl ⟨_, _, .replaced undefined before shown⟩

/-- The text can be changed unless the children are no text. -/
theorem textPatched_or_mixed (l : Language) (v : Value) (e : Markup) :
    (∃ o children, TextPatched l v e o children) ∨ isTextless? e = none := by
  cases textless : isTextless? e with
  | none => exact .inr rfl
  | some empty =>
      by_cases undefined : v = .undefined
      · by_cases inhabited : e.children = []
        · exact .inl ⟨_, _, .unchanged undefined inhabited⟩
        · exact .inl ⟨_, _, .removed undefined (by simp [textless]) inhabited⟩
      · cases empty with
        | true => exact .inl ⟨_, _, .inserted undefined textless⟩
        | false => exact .inl ⟨_, _, .replaced undefined textless⟩

/-- Some case applies to every name, value and element. -/
theorem patched_or_refused (l : Language) (name : String) (v : Value) (e : Markup) :
    (∃ o e', Patched l name v e o e') ∨ ∃ f, Refused name v e f := by
  cases plain : isSpreadName name with
  | true => exact .inr ⟨_, .spread plain⟩
  | false =>
      by_cases reserved : name = textName
      · rcases textPatched_or_mixed l v e with ⟨o, children, done⟩ | mixed
        · exact .inl ⟨_, _, .text reserved done⟩
        · exact .inr ⟨_, .children reserved mixed⟩
      · rcases attributesPatched_or_invalid l name v e.attributes with
          ⟨o, as, done⟩ | ⟨defined, absent, invalid⟩
        · exact .inl ⟨_, _, .attributes plain reserved done⟩
        · exact .inr ⟨_, .invalid plain reserved defined absent invalid⟩

/-- A patch is accepted in the listed cases and makes of the element what they say. -/
theorem patch_eq_ok_iff : Markup.patch l name v e = .ok (o, e') ↔ Patched l name v e o e' := by
  refine ⟨fun accepted => ?_, Patched.patch⟩
  rcases patched_or_refused l name v e with ⟨o', e'', patched⟩ | ⟨f, refused⟩
  · have same := accepted.symm.trans patched.patch
    simp only [Except.ok.injEq, Prod.mk.injEq] at same
    obtain ⟨rfl, rfl⟩ := same
    exact patched
  · cases accepted.symm.trans refused.patch

/-- A patch is refused in the listed cases. -/
theorem patch_eq_error_iff {f : PatchFailure} : Markup.patch l name v e = .error f ↔ Refused name v e f := by
  refine ⟨fun rejected => ?_, Refused.patch⟩
  rcases patched_or_refused l name v e with ⟨o, e', patched⟩ | ⟨f', refused⟩
  · cases rejected.symm.trans patched.patch
  · obtain rfl := Except.error.inj (rejected.symm.trans (refused.patch (l := l)))
    exact refused

/-- What a step answers and leaves. -/
theorem patchStep_eq_ok_iff : Markup.patchStep l name v e = (.ok o, e') ↔ Patched l name v e o e' := by
  rw [← patch_eq_ok_iff, Markup.patchStep]
  split <;> rename_i answer <;> simp [answer]

theorem patchStep_eq_error_iff {f : PatchFailure} :
    Markup.patchStep l name v e = (.error f, e') ↔ Refused name v e f ∧ e' = e := by
  rw [← patch_eq_error_iff (l := l), Markup.patchStep]
  split <;> rename_i answer <;> simp [answer, eq_comm]

/-! ## What is left -/

/-- Setting the text of an element touches its children and its tags alone. -/
theorem TextPatched.frame {children : List Tree} (done : TextPatched l v e o children) :
    (e.withChildren children).name = e.name ∧ (e.withChildren children).attributes = e.attributes ∧
      (e.withChildren children).typeArguments = e.typeArguments ∧
      (o.action = .removed → (e.withChildren children).children = []) := by
  have frame := Markup.withChildren_frame e children
  refine ⟨by rw [frame], by rw [frame], by rw [frame], fun action => ?_⟩
  rw [Markup.withChildren_children]
  cases done with
  | unchanged => rfl
  | removed => rfl
  | replaced => cases action
  | inserted => cases action

/-- Behind a value that is set stands the attribute it is written as, the first of the name. -/
theorem AttributesPatched.placed {attributes attributes' : List (Attribute Tree)} (defined : v ≠ .undefined)
    (done : AttributesPatched l name v o attributes attributes') :
    o.fallback = (attributeTree l name v).2 ∧
      ∃ as n bs, attributes' = as ++ .named n (attributeTree l name v).1 :: bs ∧
        (∀ a ∈ as, isShownAs name a = false) ∧ n.text = name := by
  cases done with
  | unchanged undefined => exact absurd undefined defined
  | removed undefined => exact absurd undefined defined
  | replaced _ before shown => exact ⟨rfl, _, _, _, rfl, before, shown⟩
  | inserted _ absent => exact ⟨rfl, _, _, _, rfl, absent, rfl⟩

theorem TextPatched.placed {children : List Tree} (defined : v ≠ .undefined)
    (done : TextPatched l v e o children) :
    o.fallback = (textTree l v).2 ∧ children = [(textTree l v).1] := by
  cases done with
  | unchanged undefined => exact absurd undefined defined
  | removed undefined => exact absurd undefined defined
  | replaced => exact ⟨rfl, rfl⟩
  | inserted => exact ⟨rfl, rfl⟩

/-! ## What can be set -/

theorem isSpreadName_of_valid (valid : isValidName name = true) : isSpreadName name = false := by
  unfold isValidName at valid
  unfold isSpreadName
  cases shape : name.toList with
  | nil => rfl
  | cons c rest =>
      rw [shape] at valid
      have notPoint : ('.' == c) = false := by
        apply beq_false_of_ne
        rintro rfl
        cases (Bool.and_eq_true_iff.mp valid).1
      simp [List.isPrefixOf, notPoint]

/-- A value can be set under every name that a new attribute may have. -/
theorem patched_of_valid (l : Language) (valid : isValidName name = true) (other : name ≠ textName)
    (defined : v ≠ .undefined) (e : Markup) :
    ∃ o as n bs, Patched l name v e o { e with attributes := as ++ .named n (attributeTree l name v).1 :: bs } ∧
      n.text = name ∧ ∀ a ∈ as, isShownAs name a = false := by
  rcases attributesPatched_or_invalid l name v e.attributes with ⟨o, as, done⟩ | ⟨-, -, invalid⟩
  · obtain ⟨-, as, n, bs, rfl, before, shown⟩ := done.placed defined
    exact ⟨o, as, n, bs, .attributes (isSpreadName_of_valid valid) other done, shown, before⟩
  · cases valid.symm.trans invalid

/-- A value can be set as the text where there is text or none. -/
theorem patched_of_editable (l : Language) (defined : v ≠ .undefined) (editable : isTextless? e ≠ none) :
    ∃ o, Patched l textName v e o (e.withChildren [(textTree l v).1]) := by
  rcases textPatched_or_mixed l v e with ⟨o, children, done⟩ | mixed
  · obtain ⟨-, rfl⟩ := done.placed defined
    exact ⟨o, .text rfl done⟩
  · exact absurd mixed editable

/-- Setting the first attribute of its name puts the value in its place. -/
theorem patch_named {as bs : List (Attribute Tree)} {n : AttributeName} {value : Option Tree}
    (split : e.attributes = as ++ .named n value :: bs) (first : ∀ a ∈ as, isShownAs n.text a = false)
    (plain : isSpreadName n.text = false) (other : n.text ≠ textName) (defined : v ≠ .undefined) :
    Markup.patch l n.text v e = .ok (⟨.replaced, (attributeTree l n.text v).2⟩,
      { e with attributes := as ++ .named n (attributeTree l n.text v).1 :: bs }) := by
  refine (Patched.attributes plain other ?_).patch
  rw [split]
  exact .replaced defined first rfl

end Property

end LiveMarkup
