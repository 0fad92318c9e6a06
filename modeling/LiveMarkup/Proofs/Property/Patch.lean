import LiveMarkup.Proofs.Markup.Reidentification
import LiveMarkup.Proofs.Property.Cases
/-
# LiveMarkup.Proofs.Property.Patch -- what a patch leaves of the elements inside

Setting an attribute splits the list at the first attribute that is shown under the name, or at
its end when there is none (`FirstShown`); another one or none is put there (`Replaced`), and
what stands before and after is as it was (`AttributesPatched.replacement`).

`Markup.propertyElements` lists the elements inside a property, which are all that a patch
can drop or bring.  Identification goes through the attributes of a split one by one, so the
split is there afterwards, too (`Replaced.identify`).
-/

namespace LiveMarkup.Property

set_option autoImplicit false

open LiveMarkup.Syntax

variable {l : Language} {property : String} {v : Value} {o : PatchOutcome}

/-! ## Attributes -/

/-- Some attributes, one or none, are the first that is shown under a name. -/
structure FirstShown (property : String) (as mid bs : List (Attribute Tree)) : Prop where
  before : ∀ a ∈ as, isShownAs property a = false
  shown : ∀ a ∈ mid, isShownAs property a = true
  single : mid.length ≤ 1
  last : mid = [] → bs = []

theorem FirstShown.of_shown {as bs : List (Attribute Tree)} {a : Attribute Tree}
    (before : ∀ a ∈ as, isShownAs property a = false) (shown : isShownAs property a = true) :
    FirstShown property as [a] bs :=
  ⟨before, by simpa only [List.forall_mem_singleton] using shown, Nat.le_refl 1, nofun⟩

theorem FirstShown.of_absent {as : List (Attribute Tree)}
    (absent : ∀ a ∈ as, isShownAs property a = false) : FirstShown property as [] [] :=
  ⟨absent, nofun, Nat.zero_le 1, fun _ => rfl⟩

/-- What a patch puts in the place of an attribute: nothing when it was removed, and else the
first that is shown under the name. -/
structure Replaced (property : String) (action : Action) (as mid bs : List (Attribute Tree)) : Prop where
  removed : action = .removed → mid = []
  placed : action ≠ .removed → FirstShown property as mid bs

theorem Replaced.shown {action : Action} {as mid bs : List (Attribute Tree)}
    (replaced : Replaced property action as mid bs) : ∀ a ∈ mid, isShownAs property a = true := by
  by_cases removed : action = .removed
  · rw [replaced.removed removed]
    exact nofun
  · exact (replaced.placed removed).shown

/-- Setting an attribute touches the first attribute of that name alone, or what is behind
all attributes. -/
theorem AttributesPatched.replacement {attributes attributes' : List (Attribute Tree)}
    (done : AttributesPatched l property v o attributes attributes') :
    ∃ as old new bs, attributes = as ++ old ++ bs ∧ attributes' = as ++ new ++ bs ∧
      FirstShown property as old bs ∧ Replaced property o.action as new bs := by
  cases done with
  | unchanged _ absent =>
      exact ⟨attributes, [], [], [], by simp, by simp, .of_absent absent, nofun, fun _ => .of_absent absent⟩
  | @removed as bs n old _ before shown =>
      have here : isShownAs property (.named n old) = true := beq_iff_eq.mpr shown
      exact ⟨as, [.named n old], [], bs, by simp, by simp, .of_shown before here, fun _ => rfl,
        fun kept => absurd rfl kept⟩
  | @replaced as bs n old _ before shown =>
      have here (value : Option Tree) : isShownAs property (.named n value) = true := beq_iff_eq.mpr shown
      exact ⟨as, [.named n old], [.named n (attributeTree l property v).1], bs, by simp, by simp,
        .of_shown before (here old), nofun, fun _ => .of_shown before (here _)⟩
  | inserted _ absent =>
      exact ⟨attributes, [], [.named (.plain property) (attributeTree l property v).1], [], by simp,
        by simp, .of_absent absent, nofun, fun _ => .of_shown absent (beq_self_eq_true property)⟩

end LiveMarkup.Property

/-! ## The elements inside -/

namespace LiveMarkup.Markup

open LiveMarkup.Syntax LiveMarkup.Property

/-- The elements inside the first attribute that is shown under a name. -/
def shownElements (property : String) (as : List (Attribute Tree)) : List Markup :=
  match as.find? (isShownAs property) with
  | some a => attributeElementsOf a
  | none => []

/-- The elements inside a property of an element. -/
def propertyElements (property : String) (e : Markup) : List Markup :=
  if property = textName then elementsOf e.children else shownElements property e.attributes

end LiveMarkup.Markup

namespace LiveMarkup.Property

open LiveMarkup.Syntax

variable {supply : Supply} {name property : String}

/-- An attribute that is shown under another name is not the one that holds identifiers. -/
theorem isNamed_of_shown (other : property ≠ name) {a : Attribute Tree}
    (shown : isShownAs property a = true) : Markup.isNamed name a = false := by
  match a with
  | .named (.plain n) _ =>
      have same : n = property := by simpa [isShownAs, AttributeName.text] using shown
      simpa [Markup.isNamed, same] using other
  | .named (.namespaced _ _) _ => rfl
  | .spread _ => cases shown

theorem isShownAs_identifyIn (around : Option Nat) (a : Attribute Tree) (w : Walk) :
    isShownAs property (identifyIn supply name around a w).1 = isShownAs property a := by
  cases a <;> rfl

/-- Identification keeps the names of attributes, and so where the first one is. -/
theorem FirstShown.identify {as mid bs bs' : List (Attribute Tree)}
    (first : FirstShown property as mid bs) (around : Option Nat) (w : Walk) (none : bs = [] → bs' = []) :
    FirstShown property as (identifyAttributes supply name around .none mid w).1 bs' := by
  match mid, first with
  | [], first => exact ⟨first.before, nofun, Nat.zero_le 1, fun empty => none (first.last rfl)⟩
  | [a], first =>
      exact .of_shown first.before ((isShownAs_identifyIn around a w).trans
        (first.shown a List.mem_cons_self))
  | _ :: _ :: _, first =>
      have single := first.single
      simp at single

/-- The elements inside the first attribute of a name. -/
theorem FirstShown.elements {as mid bs : List (Attribute Tree)} (first : FirstShown property as mid bs) :
    Markup.shownElements property (as ++ mid ++ bs) = attributeElements mid := by
  have before : as.find? (isShownAs property) = none := by
    simpa [List.find?_eq_none] using first.before
  match mid, first with
  | [], first =>
      rw [first.last rfl, Markup.shownElements, List.append_nil, List.append_nil, before]
      rfl
  | [a], first =>
      have shown := first.shown a List.mem_cons_self
      simp [Markup.shownElements, before, shown, attributeElements]
  | _ :: _ :: _, first =>
      have single := first.single
      simp at single

theorem Replaced.identify {action : Action} {as mid bs bs' : List (Attribute Tree)}
    (replaced : Replaced property action as mid bs) (around : Option Nat) (w : Walk)
    (none : bs = [] → bs' = []) :
    Replaced property action as (identifyAttributes supply name around .none mid w).1 bs' := by
  refine ⟨fun removed => ?_, fun kept => (replaced.placed kept).identify around w none⟩
  rw [replaced.removed removed]
  rfl

/-- The elements inside what was put in the place of an attribute. -/
theorem Replaced.elements {action : Action} {as mid bs : List (Attribute Tree)}
    (replaced : Replaced property action as mid bs) :
    attributeElements mid =
      if action = .removed then [] else Markup.shownElements property (as ++ mid ++ bs) := by
  split
  · rename_i removed
    rw [replaced.removed removed]
    rfl
  · rename_i kept
    rw [(replaced.placed kept).elements]

end LiveMarkup.Property
