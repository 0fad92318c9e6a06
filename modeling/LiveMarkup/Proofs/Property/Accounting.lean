import LiveMarkup.Proofs.Property.WriteBack
import Mathlib.Data.List.DropRight
/-
# LiveMarkup.Proofs.Property.Accounting -- the properties of an element account for its parts

The list of properties goes through the element in order.  First come its attributes and
spreads, one property each (`Stands`), except the attributes whose value is a container with
nothing in it; a property holds the position of its attribute among all of them, so what is
left out is counted.  Then comes at most one property of the children (`Closing`): of all of
them together when two or more show something, of the only one that does when it is text or
an expression that is not `undefined`, and none else.

What shows nothing is said here of the tree alone: white space and empty containers
(`Blank`), and `undefined` in any number of parentheses (`IsUndefined`).
-/

namespace LiveMarkup.Property

set_option autoImplicit false

open LiveMarkup.Syntax

/-! ## Parts of an element -/

/-- An attribute whose value is a container with nothing in it. -/
def isVacant : Attribute Tree → Bool
  | .named _ (some (.node .emptyContainer _)) => true
  | _ => false

/-- A child that shows nothing: white space, or a container with nothing in it. -/
inductive Blank : Tree → Prop where
  | text {value raw : String} {parts : List Tree} (white : ∀ c ∈ value.toList, Text.isWhite c = true) :
      Blank (.node (.markupText value raw) parts)
  | container {parts : List Tree} : Blank (.node .emptyContainer parts)

/-- The name `undefined`, perhaps in parentheses. -/
def IsUndefined (t : Tree) : Prop := ∃ parts, unwrapped t = .node (.identifier "undefined") parts

/-- A child that is shown as the text of its element when it is the only one that shows something. -/
inductive ShowsText : Tree → Prop where
  | text {value raw : String} {parts : List Tree} : ShowsText (.node (.markupText value raw) parts)
  | expression {t : Tree} (defined : ¬ IsUndefined t) : ShowsText (.node .container [t])

/-- The position among attributes that a part holds. -/
def Part.index? : Part → Option Nat
  | .attribute i => some i
  | .spread i => some i
  | .text => none
  | .children => none

/-! ## Attributes -/

/-- A property stands for the attribute or spread at a position. -/
inductive Stands : Attribute Tree × Nat → Property → Prop where
  | named {n : AttributeName} {value : Option Tree} {i : Nat} {p : Property} (part : p.part = .attribute i)
      (name : p.name = n.text) (editable : p.readOnly = false) : Stands (.named n value, i) p
  | spread {t : Tree} {i : Nat} {p : Property} (part : p.part = .spread i)
      (name : "...".toList <+: p.name.toList) (readOnly : p.readOnly = true) : Stands (.spread t, i) p

variable {l : Language}

theorem Stands.index?_eq {a : Attribute Tree × Nat} {p : Property} (stands : Stands a p) :
    p.part.index? = some a.2 := by
  cases stands with
  | named part => rw [part]; rfl
  | spread part => rw [part]; rfl

/-- A container with nothing in it is the only value that is not shown. -/
theorem attributeValue?_eq_none {t : Tree} :
    attributeValue? l t = none ↔ ∃ parts, t = .node .emptyContainer parts := by
  constructor
  · intro hidden
    unfold attributeValue? at hidden
    split at hidden
    · cases hidden
    · exact ⟨_, rfl⟩
    · cases hidden
    · cases hidden
  · rintro ⟨parts, rfl⟩
    rfl

theorem namedValue?_eq_none {name : String} {value : Option Tree} :
    namedValue? l name value = none ↔ ∃ parts, value = some (.node .emptyContainer parts) := by
  cases value with
  | none => simp [namedValue?]
  | some t =>
      simp only [namedValue?, Option.some.injEq]
      split
      · -- an object under `style` is in a container that holds it
        split
        · rename_i s style
          constructor
          · intro hidden
            cases hidden
          · rintro ⟨parts, rfl⟩
            cases style
        · exact attributeValue?_eq_none
      · exact attributeValue?_eq_none

/-- What an attribute is listed as: nothing when it is vacant, and else a property that stands for it. -/
theorem ofAttribute?_cases (l : Language) (i : Nat) (a : Attribute Tree) :
    (isVacant a = true ∧ ofAttribute? l i a = none) ∨
      (isVacant a = false ∧ ∃ p, ofAttribute? l i a = some p ∧ Stands (a, i) p) := by
  cases a with
  | named n value =>
      cases shown : namedValue? l n.text value with
      | none =>
          obtain ⟨parts, rfl⟩ := namedValue?_eq_none.mp shown
          exact .inl ⟨rfl, by rw [ofAttribute?, shown]; rfl⟩
      | some v =>
          refine .inr ⟨?_, make n.text v (.attribute i) false, by rw [ofAttribute?, shown]; rfl, .named rfl rfl rfl⟩
          unfold isVacant
          split
          · rename_i parts same
            cases same
            cases (namedValue?_eq_none.mpr ⟨parts, rfl⟩).symm.trans shown
          · rfl
  | spread t =>
      refine .inr ⟨rfl, _, rfl, .spread rfl ?_ rfl⟩
      exact List.isPrefixOf_iff_prefix.mp (isSpreadName_spreadName (l.printTree t))

/-- Attributes are listed one by one, without the vacant ones. -/
theorem ofAttributes_stand (l : Language) (attributes : List (Attribute Tree)) (i : Nat) :
    List.Forall₂ Stands ((attributes.zipIdx i).filter fun a => !isVacant a.1) (ofAttributes l i attributes) := by
  induction attributes generalizing i with
  | nil => exact .nil
  | cons a attributes ih =>
      rw [List.zipIdx_cons, ofAttributes]
      rcases ofAttribute?_cases l i a with ⟨vacant, hidden⟩ | ⟨occupied, p, shown, stands⟩
      · rw [List.filter_cons_of_neg (by simp [vacant]), hidden]
        exact ih (i + 1)
      · rw [List.filter_cons_of_pos (by simp [occupied]), shown]
        exact .cons stands (ih (i + 1))

/-- What stands for attributes in order has their positions in order. -/
theorem increasing_of_stands {as : List (Attribute Tree × Nat)} {ps : List Property}
    (stand : List.Forall₂ Stands as ps) (increasing : as.Pairwise fun a b => a.2 < b.2) :
    (ps.filterMap (·.part.index?)).Pairwise (· < ·) := by
  have positions : ps.filterMap (·.part.index?) = as.map (·.2) := by
    induction stand with
    | nil => rfl
    | cons stands _ ih => rw [List.filterMap_cons, stands.index?_eq, ih increasing.of_cons, List.map_cons]
  rw [positions, List.pairwise_map]
  exact increasing

theorem zipIdx_increasing {α : Type} (as : List α) (i : Nat) : (as.zipIdx i).Pairwise fun a b => a.2 < b.2 := by
  rw [← List.pairwise_map (f := Prod.snd) (R := (· < ·)), List.zipIdx_map_snd]
  exact List.pairwise_lt_range'

/-! ## Children -/

theorem expressionValue_eq_undefined {t : Tree} : expressionValue l t = .undefined ↔ IsUndefined t := by
  rw [IsUndefined]
  fun_induction unwrapped t with
  | case1 t ih => rwa [expressionValue]
  | case2 t bare =>
      constructor
      · intro undefined
        unfold expressionValue at undefined
        split at undefined
        · exact absurd rfl (bare _)
        · exact ⟨_, rfl⟩
        · split at undefined
          · cases undefined
          · unfold literalValue? at undefined
            split at undefined <;> cases undefined
      · rintro ⟨parts, rfl⟩
        rfl

/-- A text of white space alone is all that trimming leaves nothing of. -/
theorem trimWhite_isEmpty {s : String} :
    (Text.trimWhite s).isEmpty = true ↔ ∀ c ∈ s.toList, Text.isWhite c = true := by
  rw [String.isEmpty_iff, ← String.toList_eq_nil_iff, Text.trimWhite, String.toList_ofList]
  show (s.toList.dropWhile Text.isWhite).rdropWhile Text.isWhite = [] ↔ _
  rw [List.rdropWhile_eq_nil_iff, ← List.dropWhile_eq_nil_iff, ← List.dropWhile_eq_nil_iff,
    List.dropWhile_idempotent]

/-- What shows nothing is not meaningful. -/
theorem blank_iff {t : Tree} : Blank t ↔ isMeaningful t = false := by
  constructor
  · rintro (white | _)
    · rw [isMeaningful, trimWhite_isEmpty.mpr white]
      rfl
    · rfl
  · intro hidden
    unfold isMeaningful at hidden
    split at hidden
    · exact .text (trimWhite_isEmpty.mp (by simpa using hidden))
    · exact .container
    · cases hidden

instance : DecidablePred Blank := fun _ => decidable_of_iff _ blank_iff.symm

/-- The children that show something. -/
def shownChildren (e : Markup) : List Tree := e.children.filter fun t => ¬ Blank t

theorem shownChildren_eq (e : Markup) : shownChildren e = e.children.filter isMeaningful := by
  refine List.filter_congr fun t _ => ?_
  simp [blank_iff]

theorem childValue?_isSome {t : Tree} : (childValue? l t).isSome = true ↔ ShowsText t := by
  constructor
  · intro some
    unfold childValue? at some
    split at some
    · exact .text
    · split at some
      · cases some
      · rename_i defined
        exact .expression fun undefined => defined (expressionValue_eq_undefined.mpr undefined)
    · cases some
  · rintro (_ | @⟨t, defined⟩)
    · rfl
    · cases value : expressionValue l t with
      | undefined => exact absurd (expressionValue_eq_undefined.mp value) defined
      | _ => simp [childValue?, value]

/-- What the children of an element are listed as: nothing, their text, or all of them together. -/
structure Closing (e : Markup) (ps : List Property) : Prop where
  single : ps.length ≤ 1
  reserved : ∀ p ∈ ps, p.name = textName ∧
    (p.part = .text ∧ p.readOnly = false ∨ p.part = .children ∧ p.readOnly = true)
  children : (∃ p ∈ ps, p.part = .children) ↔ 2 ≤ (shownChildren e).length
  text : (∃ p ∈ ps, p.part = .text) ↔ ∃ t, shownChildren e = [t] ∧ ShowsText t

theorem ofChildren_closing (l : Language) (e : Markup) :
    Closing e (ofChildren l (e.children.filter isMeaningful)) := by
  rw [← shownChildren_eq]
  cases shown : shownChildren e with
  | nil =>
      exact ⟨Nat.zero_le 1, by simp [ofChildren], by simp [ofChildren, shown],
        by simp [ofChildren, shown]⟩
  | cons child rest =>
      cases rest with
      | nil =>
          cases value : childValue? l child with
          | none =>
              have hidden : ¬ ShowsText child := by simp [← childValue?_isSome (l := l), value]
              exact ⟨by simp [ofChildren, value], by simp [ofChildren, value],
                by simp [ofChildren, value, shown], by simp [ofChildren, value, shown, hidden]⟩
          | some v =>
              have text : ShowsText child := by rw [← childValue?_isSome (l := l), value]; rfl
              refine ⟨by simp [ofChildren, value], ?_, by simp [ofChildren, value, shown, make],
                by simp [ofChildren, value, shown, text, make]⟩
              intro p member
              obtain rfl : p = make textName v .text false := by simpa [ofChildren, value] using member
              exact ⟨rfl, .inl ⟨rfl, rfl⟩⟩
      | cons second rest =>
          refine ⟨Nat.le_refl 1, ?_, ?_, ?_⟩
          · intro p member
            obtain rfl := List.mem_singleton.mp member
            exact ⟨rfl, .inr ⟨rfl, rfl⟩⟩
          · simp [ofChildren, make, shown]
          · simp [ofChildren, make, shown]

/-! ## The whole element -/

/-- **The properties of an element account for its attributes and its children.**  Attributes and
spreads are listed one by one under their positions, except the vacant ones, and behind them at
most one property of the children. -/
theorem properties_account (l : Language) (e : Markup) : ∃ outside inside,
    e.properties l = outside ++ inside ∧
      List.Forall₂ Stands (e.attributes.zipIdx.filter fun a => !isVacant a.1) outside ∧
      ((e.properties l).filterMap (·.part.index?)).Pairwise (· < ·) ∧
      Closing e inside := by
  have stand := ofAttributes_stand l e.attributes 0
  have closing := ofChildren_closing l e
  refine ⟨_, _, rfl, stand, ?_, closing⟩
  have unplaced : (ofChildren l (e.children.filter isMeaningful)).filterMap (·.part.index?) = [] := by
    rw [List.filterMap_eq_nil_iff]
    intro p member
    rcases (closing.reserved p member).2 with ⟨part, -⟩ | ⟨part, -⟩ <;> rw [part] <;> rfl
  rw [Markup.properties, List.filterMap_append, unplaced, List.append_nil]
  exact increasing_of_stands stand ((zipIdx_increasing e.attributes 0).filter _)

/-- A position counts what is left out before it. -/
example : (Markup.properties .standard ⟨.plain "p", [.named (.plain "a") none,
      .named (.plain "b") (some (.leaf .emptyContainer)), .spread (.leaf (.identifier "c"))],
    none, true, [], none, none⟩).map (·.part) = [.attribute 0, .spread 2] := rfl

end LiveMarkup.Property
