import LiveMarkup.Proofs.Markup.Replacement
/-
# LiveMarkup.Proofs.Markup.Place -- where an updated element stands

Updating the first element that passes a test changes the elements of a tree at one place:
the new element stands where the old one stood, with as many elements ahead of it
(`UpdatedAt`).  What is behind it may be more or less, as an element brings the elements
inside it.  A tree without such an element is not updated (`Tree.updateFirst_spec`).
-/

namespace LiveMarkup.Syntax

set_option autoImplicit false

variable {ρ : Type} {p : Markup → Bool} {f : Markup → ρ × Markup} {es es' : List Markup} {x : ρ}

/-- The first element that passes was updated in its place. -/
def UpdatedAt (p : Markup → Bool) (f : Markup → ρ × Markup) (x : ρ) (es es' : List Markup) : Prop :=
  ∃ as e bs as' bs', es = as ++ e :: bs ∧ es' = as' ++ (f e).2 :: bs' ∧ as'.length = as.length ∧
    p e = true ∧ (∀ a ∈ as, p a = false) ∧ x = (f e).1

/-- What an update of some elements comes to: none of them passes, or the first one that does
was updated. -/
def Outcome (p : Markup → Bool) (f : Markup → ρ × Markup) (es : List Markup) :
    Option (ρ × List Markup) → Prop
  | none => ∀ e ∈ es, p e = false
  | some r => UpdatedAt p f r.1 es r.2

theorem UpdatedAt.ahead (before before' : List Markup) (updated : UpdatedAt p f x es es')
    (none : ∀ e ∈ before, p e = false) (even : before'.length = before.length) :
    UpdatedAt p f x (before ++ es) (before' ++ es') := by
  obtain ⟨as, e, bs, as', bs', rfl, rfl, length, passes, others, result⟩ := updated
  refine ⟨before ++ as, e, bs, before' ++ as', bs', by simp, by simp, by simp [even, length], passes, ?_,
    result⟩
  exact List.forall_mem_append.mpr ⟨none, others⟩

/-- An element around the place changes with it, and is one more element ahead of it. -/
theorem UpdatedAt.around {e : Markup} (updated : UpdatedAt p f x es es') (none : p e = false) (e' : Markup) :
    UpdatedAt p f x (e :: es) (e' :: es') :=
  UpdatedAt.ahead [e] [e'] updated (by simpa using none) rfl

theorem UpdatedAt.behind (updated : UpdatedAt p f x es es') (after : List Markup) :
    UpdatedAt p f x (es ++ after) (es' ++ after) := by
  obtain ⟨as, e, bs, as', bs', rfl, rfl, rest⟩ := updated
  exact ⟨as, e, bs ++ after, as', bs' ++ after, by simp, by simp, rest⟩

/-- The place is the first one that passes, before and after. -/
theorem UpdatedAt.getElem? (updated : UpdatedAt p f x es es') {e : Markup} (found : es.find? p = some e) :
    es[es.findIdx p]? = some e ∧ es'[es.findIdx p]? = some (f e).2 ∧ x = (f e).1 := by
  obtain ⟨as, e', bs, as', bs', rfl, rfl, length, passes, others, result⟩ := updated
  have first : (as ++ e' :: bs).find? p = some e' := by
    rw [List.find?_append, List.find?_eq_none.mpr (by simpa using others)]
    simp [passes]
  obtain rfl : e' = e := Option.some.inj (first.symm.trans found)
  have place : (as ++ e' :: bs).findIdx p = as.length := by
    rw [List.findIdx_append, List.findIdx_eq_length.mpr (by simpa using others), List.findIdx_cons]
    simp [passes]
  rw [place]
  refine ⟨by simp, ?_, result⟩
  rw [← length]
  simp

/-- The first of two parts is updated, or else the second. -/
def eitherPart (es fs : List Markup) : Option (ρ × List Markup) → Option (ρ × List Markup) →
    Option (ρ × List Markup)
  | some r, _ => some (r.1, r.2 ++ fs)
  | none, second => second.map fun r => (r.1, es ++ r.2)

theorem Outcome.append {fs : List Markup} {first second : Option (ρ × List Markup)}
    (here : Outcome p f es first) (later : Outcome p f fs second) :
    Outcome p f (es ++ fs) (eitherPart es fs first second) := by
  cases first with
  | some r => exact UpdatedAt.behind here fs
  | none =>
      cases second with
      | some r => exact UpdatedAt.ahead es es later here rfl
      | none => exact List.forall_mem_append.mpr ⟨here, later⟩

mutual

theorem Tree.updateFirst_spec : ∀ t : Tree,
    Outcome p f t.elements ((t.updateFirst p f).map fun r => (r.1, r.2.elements))
  | .node kind parts => by
      have inside := updateFirstOf_spec parts
      simp only [Tree.updateFirst, Tree.elements, Option.map_map]
      exact inside
  | .element ⟨tagName, attributes, typeArguments, selfClosing, children, closing, lines⟩ => by
      have inside := ((updateFirstAttribute_spec attributes).append (updateFirstOption_spec typeArguments)).append
        (updateFirstOf_spec children)
      cases passes : p ⟨tagName, attributes, typeArguments, selfClosing, children, closing, lines⟩ with
      | true =>
          simp only [Tree.updateFirst, passes, if_true, Tree.elements, Option.map_some]
          exact ⟨[], _, _, [], _, rfl, Tree.elements_element _, rfl, passes, nofun, rfl⟩
      | false =>
          simp only [Tree.updateFirst, passes, Bool.false_eq_true, if_false, Tree.elements]
          cases inAttributes : updateFirstAttribute p f attributes with
          | some r =>
              rw [inAttributes] at inside
              exact UpdatedAt.around inside passes _
          | none =>
              cases inArguments : updateFirstOption p f typeArguments with
              | some r =>
                  rw [inAttributes, inArguments] at inside
                  exact UpdatedAt.around inside passes _
              | none =>
                  rw [inAttributes, inArguments] at inside
                  cases inChildren : updateFirstOf p f children with
                  | some r =>
                      rw [inChildren] at inside
                      exact UpdatedAt.around inside passes _
                  | none =>
                      rw [inChildren] at inside
                      exact List.forall_mem_cons.mpr ⟨passes, inside⟩

theorem updateFirstOf_spec : ∀ ts : List Tree,
    Outcome p f (elementsOf ts) ((updateFirstOf p f ts).map fun r => (r.1, elementsOf r.2))
  | [] => by simp [Outcome, updateFirstOf, elementsOf]
  | t :: ts => by
      have both := t.updateFirst_spec.append (updateFirstOf_spec ts)
      cases here : t.updateFirst p f with
      | some r =>
          rw [here] at both
          simpa [updateFirstOf, here, elementsOf, eitherPart] using both
      | none =>
          rw [here] at both
          simpa [updateFirstOf, here, elementsOf, eitherPart, Option.map_map, Function.comp_def] using both

theorem updateFirstAttribute_spec : ∀ as : List (Attribute Tree),
    Outcome p f (attributeElements as)
      ((updateFirstAttribute p f as).map fun r => (r.1, attributeElements r.2))
  | [] => by simp [Outcome, updateFirstAttribute, attributeElements]
  | a :: as => by
      have both := (updateFirstIn_spec a).append (updateFirstAttribute_spec as)
      cases here : updateFirstIn p f a with
      | some r =>
          rw [here] at both
          simpa [updateFirstAttribute, here, attributeElements, eitherPart] using both
      | none =>
          rw [here] at both
          simpa [updateFirstAttribute, here, attributeElements, eitherPart, Option.map_map,
            Function.comp_def] using both

theorem updateFirstIn_spec : ∀ a : Attribute Tree,
    Outcome p f (attributeElementsOf a) ((updateFirstIn p f a).map fun r => (r.1, attributeElementsOf r.2))
  | .named _ value => by
      have inside := updateFirstOption_spec value
      simp only [updateFirstIn, Option.map_map]
      exact inside
  | .spread value => by
      have inside := value.updateFirst_spec
      simp only [updateFirstIn, Option.map_map]
      exact inside

theorem updateFirstOption_spec : ∀ t : Option Tree,
    Outcome p f (optionElements t) ((updateFirstOption p f t).map fun r => (r.1, optionElements r.2))
  | none => by simp [Outcome, updateFirstOption, optionElements]
  | some t => by
      have inside := t.updateFirst_spec
      simp only [updateFirstOption, Option.map_map]
      exact inside

end

namespace Module

/-- The place of the first element with an identifier. -/
def place (name uid : String) (m : Module) : Nat := m.elements.findIdx (·.carries name uid)

/-- The element that is found is updated, and stands where it stood. -/
theorem update?_of_find? {name uid : String} {m : Module} {e : Markup} (found : m.find? name uid = some e)
    (f : Markup → ρ × Markup) : ∃ m', m.update? name uid f = some ((f e).1, m') ∧
      m.elements[m.place name uid]? = some e ∧ m'.elements[m.place name uid]? = some (f e).2 := by
  have spec := updateFirstOf_spec (p := fun e => e.carries name uid) (f := f) m.items
  cases updated : updateFirstOf (fun e => e.carries name uid) f m.items with
  | none =>
      rw [updated] at spec
      have passes : e.carries name uid = true := List.find?_some found
      have refused : e.carries name uid = false := spec e (List.mem_of_find?_eq_some found)
      rw [refused] at passes
      cases passes
  | some r =>
      rw [updated] at spec
      obtain ⟨before, after, result⟩ := UpdatedAt.getElem? spec found
      exact ⟨{ m with items := r.2 }, by simp [update?, updated, ← result], before, after⟩

end Module

end LiveMarkup.Syntax
