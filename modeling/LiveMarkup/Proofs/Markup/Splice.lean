import LiveMarkup.Proofs.Property.Patch
import Mathlib.Data.List.Forall2
/-
# LiveMarkup.Proofs.Markup.Splice -- the elements of a tree before and after a property is replaced

In the order in which their tags open, the elements of a tree fall into those that open
ahead of a property of one of them (the target, which is among these), those inside the
property, and those behind it.  A `Splice` says that of a tree before and after the property
was replaced.  The elements ahead correspond one to one and have the same identifiers, and
each of them is the same element as before, unless it has the target inside and with it the
new value (`Stays`).  Of those behind it says nothing but which they are: `Unmoved` is that
they are the same, `Unclaimed` that no element in the new value has an identifier of theirs,
and the first implies the second (`Splice.unclaimed_of_unmoved`).

`Spliced` is what a walk proves while it goes through the new tree, and `Spliced.left` and
`Spliced.right` are the steps: elements that the walk passed before, and elements that it
comes to after.  A splice is of elements without their places, so a tree that was printed
and read back has the same one (`Splice.of_bare`).
-/

namespace LiveMarkup.Markup

set_option autoImplicit false

open LiveMarkup.Syntax LiveMarkup.Property

/-- An element keeps its tag and its identifier, and is the same as before unless the
target is the element itself or inside. -/
structure Stays (name : String) (target e e' : Markup) : Prop where
  tag : e'.name = e.name
  identifier : e'.identifier? name = e.identifier? name
  same : e'.bare = e.bare ∨ target ∈ (Tree.element e).elements

theorem Stays.refl (name : String) (target e : Markup) : Stays name target e e := ⟨rfl, rfl, Or.inl rfl⟩

end LiveMarkup.Markup

namespace LiveMarkup.Syntax

open LiveMarkup.Markup LiveMarkup.Property

/-! ## Splices -/

/-- The elements of a tree before and after a property of one of them was replaced, in the
order in which their tags open. -/
structure Splice (name uid property : String) (action : Action) (old new : List Markup) where
  /-- The element whose property was replaced. -/
  target : Markup
  /-- The same element after that. -/
  target' : Markup
  /-- Those whose tags open ahead of the property, up to the target and inside it. -/
  ahead : List Markup
  /-- The same elements after that. -/
  ahead' : List Markup
  /-- Those inside the property before. -/
  dropped : List Markup
  /-- Those inside the property after. -/
  brought : List Markup
  /-- Those whose tags open behind the property. -/
  behind : List Markup
  /-- What is in their place after. -/
  rest : List Markup
  old_eq : old = ahead ++ dropped ++ behind
  new_eq : new = ahead' ++ brought ++ rest
  carries : target.identifier? name = some uid
  listed : (target, target') ∈ ahead.zip ahead'
  dropped_eq : dropped = target.propertyElements property
  brought_eq : brought.map Markup.bare =
    if action = .removed then [] else (target'.propertyElements property).map Markup.bare
  stays : List.Forall₂ (Stays name target) ahead ahead'

variable {supply : Supply} {name uid property : String} {action : Action} {old new es es' : List Markup}
  {w w' : Walk}

namespace Splice

/-- Elements ahead of everything. -/
def left (s : Splice name uid property action old new)
    (stays : List.Forall₂ (Stays name s.target) es es') :
    Splice name uid property action (es ++ old) (es' ++ new) where
  target := s.target
  target' := s.target'
  ahead := es ++ s.ahead
  ahead' := es' ++ s.ahead'
  dropped := s.dropped
  brought := s.brought
  behind := s.behind
  rest := s.rest
  old_eq := by simp only [s.old_eq, List.append_assoc]
  new_eq := by simp only [s.new_eq, List.append_assoc]
  carries := s.carries
  listed := by
    rw [List.zip_append stays.length_eq]
    exact List.mem_append_right _ s.listed
  dropped_eq := s.dropped_eq
  brought_eq := s.brought_eq
  stays := List.rel_append stays s.stays

/-- Elements behind everything. -/
def right (s : Splice name uid property action old new) (es es' : List Markup) :
    Splice name uid property action (old ++ es) (new ++ es') where
  target := s.target
  target' := s.target'
  ahead := s.ahead
  ahead' := s.ahead'
  dropped := s.dropped
  brought := s.brought
  behind := s.behind ++ es
  rest := s.rest ++ es'
  old_eq := by simp only [s.old_eq, List.append_assoc]
  new_eq := by simp only [s.new_eq, List.append_assoc]
  carries := s.carries
  listed := s.listed
  dropped_eq := s.dropped_eq
  brought_eq := s.brought_eq
  stays := s.stays

/-- No two elements that stand or were brought have the same identifier, nor one that the
walk has met. -/
def Clear (s : Splice name uid property action old new) (w : Walk) : Prop :=
  (w.arena.uids.map some ++ (s.ahead ++ s.brought ++ s.behind).map (Markup.identifier? name)).Nodup

theorem target_mem (s : Splice name uid property action old new) : s.target ∈ old := by
  have member : s.target ∈ s.ahead ++ (s.dropped ++ s.behind) :=
    List.mem_append_left _ (List.of_mem_zip s.listed).1
  rw [← List.append_assoc] at member
  exact (congrArg (fun es => s.target ∈ es) s.old_eq).mpr member

theorem identifiers_ahead (s : Splice name uid property action old new) :
    s.ahead'.map (Markup.identifier? name) = s.ahead.map (Markup.identifier? name) := by
  have pairs := s.stays
  revert pairs
  generalize s.ahead = es, s.ahead' = es'
  intro pairs
  induction pairs with
  | nil => rfl
  | cons here _ ih => rw [List.map_cons, List.map_cons, here.identifier, ih]

end Splice

/-- The elements of a tree that a walk went through after a property was replaced in it are
spliced, and the walk left the rest as it was if nothing that was brought is in its way. -/
def Spliced (name uid property : String) (action : Action) (w : Walk) (old new : List Markup) : Prop :=
  ∃ s : Splice name uid property action old new, s.Clear w → s.rest = s.behind

theorem stays_refl (target : Markup) (es : List Markup) : List.Forall₂ (Stays name target) es es :=
  List.forall₂_same.mpr fun e _ => .refl name target e

/-- The target alone, with the elements inside. -/
theorem Spliced.target {target target' : Markup} (front dropped brought behind rest : List Markup)
    (old_eq : (Tree.element target).elements = target :: front ++ dropped ++ behind)
    (new_eq : (Tree.element target').elements = target' :: front ++ brought ++ rest)
    (carries : target.identifier? name = some uid) (tag : target'.name = target.name)
    (identifier : target'.identifier? name = target.identifier? name)
    (dropped_eq : dropped = target.propertyElements property)
    (brought_eq : brought = if action = .removed then [] else target'.propertyElements property)
    (settles : (w.arena.uids.map some ++
      (target :: front ++ brought ++ behind).map (Markup.identifier? name)).Nodup → rest = behind) :
    Spliced name uid property action w (Tree.element target).elements (Tree.element target').elements := by
  have itself : target ∈ (Tree.element target).elements := by
    rw [old_eq]
    exact List.mem_cons_self
  exact ⟨{
    target, target', dropped, brought, behind, rest, old_eq, new_eq, carries, dropped_eq
    ahead := target :: front
    ahead' := target' :: front
    listed := List.mem_cons_self
    brought_eq := by
      rw [brought_eq]
      split <;> rfl
    stays := .cons ⟨tag, identifier, Or.inr itself⟩ (stays_refl target front) }, settles⟩

/-- Elements that the walk passed before, perhaps around the target. -/
theorem Spliced.left (spliced : Spliced name uid property action w' old new) (passed : w.Passed name es w')
    (stays : ∀ target ∈ old, List.Forall₂ (Stays name target) es es') :
    Spliced name uid property action w (es ++ old) (es' ++ new) := by
  obtain ⟨s, settles⟩ := spliced
  have walked : w'.arena.uids.map some = w.arena.uids.map some ++ es.map (Markup.identifier? name) := passed
  refine ⟨s.left (stays s.target s.target_mem), fun clear => settles ?_⟩
  simpa only [Splice.Clear, Splice.left, walked, List.map_append, List.append_assoc] using clear

/-- Elements that the walk comes to after, and leaves as they are if it is free to. -/
theorem Spliced.right (spliced : Spliced name uid property action w old new) (passed : w.Passed name new w')
    (settled : ∀ e ∈ es, e.Settled name) (leaves : w'.Free name es → es' = es) :
    Spliced name uid property action w (old ++ es) (new ++ es') := by
  obtain ⟨s, settles⟩ := spliced
  refine ⟨s.right es es', fun clear => ?_⟩
  have all : (w.arena.uids.map some ++ (s.ahead ++ s.brought ++ s.behind).map (Markup.identifier? name) ++
      es.map (Markup.identifier? name)).Nodup := by
    simpa only [Splice.Clear, Splice.right, List.map_append, List.append_assoc] using clear
  have rest := settles (List.nodup_append.mp all).1
  have walked : w'.arena.uids.map some =
      w.arena.uids.map some ++ (s.ahead ++ s.brought ++ s.behind).map (Markup.identifier? name) := by
    have walked : w'.arena.uids.map some =
        w.arena.uids.map some ++ new.map (Markup.identifier? name) := passed
    have after := congrArg (List.map (Markup.identifier? name)) s.new_eq
    rw [walked, after, rest]
    simp only [List.map_append, s.identifiers_ahead]
  have free : w'.Free name es := ⟨settled, by rw [walked]; exact all⟩
  show s.rest ++ es' = s.behind ++ es
  rw [rest, leaves free]

/-! ## Trees that were read back -/

theorem shownElements_bare (as : List (Attribute Tree)) :
    shownElements property (bareAttributes as) = (shownElements property as).map Markup.bare := by
  have shown : ∀ a : Attribute Tree, isShownAs property (bareIn a) = isShownAs property a := by
    intro a
    cases a <;> rfl
  induction as with
  | nil => rfl
  | cons a as ih =>
      simp only [shownElements, bareAttributes, List.find?_cons, shown] at ih ⊢
      cases isShownAs property a with
      | true => exact attributeElementsOf_bare a
      | false => exact ih

theorem propertyElements_bare (e : Markup) :
    e.bare.propertyElements property = (e.propertyElements property).map Markup.bare := by
  unfold Markup.propertyElements
  split
  · exact elementsOf_bare e.children
  · exact shownElements_bare e.attributes

theorem identifier?_bare (e : Markup) : e.bare.identifier? name = e.identifier? name :=
  identifierIn?_congr (readings_bare e.attributes)

theorem identifier?_of_bare {e e' : Markup} (same : e'.bare = e.bare) :
    e'.identifier? name = e.identifier? name := by
  rw [← identifier?_bare, same, identifier?_bare]

theorem identifiers_of_bare (same : es'.map Markup.bare = es.map Markup.bare) :
    es'.map (Markup.identifier? name) = es.map (Markup.identifier? name) := by
  have bare : ∀ fs : List Markup,
      fs.map (Markup.identifier? name) = (fs.map Markup.bare).map (Markup.identifier? name) := by
    intro fs
    simp only [List.map_map, Function.comp_def, identifier?_bare]
  rw [bare es', same, ← bare]

theorem stays_of_bare {target e e' e'' : Markup} (stays : Stays name target e e')
    (same : e''.bare = e'.bare) : Stays name target e e'' :=
  ⟨(congrArg Element.name same).trans stays.tag, (identifier?_of_bare same).trans stays.identifier,
    stays.same.imp_left same.trans⟩

/-- What stays, stays in a bare copy, place by place. -/
theorem forall₂_of_bare {target : Markup} {es'' : List Markup}
    (stays : List.Forall₂ (Stays name target) es es') (same : es''.map Markup.bare = es'.map Markup.bare) :
    List.Forall₂ (Stays name target) es es'' ∧
      ∀ e e', (e, e') ∈ es.zip es' → ∃ e'', (e, e'') ∈ es.zip es'' ∧ e''.bare = e'.bare := by
  induction stays generalizing es'' with
  | nil =>
      obtain rfl := List.map_eq_nil_iff.mp same
      exact ⟨.nil, nofun⟩
  | cons here _ ih =>
      obtain ⟨e'', es'', rfl, first, rest⟩ := List.map_eq_cons_iff.mp same
      obtain ⟨pairs, copies⟩ := ih rest
      refine ⟨.cons (stays_of_bare here first) pairs, fun e e' member => ?_⟩
      rcases List.mem_cons.mp member with equal | later
      · obtain ⟨rfl, rfl⟩ := Prod.mk.inj equal
        exact ⟨e'', List.mem_cons_self, first⟩
      · obtain ⟨copy, listed, alike⟩ := copies e e' later
        exact ⟨copy, List.mem_cons_of_mem _ listed, alike⟩

/-- The same splice, seen in a tree that differs in places. -/
theorem Splice.of_bare (s : Splice name uid property action old new) {new' : List Markup}
    (same : new'.map Markup.bare = new.map Markup.bare) :
    ∃ s' : Splice name uid property action old new',
      s'.ahead = s.ahead ∧ s'.behind = s.behind ∧
      s'.brought.map Markup.bare = s.brought.map Markup.bare ∧
      s'.rest.map Markup.bare = s.rest.map Markup.bare := by
  obtain ⟨target, target', ahead, ahead', dropped, brought, behind, rest, old_eq, rfl, carries, listed,
    dropped_eq, brought_eq, stays⟩ := s
  rw [List.map_append, List.map_append] at same
  obtain ⟨front, rest', rfl, sameFront, sameRest⟩ := List.map_eq_append_iff.mp same
  obtain ⟨ahead'', brought', rfl, sameAhead, sameBrought⟩ := List.map_eq_append_iff.mp sameFront
  obtain ⟨pairs, copies⟩ := forall₂_of_bare stays sameAhead
  obtain ⟨target'', listed', alike⟩ := copies target target' listed
  refine ⟨⟨target, target'', ahead, ahead'', dropped, brought', behind, rest', old_eq, rfl, carries,
    listed', dropped_eq, ?_, pairs⟩, rfl, rfl, sameBrought, sameRest⟩
  rw [sameBrought, brought_eq, ← propertyElements_bare, ← propertyElements_bare, alike]

namespace Splice

/-- Everything behind the property is what it was. -/
def Unmoved (s : Splice name uid property action old new) : Prop :=
  s.rest.map Markup.bare = s.behind.map Markup.bare

/-- No element that was brought has the identifier of one behind the property. -/
def Unclaimed (s : Splice name uid property action old new) : Prop :=
  ∀ e ∈ s.brought, e.identifier? name ∉ s.behind.map (Markup.identifier? name)

/-- The elements that stand, before and after. -/
def standing (s : Splice name uid property action old new) : List (Markup × Markup) :=
  s.ahead.zip s.ahead' ++ s.behind.zip s.rest

theorem mem_of_standing (s : Splice name uid property action old new) {e e' : Markup}
    (stands : (e, e') ∈ s.standing) : e ∈ old ∧ e' ∈ new := by
  have before : ∀ x : Markup, x ∈ s.ahead ∨ x ∈ s.behind → x ∈ old := by
    intro x member
    rw [congrArg (fun es => x ∈ es) s.old_eq]
    rcases member with ahead | behind
    · exact List.mem_append_left _ (List.mem_append_left _ ahead)
    · exact List.mem_append_right _ behind
  have after : ∀ x : Markup, x ∈ s.ahead' ∨ x ∈ s.rest → x ∈ new := by
    intro x member
    rw [congrArg (fun es => x ∈ es) s.new_eq]
    rcases member with ahead | rest
    · exact List.mem_append_left _ (List.mem_append_left _ ahead)
    · exact List.mem_append_right _ rest
  rcases List.mem_append.mp stands with ahead | behind
  · exact (List.of_mem_zip ahead).imp (before e ∘ Or.inl) (after e' ∘ Or.inl)
  · exact (List.of_mem_zip behind).imp (before e ∘ Or.inr) (after e' ∘ Or.inr)

theorem mem_zip_self {es : List Markup} {e : Markup} (member : e ∈ es) : (e, e) ∈ es.zip es := by
  rw [List.zip_eq_zipWith, List.zipWith_self]
  exact List.mem_map_of_mem member

/-- The same place when nothing is done to it. -/
def idle (s : Splice name uid property action old new) (kept : action ≠ .removed) :
    Splice name uid property action old old where
  target := s.target
  target' := s.target
  ahead := s.ahead
  ahead' := s.ahead
  dropped := s.dropped
  brought := s.dropped
  behind := s.behind
  rest := s.behind
  old_eq := s.old_eq
  new_eq := s.old_eq
  carries := s.carries
  listed := mem_zip_self (List.of_mem_zip s.listed).1
  dropped_eq := s.dropped_eq
  brought_eq := by rw [if_neg kept, s.dropped_eq]
  stays := stays_refl s.target s.ahead

/-- An identifier that was claimed has been lost. -/
theorem unclaimed_of_unmoved (s : Splice name uid property action old new)
    (distinct : (new.map (Markup.identifier? name)).Nodup) (unmoved : s.Unmoved) : s.Unclaimed := by
  intro e member claimed
  have after := congrArg (List.map (Markup.identifier? name)) s.new_eq
  simp only [List.map_append, identifiers_of_bare unmoved] at after
  rw [after] at distinct
  exact (List.nodup_append.mp distinct).2.2 _ (List.mem_append_right _ (List.mem_map_of_mem member)) _
    claimed rfl

/-- When nothing is claimed, what stands and what was brought have identifiers of their own. -/
theorem distinct_of_unclaimed (s : Splice name uid property action old new)
    (distinctOld : (old.map (Markup.identifier? name)).Nodup)
    (distinctNew : (new.map (Markup.identifier? name)).Nodup) (unclaimed : s.Unclaimed) :
    ((s.ahead ++ s.brought ++ s.behind).map (Markup.identifier? name)).Nodup := by
  have before := congrArg (List.map (Markup.identifier? name)) s.old_eq
  have after := congrArg (List.map (Markup.identifier? name)) s.new_eq
  simp only [List.map_append] at before after
  rw [before] at distinctOld
  rw [after, s.identifiers_ahead] at distinctNew
  obtain ⟨front, behind, across⟩ := List.nodup_append.mp distinctOld
  simp only [List.map_append]
  refine List.nodup_append.mpr ⟨(List.nodup_append.mp distinctNew).1, behind, fun a here b there => ?_⟩
  rcases List.mem_append.mp here with ahead | brought
  · exact across a (List.mem_append_left _ ahead) b there
  · obtain ⟨e, member, rfl⟩ := List.mem_map.mp brought
    exact fun equal => unclaimed e member (equal ▸ there)

end Splice

end LiveMarkup.Syntax
