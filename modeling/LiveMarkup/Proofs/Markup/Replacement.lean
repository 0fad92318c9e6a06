import LiveMarkup.Proofs.Markup.Splice
/-
# LiveMarkup.Proofs.Markup.Replacement -- identifying a tree in which a property was replaced

A tree whose elements have identifiers is patched at the first element that carries one of
them, and then identified again.  The walk leaves every element as it is until it comes to
the new value (`Walk.Free`).  From there on it depends on what it has met: it leaves the rest
as it is as long as no element that came with the value was given an identifier of the rest.

`spliced_text` and `spliced_attribute` are about the element that is patched, `Spliced.around`
about one that has it inside, and `Tree.spliced` is the induction along the search for it.
`Module.splice_of_update` sums up what becomes of a whole module.
-/

namespace LiveMarkup.Syntax

set_option autoImplicit false

open LiveMarkup.Markup LiveMarkup.Property

variable {supply : Supply} {name uid property : String} {action : Action} {es : List Markup} {w w' : Walk}

/-! ## The element whose property is replaced -/

theorem attributeElements_append (as bs : List (Attribute Tree)) :
    attributeElements (as ++ bs) = attributeElements as ++ attributeElements bs := by
  induction as with
  | nil => rfl
  | cons a as ih => simp only [List.cons_append, attributeElements, ih, List.append_assoc]

theorem identifyAttributes_append (around : Option Nat) (as bs : List (Attribute Tree)) (w : Walk) :
    identifyAttributes supply name around none (as ++ bs) w =
      let r := identifyAttributes supply name around none as w
      let rs := identifyAttributes supply name around none bs r.2
      (r.1 ++ rs.1, rs.2) := by
  induction as generalizing w with
  | nil => rfl
  | cons a as ih => simp only [List.cons_append, identifyAttributes, ih]

theorem chooseIdentifier_congr {as bs : List (Attribute Tree)} (same : readings name as = readings name bs)
    (w : Walk) : chooseIdentifier supply name as w = chooseIdentifier supply name bs w := by
  simp only [chooseIdentifier, keptIdentifier?_congr same]

variable {l : Language} {v : Value} {e e' : Markup} {o : PatchOutcome}

/-- The walk through an element whose text was set. -/
theorem spliced_text {children : List Tree} (done : TextPatched l v e o children)
    (carries : e.identifier? name = some uid) (free : w.Free name (Tree.element e).elements)
    (around : Option Nat) :
    Spliced name uid textName o.action w (Tree.element e).elements
      ((Tree.element (e.withChildren children)).identify supply name around w).1.elements := by
  obtain ⟨tag, attributes, typeArguments, removed⟩ := done.frame
  generalize e.withChildren children = e' at *
  rw [Tree.elements_element] at free
  obtain ⟨uid', shown, chosen⟩ := free.choose supply
  have entered := Walk.passed_enter around e' shown chosen
  obtain ⟨front, -⟩ := (free.tail entered).append
  obtain ⟨sameA, passedA⟩ := identifyAttributes_free supply e.attributes (some w.arena.size) _ front.append.1
  obtain ⟨sameT, -⟩ :=
    identifyOption_free supply e.typeArguments (some w.arena.size) _ (front.append.2 passedA)
  simp only [Tree.identify_element, attributes, typeArguments, chosen, sameA, sameT]
  generalize walked : identifyOf supply name (some w.arena.size) e'.children _ = cs
  refine .target (attributeElements e.attributes ++ optionElements e.typeArguments)
    (elementsOf e.children) (elementsOf cs.1) [] [] ?_ ?_ carries tag rfl ?_ ?_ fun _ => rfl
  · rw [Tree.elements_element, List.append_nil, List.cons_append]
  · rw [Tree.elements_element, List.append_nil, List.cons_append]
  · rw [Markup.propertyElements, if_pos rfl]
  · split
    · rename_i isRemoved
      rw [removed isRemoved] at walked
      rw [← walked]
      rfl
    · rw [Markup.propertyElements, if_pos rfl]

theorem readings_mid {as old new bs : List (Attribute Tree)}
    (oldOther : ∀ a ∈ old, Markup.isNamed name a = false)
    (newOther : ∀ a ∈ new, Markup.isNamed name a = false) :
    readings name (as ++ new ++ bs) = readings name (as ++ old ++ bs) := by
  simp only [readings_append, readings_eq_nil oldOther, readings_eq_nil newOther]

theorem Walk.Passed.free {w w' : Walk} {fs : List Markup} (passed : w.Passed name es w')
    (settled : ∀ e ∈ fs, e.Settled name)
    (distinct : (w.arena.uids.map some ++ (es ++ fs).map (Markup.identifier? name)).Nodup) :
    w'.Free name fs := by
  refine ⟨settled, ?_⟩
  rw [passed, List.append_assoc, ← List.map_append]
  exact distinct

/-- The walk through an element of which an attribute was set. -/
theorem spliced_attribute {attributes : List (Attribute Tree)}
    (done : AttributesPatched l property v o e.attributes attributes) (other : property ≠ name)
    (isAttribute : property ≠ textName) (carries : e.identifier? name = some uid)
    (free : w.Free name (Tree.element e).elements) (around : Option Nat) :
    Spliced name uid property o.action w (Tree.element e).elements
      ((Tree.element { e with attributes := attributes }).identify supply name around w).1.elements := by
  obtain ⟨as, old, new, bs, split, rfl, first, replaced⟩ := done.replacement
  have same : readings name (as ++ new ++ bs) = readings name e.attributes := by
    rw [split]
    exact readings_mid (fun a member => isNamed_of_shown other (first.shown a member))
      fun a member => isNamed_of_shown other (replaced.shown a member)
  have elements : (Tree.element e).elements = e :: attributeElements as ++ attributeElements old ++
      (attributeElements bs ++ optionElements e.typeArguments ++ elementsOf e.children) := by
    simp only [Tree.elements_element, split, attributeElements_append, List.append_assoc, List.cons_append]
  have settled := free.settled
  rw [elements, List.append_assoc] at free
  rw [elements] at settled
  obtain ⟨uid', carried, chosen⟩ := free.choose supply
  rw [← chooseIdentifier_congr same] at chosen
  have entered := Walk.passed_enter around { e with attributes := as ++ new ++ bs } carried chosen
  simp only [Tree.identify_element, chosen, identifyAttributes_append]
  -- the walk through the attributes ahead, the new one, and those behind
  generalize w.enter supply name around (as ++ new ++ bs) { e with attributes := as ++ new ++ bs } = w₁ at *
  obtain ⟨sameA, passedA⟩ :=
    identifyAttributes_free supply as (some w.arena.size) _ (free.tail entered).append.1
  generalize identifyAttributes supply name (some w.arena.size) none as w₁ = rA at *
  have passedN := (identifyAttributes_visits supply name new (some w.arena.size) none rA.2).passed
  have readN : readings name (identifyAttributes supply name (some w.arena.size) none new rA.2).1 =
      readings name new := readings_identifyAttributes supply (some w.arena.size) new rA.2
  have replacedN : ∀ bs', (bs = [] → bs' = []) → Replaced property o.action as
      (identifyAttributes supply name (some w.arena.size) none new rA.2).1 bs' :=
    fun bs' => replaced.identify (some w.arena.size) rA.2
  generalize identifyAttributes supply name (some w.arena.size) none new rA.2 = rN at *
  have readB : readings name (identifyAttributes supply name (some w.arena.size) none bs rN.2).1 =
      readings name bs := readings_identifyAttributes supply (some w.arena.size) bs rN.2
  have none : bs = [] → (identifyAttributes supply name (some w.arena.size) none bs rN.2).1 = [] := by
    rintro rfl
    rfl
  have behind := identifyInside_free supply name bs e.typeArguments e.children (some w.arena.size) rN.2
  dsimp only at behind
  generalize identifyAttributes supply name (some w.arena.size) _ bs rN.2 = rB at *
  generalize identifyOption supply name (some w.arena.size) e.typeArguments rB.2 = rT at *
  generalize identifyOf supply name (some w.arena.size) e.children rT.2 = rC at *
  rw [sameA]
  refine .target (attributeElements as) (attributeElements old) (attributeElements rN.1)
    (attributeElements bs ++ optionElements e.typeArguments ++ elementsOf e.children)
    (attributeElements rB.1 ++ optionElements rT.1 ++ elementsOf rC.1) elements ?_ carries rfl ?_ ?_ ?_ ?_
  · simp only [Tree.elements_element, attributeElements_append, List.append_assoc, List.cons_append]
  · have alike : readings name (as ++ rN.1 ++ rB.1) = readings name e.attributes := by
      rw [← same, readings_append, readings_append, readN, readB, readings_append, readings_append]
    exact identifierIn?_congr alike
  · rw [Markup.propertyElements, if_neg isAttribute, split, first.elements]
  · rw [Markup.propertyElements, if_neg isAttribute]
    exact (replacedN rB.1 none).elements
  · intro distinct
    have passed := (entered.append passedA).append passedN
    obtain ⟨sameB, sameT, sameC⟩ :=
      behind (passed.free (fun x member => settled x (List.mem_append_right _ member)) distinct)
    rw [sameB, sameT, sameC]

/-- The walk through an element of which a property was set. -/
theorem spliced_patch (patched : Patched l property v e o e') (other : property ≠ name)
    (carries : e.identifier? name = some uid) (free : w.Free name (Tree.element e).elements)
    (around : Option Nat) :
    Spliced name uid property o.action w (Tree.element e).elements
      ((Tree.element e').identify supply name around w).1.elements := by
  cases patched with
  | attributes plain isAttribute done => exact spliced_attribute done other isAttribute carries free around
  | text isText done =>
      rw [isText]
      exact spliced_text done carries free around

/-! ## The elements around -/

/-- The kind of a tree that is no element. -/
def Tree.kind? : Tree → Option Kind
  | .node kind _ => some kind
  | .element _ => none

/-- Whether a value is a string is seen from kinds at two levels. -/
theorem stringValue?_congr {t u : Tree} (root : t.kind? = u.kind?)
    (parts : t.parts.map Tree.kind? = u.parts.map Tree.kind?) :
    Markup.stringValue? (some t) = Markup.stringValue? (some u) := by
  match t, u with
  | .element _, .element _ => rfl
  | .element _, .node _ _ => cases root
  | .node _ _, .element _ => cases root
  | .node kind ts, .node kind' us =>
      obtain rfl := Option.some.inj root
      cases kind with
      | container =>
          match ts, us with
          | [], [] => rfl
          | [.node kind _], [.node kind' _] =>
              obtain rfl := Option.some.inj (List.cons.inj parts).1
              cases kind <;> rfl
          | [.element _], [.element _] => rfl
          | [.element _], [.node _ _] => cases (List.cons.inj parts).1
          | [.node _ _], [.element _] => cases (List.cons.inj parts).1
          | _ :: _ :: _, _ :: _ :: _ => simp [Markup.stringValue?]
          | _ :: _ :: _, [_] => cases (List.cons.inj parts).2
      | _ => rfl

section Update

variable {ρ : Type} {p : Markup → Bool} {f : Markup → ρ × Markup}

theorem Tree.kind?_updateFirst {t : Tree} {r : ρ × Tree} (updated : t.updateFirst p f = some r) :
    r.2.kind? = t.kind? := by
  cases t with
  | node kind parts =>
      simp only [Tree.updateFirst, Option.map_eq_some_iff] at updated
      obtain ⟨_, -, rfl⟩ := updated
      rfl
  | element e =>
      obtain ⟨tagName, attributes, typeArguments, selfClosing, children, closing, lines⟩ := e
      simp only [Tree.updateFirst] at updated
      repeat' split at updated
      all_goals simp only [Option.some.injEq, Option.map_eq_some_iff] at updated
      · subst updated; rfl
      · subst updated; rfl
      · subst updated; rfl
      · obtain ⟨_, -, rfl⟩ := updated
        rfl

theorem kinds_updateFirstOf {ts : List Tree} {r : ρ × List Tree} (updated : updateFirstOf p f ts = some r) :
    r.2.map Tree.kind? = ts.map Tree.kind? := by
  induction ts generalizing r with
  | nil => cases updated
  | cons t ts ih =>
      simp only [updateFirstOf] at updated
      split at updated
      · rename_i here
        obtain rfl := Option.some.inj updated
        rw [List.map_cons, List.map_cons, Tree.kind?_updateFirst here]
      · obtain ⟨r', later, rfl⟩ := Option.map_eq_some_iff.mp updated
        rw [List.map_cons, List.map_cons, ih later]

theorem stringValue?_updateFirst {t : Tree} {r : ρ × Tree} (updated : t.updateFirst p f = some r) :
    Markup.stringValue? (some r.2) = Markup.stringValue? (some t) := by
  refine stringValue?_congr (Tree.kind?_updateFirst updated) ?_
  cases t with
  | node kind parts =>
      simp only [Tree.updateFirst, Option.map_eq_some_iff] at updated
      obtain ⟨_, parts, rfl⟩ := updated
      exact kinds_updateFirstOf parts
  | element e =>
      have kind := Tree.kind?_updateFirst updated
      cases same : r.2 with
      | element e' => rfl
      | node kind' parts =>
          rw [same] at kind
          cases kind

/-- A change at an element inside an attribute does not touch what is read of it: a string
holds no element. -/
theorem reading_updateFirstIn (name : String) {a : Attribute Tree} {r : ρ × Attribute Tree}
    (updated : updateFirstIn p f a = some r) :
    Markup.isNamed name r.2 = Markup.isNamed name a ∧ Markup.stringOf? name r.2 = Markup.stringOf? name a := by
  match a with
  | .named n value =>
      simp only [updateFirstIn, Option.map_eq_some_iff] at updated
      obtain ⟨r, updated, rfl⟩ := updated
      cases value with
      | none => cases updated
      | some t =>
          simp only [updateFirstOption, Option.map_eq_some_iff] at updated
          obtain ⟨r, updated, rfl⟩ := updated
          cases n with
          | plain n => exact ⟨rfl, by simp only [Markup.stringOf?, stringValue?_updateFirst updated]⟩
          | namespaced space n => exact ⟨rfl, rfl⟩
  | .spread value =>
      simp only [updateFirstIn, Option.map_eq_some_iff] at updated
      obtain ⟨r, updated, rfl⟩ := updated
      exact ⟨rfl, rfl⟩

theorem readings_updateFirstAttribute {as : List (Attribute Tree)} {r : ρ × List (Attribute Tree)}
    (updated : updateFirstAttribute p f as = some r) : readings name r.2 = readings name as := by
  induction as generalizing r with
  | nil => cases updated
  | cons a as ih =>
      simp only [updateFirstAttribute] at updated
      split at updated
      · rename_i here
        obtain rfl := Option.some.inj updated
        obtain ⟨named, string⟩ := reading_updateFirstIn name here
        rw [readings_cons, readings_cons, named, string]
      · obtain ⟨r', later, rfl⟩ := Option.map_eq_some_iff.mp updated
        rw [readings_cons, readings_cons, ih later]

end Update

/-- An element around, with the identifier it had, is passed as before. -/
theorem Spliced.around {e : Markup} (free : w.Free name (Tree.element e).elements) (around : Option Nat)
    (e' : Markup) (tag : e'.name = e.name)
    (same : readings name e'.attributes = readings name e.attributes)
    (inside : ∀ w' : Walk, w'.Free name (elementsInside e) →
      let here := some w.arena.size
      let as := identifyAttributes supply name here none e'.attributes w'
      let ts := identifyOption supply name here e'.typeArguments as.2
      let cs := identifyOf supply name here e'.children ts.2
      Spliced name uid property action w' (elementsInside e)
        (attributeElements as.1 ++ optionElements ts.1 ++ elementsOf cs.1)) :
    Spliced name uid property action w (Tree.element e).elements
      ((Tree.element e').identify supply name around w).1.elements := by
  have stays : ∀ e'' : Markup, e''.name = e'.name →
      readings name e''.attributes = readings name e'.attributes → ∀ target ∈ elementsInside e, List.Forall₂ (Stays name target) [e] [e''] := by
    intro e'' tag' same' target member
    have within : target ∈ (Tree.element e).elements := by
      rw [Tree.elements_element]
      exact List.mem_cons_of_mem _ member
    exact .cons ⟨tag'.trans tag, identifierIn?_congr (same'.trans same), Or.inr within⟩ .nil
  rw [Tree.elements_element] at free
  obtain ⟨uid', carried, chosen⟩ := free.choose supply
  rw [← chooseIdentifier_congr same] at chosen
  have entered := Walk.passed_enter around e' carried chosen
  have spliced := inside _ (free.tail entered)
  simp only [Tree.identify_element, chosen]
  rw [Tree.elements_element, Tree.elements_element]
  refine spliced.left entered (stays _ ?_ ?_)
  · rfl
  · exact readings_identifyAttributes supply _ _ _

mutual

theorem Tree.spliced (other : property ≠ name) : ∀ (t : Tree) {t' : Tree},
    t.updateFirst (fun e => e.carries name uid) (patchStep l property v) = some (.ok o, t') →
    ∀ (around : Option Nat) (w : Walk), w.Free name t.elements →
      Spliced name uid property o.action w t.elements (t'.identify supply name around w).1.elements
  | .node kind parts, t', updated, around, w, free => by
      simp only [Tree.updateFirst, Option.map_eq_some_iff] at updated
      obtain ⟨⟨_, parts'⟩, updated, same⟩ := updated
      obtain ⟨rfl, rfl⟩ := Prod.mk.inj same
      exact splicedOf other parts updated around w free
  | .element ⟨tagName, attributes, typeArguments, selfClosing, children, closing, lines⟩,
      t', updated, around, w, free => by
      simp only [Tree.updateFirst] at updated
      split at updated
      · -- this is the target
        rename_i carries
        obtain ⟨first, rfl⟩ := Prod.mk.inj (Option.some.inj updated)
        exact spliced_patch (patchStep_eq_ok_iff.mp (Prod.ext first rfl)) other (eq_of_beq carries) free around
      · split at updated
        · -- the target is inside an attribute
          rename_i r here
          obtain ⟨first, attributes'⟩ := r
          obtain ⟨rfl, rfl⟩ := Prod.mk.inj (Option.some.inj updated)
          refine .around free around
            ⟨tagName, attributes', typeArguments, selfClosing, children, closing, lines⟩
            rfl (readings_updateFirstAttribute here) fun w' inside => ?_
          have passedA :=
            (identifyAttributes_visits supply name attributes' (some w.arena.size) none w').passed
          have passedT := (identifyOption_visits supply name typeArguments (some w.arena.size)
            (identifyAttributes supply name (some w.arena.size) none attributes' w').2).passed
          have spliced :=
            splicedAttribute other attributes here (some w.arena.size) w' inside.append.1.append.1
          obtain ⟨settled, settledC⟩ := List.forall_mem_append.mp inside.settled
          refine (spliced.right passedA (List.forall_mem_append.mp settled).2 fun free => ?_).right
            (passedA.append passedT) settledC fun free => ?_
          · rw [(identifyOption_free supply typeArguments _ _ free).1]
          · rw [(identifyOf_free supply children _ _ free).1]
        · split at updated
          · -- the target is inside a type argument
            rename_i r here
            obtain ⟨first, typeArguments'⟩ := r
            obtain ⟨rfl, rfl⟩ := Prod.mk.inj (Option.some.inj updated)
            refine .around free around
              ⟨tagName, attributes, typeArguments', selfClosing, children, closing, lines⟩
              rfl rfl fun w' inside => ?_
            obtain ⟨sameA, passedA⟩ :=
              identifyAttributes_free supply attributes (some w.arena.size) w' inside.append.1.append.1
            have spliced := splicedOption other typeArguments here (some w.arena.size) _
              (inside.append.1.append.2 passedA)
            have passedT := (identifyOption_visits supply name typeArguments' (some w.arena.size)
              (identifyAttributes supply name (some w.arena.size) none attributes w').2).passed
            simp only [sameA]
            refine (spliced.left passedA fun target _ => stays_refl target _).right (passedA.append passedT)
              (List.forall_mem_append.mp inside.settled).2 fun free => ?_
            rw [(identifyOf_free supply children _ _ free).1]
          · -- the target is inside a child
            simp only [Option.map_eq_some_iff] at updated
            obtain ⟨⟨_, children'⟩, here, same⟩ := updated
            obtain ⟨rfl, rfl⟩ := Prod.mk.inj same
            refine .around free around
              ⟨tagName, attributes, typeArguments, selfClosing, children', closing, lines⟩
              rfl rfl fun w' inside => ?_
            obtain ⟨sameA, passedA⟩ :=
              identifyAttributes_free supply attributes (some w.arena.size) w' inside.append.1.append.1
            obtain ⟨sameT, passedT⟩ := identifyOption_free supply typeArguments (some w.arena.size) _
              (inside.append.1.append.2 passedA)
            have spliced := splicedOf other children here (some w.arena.size) _
              (inside.append.2 (passedA.append passedT))
            simp only [sameA, sameT]
            exact spliced.left (passedA.append passedT) fun target _ => stays_refl target _

theorem splicedOf (other : property ≠ name) : ∀ (ts : List Tree) {ts' : List Tree},
    updateFirstOf (fun e => e.carries name uid) (patchStep l property v) ts = some (.ok o, ts') →
    ∀ (around : Option Nat) (w : Walk), w.Free name (elementsOf ts) →
      Spliced name uid property o.action w (elementsOf ts)
        (elementsOf (identifyOf supply name around ts' w).1)
  | [], _, updated, _, _, _ => by cases updated
  | t :: ts, ts', updated, around, w, free => by
      simp only [updateFirstOf] at updated
      split at updated
      · rename_i r here
        obtain ⟨first, t'⟩ := r
        obtain ⟨rfl, rfl⟩ := Prod.mk.inj (Option.some.inj updated)
        have passed := (t'.identify_visits supply name around w).passed
        refine (t.spliced other here around w free.append.1).right passed
          (fun x member => free.settled x (List.mem_append_right _ member)) fun free => ?_
        rw [(identifyOf_free supply ts around _ free).1]
      · simp only [Option.map_eq_some_iff] at updated
        obtain ⟨⟨_, ts'⟩, updated, same⟩ := updated
        obtain ⟨rfl, rfl⟩ := Prod.mk.inj same
        obtain ⟨same, passed⟩ := t.identify_free supply around w free.append.1
        have spliced := splicedOf other ts updated around _ (free.append.2 passed)
        simp only [identifyOf, elementsOf, same]
        exact spliced.left passed fun target _ => stays_refl target _

theorem splicedAttribute (other : property ≠ name) :
    ∀ (as : List (Attribute Tree)) {as' : List (Attribute Tree)},
    updateFirstAttribute (fun e => e.carries name uid) (patchStep l property v) as = some (.ok o, as') →
    ∀ (around : Option Nat) (w : Walk), w.Free name (attributeElements as) →
      Spliced name uid property o.action w (attributeElements as)
        (attributeElements (identifyAttributes supply name around none as' w).1)
  | [], _, updated, _, _, _ => by cases updated
  | a :: as, as', updated, around, w, free => by
      simp only [updateFirstAttribute] at updated
      split at updated
      · rename_i r here
        obtain ⟨first, a'⟩ := r
        obtain ⟨rfl, rfl⟩ := Prod.mk.inj (Option.some.inj updated)
        have passed := (identifyIn_visits supply name a' around w).passed
        refine (splicedIn other a here around w free.append.1).right passed
          (fun x member => free.settled x (List.mem_append_right _ member)) fun free => ?_
        rw [(identifyAttributes_free supply as around _ free).1]
      · simp only [Option.map_eq_some_iff] at updated
        obtain ⟨⟨_, as'⟩, updated, same⟩ := updated
        obtain ⟨rfl, rfl⟩ := Prod.mk.inj same
        obtain ⟨same, passed⟩ := identifyIn_free supply a around w free.append.1
        have spliced := splicedAttribute other as updated around _ (free.append.2 passed)
        simp only [identifyAttributes, attributeElements, same]
        exact spliced.left passed fun target _ => stays_refl target _

theorem splicedIn (other : property ≠ name) : ∀ (a : Attribute Tree) {a' : Attribute Tree},
    updateFirstIn (fun e => e.carries name uid) (patchStep l property v) a = some (.ok o, a') →
    ∀ (around : Option Nat) (w : Walk), w.Free name (attributeElementsOf a) →
      Spliced name uid property o.action w (attributeElementsOf a)
        (attributeElementsOf (identifyIn supply name around a' w).1)
  | .named n value, a', updated, around, w, free => by
      simp only [updateFirstIn, Option.map_eq_some_iff] at updated
      obtain ⟨⟨_, value'⟩, updated, same⟩ := updated
      obtain ⟨rfl, rfl⟩ := Prod.mk.inj same
      exact splicedOption other value updated around w free
  | .spread value, a', updated, around, w, free => by
      simp only [updateFirstIn, Option.map_eq_some_iff] at updated
      obtain ⟨⟨_, value'⟩, updated, same⟩ := updated
      obtain ⟨rfl, rfl⟩ := Prod.mk.inj same
      exact value.spliced other updated around w free

theorem splicedOption (other : property ≠ name) : ∀ (t : Option Tree) {t' : Option Tree},
    updateFirstOption (fun e => e.carries name uid) (patchStep l property v) t = some (.ok o, t') →
    ∀ (around : Option Nat) (w : Walk), w.Free name (optionElements t) →
      Spliced name uid property o.action w (optionElements t)
        (optionElements (identifyOption supply name around t' w).1)
  | none, _, updated, _, _, _ => by cases updated
  | some t, t', updated, around, w, free => by
      simp only [updateFirstOption, Option.map_eq_some_iff] at updated
      obtain ⟨⟨_, t'⟩, updated, same⟩ := updated
      obtain ⟨rfl, rfl⟩ := Prod.mk.inj same
      exact t.spliced other updated around w free

end

/-- **What keeps its identifier when a property is replaced.**  Let a module whose elements
have identifiers be patched, and let the patched module be identified again, perhaps after
it was read back.  Then the elements of the two are spliced at the property: what stands
ahead of it is the same as before, with the same identifiers.  What stands behind it is the
same as before if and only if no element that was brought was given the identifier of one
of them. -/
theorem Module.splice_of_update {m m' d : Module} (settled : ∀ e ∈ m.elements, e.Settled name)
    (distinct : (m.elements.map (Markup.identifier? name)).Nodup) (other : property ≠ name)
    (updated : m.update? name uid (patchStep l property v) = some (.ok o, m')) (back : d.bare = m'.bare)
    (next : Nat) :
    ∃ s : Splice name uid property o.action m.elements (d.identify supply name next).content.elements,
      s.Unmoved ↔ s.Unclaimed := by
  have copy : (d.identify supply name next).content.elements.map Markup.bare =
      (m'.identify supply name next).content.elements.map Markup.bare := by
    rw [← Module.elements_bare, ← Module.elements_bare, ← Module.identify_bare, back, Module.identify_bare]
  have distinctNew : ((d.identify supply name next).content.elements.map (Markup.identifier? name)).Nodup :=
    (identifyOf_visits supply name d.items none ⟨.empty, [], next⟩).identifiers.2.1
  obtain ⟨⟨_, items⟩, walked, equal⟩ := Option.map_eq_some_iff.mp updated
  obtain ⟨rfl, rfl⟩ := Prod.mk.inj equal
  obtain ⟨s, settles⟩ := splicedOf other _ walked none _ (Walk.free_start name settled distinct next)
  obtain ⟨s', ahead, behind, brought, rest⟩ := s.of_bare copy
  refine ⟨s', s'.unclaimed_of_unmoved distinctNew, fun unclaimed => ?_⟩
  have clear : s.Clear ⟨.empty, [], next⟩ := by
    have distinct := s'.distinct_of_unclaimed distinct distinctNew unclaimed
    simpa only [Splice.Clear, Arena.empty, Arena.uids, List.map_nil, List.nil_append, List.map_append,
      ahead, behind, identifiers_of_bare brought] using distinct
  show s'.rest.map Markup.bare = s'.behind.map Markup.bare
  rw [rest, settles clear, behind]

end LiveMarkup.Syntax
