import LiveMarkup.Markup.Identify
/-
# LiveMarkup.Proofs.Markup.Identification -- every element has an identifier of its own

Two readers look at the attributes of an element.  The walk keeps the string of the
*first attribute* of the name (`keptIdentifier?`); everyone else takes the *first string*
under the name (`Markup.identifierIn?`).  `chooseIdentifier_spec` says that they agree on
what the walk leaves behind, whatever was there: nothing, no value, an empty string, a
tree that is no string, or the name given twice.

A walk deletes elements (those inside a value that is replaced), so what it has entered
is told by the tree that comes out.  `Visits` lists the entered elements with the walk at
each of them, and with what is around them; `Tree.identify_visits` is the one induction over
trees, and what holds of a whole walk is an induction over that list.
`Module.identifier_of_identify` is the result.
-/
namespace LiveMarkup.Syntax
set_option autoImplicit false

/-! ## The attributes of one element -/

section Attributes

variable (supply : Supply) (name : String)

theorem stringValue?_identify (around : Option Nat) (t : Tree) (w : Walk) :
    Markup.stringValue? (some (t.identify supply name around w).1) = Markup.stringValue? (some t) := by
  cases t with
  | element e =>
      obtain ⟨tagName, attributes, typeArguments, selfClosing, children, closing, lines⟩ := e
      rfl
  | node kind parts =>
      cases kind with
      | container =>
          match parts with
          | [] => rfl
          | [.element ⟨_, _, _, _, _, _, _⟩] => rfl
          | [.node inner _] => cases inner <;> rfl
          | .element _ :: _ :: _ => rfl
          | .node inner _ :: _ :: _ => cases inner <;> rfl
      | _ => rfl

theorem stringOf?_identifyIn (around : Option Nat) (a : Attribute Tree) (w : Walk) :
    Markup.stringOf? name (identifyIn supply name around a w).1 = Markup.stringOf? name a := by
  match a with
  | .spread value => rfl
  | .named (.namespaced _ _) _ => rfl
  | .named (.plain n) none => rfl
  | .named (.plain n) (some t) =>
      simp only [identifyIn, identifyOption, Markup.stringOf?, stringValue?_identify]

theorem stringOf?_eq_none {a : Attribute Tree} (other : Markup.isNamed name a = false) :
    Markup.stringOf? name a = none := by
  unfold Markup.stringOf?
  split
  · rename_i n value
    rw [if_neg (by simpa [Markup.isNamed] using other)]
  · rfl

/-- Attributes that take in no new identifier show the identifier they showed before. -/
theorem identifierIn?_identifyAttributes_none (around : Option Nat) :
    ∀ (as : List (Attribute Tree)) (w : Walk),
      Markup.identifierIn? name (identifyAttributes supply name around none as w).1 =
        Markup.identifierIn? name as
  | [], _ => rfl
  | a :: as, w => by
      simp only [identifyAttributes, Markup.identifierIn?, List.findSome?_cons,
        stringOf?_identifyIn]
      split
      · rfl
      · exact identifierIn?_identifyAttributes_none around as _

/-- A new identifier is the one that the attributes show. -/
theorem identifierIn?_identifyAttributes_some (around : Option Nat) (uid : String) :
    ∀ (as : List (Attribute Tree)) (w : Walk),
      Markup.identifierIn? name (identifyAttributes supply name around (some uid) as w).1 = some uid
  | [], _ => by
      simp [identifyAttributes, Markup.identifierIn?, Markup.stringOf?_identifierAttribute]
  | a :: as, w => by
      simp only [identifyAttributes]
      cases named : Markup.isNamed name a with
      | true => simp [Markup.identifierIn?, Markup.stringOf?_identifierAttribute]
      | false =>
          simp only [Bool.false_eq_true, if_false, Markup.identifierIn?, List.findSome?_cons,
            stringOf?_identifyIn, stringOf?_eq_none name named]
          exact identifierIn?_identifyAttributes_some around uid as _

theorem keptIdentifier?_eq_some {taken : List String} {as : List (Attribute Tree)} {uid : String}
    (kept : keptIdentifier? name taken as = some uid) :
    Markup.identifierIn? name as = some uid ∧ uid ≠ "" ∧ uid ∉ taken := by
  induction as with
  | nil => simp [keptIdentifier?] at kept
  | cons a as ih =>
      cases named : Markup.isNamed name a with
      | false =>
          have : keptIdentifier? name taken as = some uid := by
            simpa [keptIdentifier?, List.find?_cons, named] using kept
          simpa [Markup.identifierIn?, stringOf?_eq_none name named] using ih this
      | true =>
          match a with
          | .named (.plain n) value =>
              have same : n = name := by simpa [Markup.isNamed] using named
              subst same
              simp only [keptIdentifier?, List.find?_cons, named] at kept
              cases held : Markup.stringValue? value with
              | none => simp [held] at kept
              | some text =>
                  simp only [held] at kept
                  split at kept
                  · simp at kept
                  · rename_i free
                    obtain rfl : text = uid := by simpa using kept
                    rw [not_or] at free
                    exact ⟨by simp [Markup.identifierIn?, Markup.stringOf?, held], free⟩
          | .named (.namespaced _ _) _ => simp [Markup.isNamed] at named
          | .spread _ => simp [Markup.isNamed] at named

/-- A chosen identifier is neither empty nor taken, and it is the one that the attributes
show when the walk has been through them. -/
theorem chooseIdentifier_spec (given : List (Attribute Tree)) (w : Walk) :
    (chooseIdentifier supply name given w).1 ≠ "" ∧
      (chooseIdentifier supply name given w).1 ∉ w.arena.uids ∧
      (chooseIdentifier supply name given w).2.2.arena = w.arena ∧
      ∀ (around : Option Nat) (w' : Walk),
        Markup.identifierIn? name
            (identifyAttributes supply name around (chooseIdentifier supply name given w).2.1 given w').1 =
          some (chooseIdentifier supply name given w).1 := by
  unfold chooseIdentifier
  split
  · rename_i uid kept
    obtain ⟨shown, nonempty, free⟩ := keptIdentifier?_eq_some name kept
    refine ⟨nonempty, free, rfl, fun around w' => ?_⟩
    rw [identifierIn?_identifyAttributes_none, shown]
  · exact ⟨supply.fresh_ne_empty _ _, supply.fresh_not_mem _ _, rfl,
      fun around w' => identifierIn?_identifyAttributes_some supply name around _ given w'⟩

end Attributes

/-! ## The elements that a walk enters -/

section Visits

variable (supply : Supply) (name : String)

/-- The walk behind the opening tag of an element that was given some attributes. -/
def Walk.enter (w : Walk) (around : Option Nat) (given : List (Attribute Tree)) (e : Markup) : Walk :=
  let chosen := chooseIdentifier supply name given w
  { chosen.2.2 with
    arena := chosen.2.2.arena.push ⟨chosen.1, e.tag, e.isComponent, around, [], e.lines⟩ }

/-- A walk that enters one element after the other, each with the identifier that was
chosen where it stands.  The elements inside an element come directly behind it, and its
position is what is around them. -/
inductive Visits : Option Nat → Walk → List Markup → Walk → Prop where
  | done (around : Option Nat) (w : Walk) : Visits around w [] w
  | enter {around : Option Nat} {w w' w'' : Walk} {e : Markup} {es : List Markup}
      (given : List (Attribute Tree))
      (shown : e.identifier? name = some (chooseIdentifier supply name given w).1)
      (inside : Visits (some w.arena.size) (w.enter supply name around given e) (elementsInside e) w')
      (rest : Visits around w' es w'') : Visits around w (e :: (elementsInside e ++ es)) w''

variable {supply name}

theorem Visits.append {around : Option Nat} {w w' w'' : Walk} {es fs : List Markup}
    (first : Visits supply name around w es w') (second : Visits supply name around w' fs w'') :
    Visits supply name around w (es ++ fs) w'' := by
  induction first with
  | done around w => exact second
  | enter given shown inside rest _ ih =>
      rw [List.cons_append, List.append_assoc]
      exact .enter given shown inside (ih second)

variable (supply name)

mutual

/-- The walk through a tree enters the elements of the tree that comes out of it. -/
theorem Tree.identify_visits : ∀ (t : Tree) (around : Option Nat) (w : Walk),
    Visits supply name around w (t.identify supply name around w).1.elements
      (t.identify supply name around w).2
  | .node kind parts, around, w => by
      simpa only [Tree.identify, Tree.elements] using identifyOf_visits parts around w
  | .element ⟨tagName, attributes, typeArguments, selfClosing, children, closing, lines⟩, around, w => by
      obtain ⟨-, -, arena, shown⟩ := chooseIdentifier_spec supply name attributes w
      rw [← List.append_nil (Tree.elements _)]
      simp only [Tree.identify, Tree.elements, List.cons_append]
      refine .enter attributes (shown _ _) ?_ (.done around _)
      have here : some w.arena.size = some (chooseIdentifier supply name attributes w).2.2.arena.size := by
        rw [arena]
      rw [here]
      refine .append (.append ?_ (identifyOption_visits typeArguments _ _))
        (identifyOf_visits children _ _)
      exact identifyAttributes_visits attributes _ _ _

theorem identifyOf_visits : ∀ (ts : List Tree) (around : Option Nat) (w : Walk),
    Visits supply name around w (elementsOf (identifyOf supply name around ts w).1)
      (identifyOf supply name around ts w).2
  | [], around, w => .done around w
  | t :: ts, around, w => (t.identify_visits around w).append (identifyOf_visits ts around _)

theorem identifyAttributes_visits :
    ∀ (as : List (Attribute Tree)) (around : Option Nat) (new : Option String) (w : Walk),
      Visits supply name around w (attributeElements (identifyAttributes supply name around new as w).1)
        (identifyAttributes supply name around new as w).2
  | [], around, none, w => .done around w
  | [], around, some _, w => .done around w
  | a :: as, around, none, w =>
      (identifyIn_visits a around w).append (identifyAttributes_visits as around none _)
  | a :: as, around, some uid, w => by
      simp only [identifyAttributes]
      split
      · -- The value that is replaced takes its elements with it.
        exact identifyAttributes_visits as around none w
      · exact (identifyIn_visits a around w).append (identifyAttributes_visits as around (some uid) _)

theorem identifyIn_visits : ∀ (a : Attribute Tree) (around : Option Nat) (w : Walk),
    Visits supply name around w (attributeElementsOf (identifyIn supply name around a w).1)
      (identifyIn supply name around a w).2
  | .named _ value, around, w => identifyOption_visits value around w
  | .spread value, around, w => value.identify_visits around w

theorem identifyOption_visits : ∀ (t : Option Tree) (around : Option Nat) (w : Walk),
    Visits supply name around w (optionElements (identifyOption supply name around t w).1)
      (identifyOption supply name around t w).2
  | none, around, w => .done around w
  | some t, around, w => t.identify_visits around w

end

variable {supply name}

theorem Walk.enter_uids (w : Walk) (around : Option Nat) (given : List (Attribute Tree)) (e : Markup) :
    (w.enter supply name around given e).arena.uids =
      w.arena.uids ++ [(chooseIdentifier supply name given w).1] := by
  obtain ⟨-, -, arena, -⟩ := chooseIdentifier_spec supply name given w
  simp only [Walk.enter, Arena.uids_push, arena]

/-- What a walk adds to the arena are the identifiers of the elements it enters, in order;
none is empty, and none is taken when it is added. -/
theorem Visits.uids {around : Option Nat} {w w' : Walk} {es : List Markup}
    (visits : Visits supply name around w es w') :
    ∃ uids, w'.arena.uids = w.arena.uids ++ uids ∧
      es.map (Markup.identifier? name) = uids.map some ∧
      (∀ uid ∈ uids, uid ≠ "") ∧ (w.arena.uids.Nodup → w'.arena.uids.Nodup) := by
  induction visits with
  | done around w => exact ⟨[], by simp, rfl, by simp, id⟩
  | @enter around w w' w'' e es given shown inside rest ihInside ihRest =>
      obtain ⟨nonempty, free, -, -⟩ := chooseIdentifier_spec supply name given w
      obtain ⟨uids, grown, same, allNonempty, nodup⟩ := ihInside
      obtain ⟨uids', grown', same', allNonempty', nodup'⟩ := ihRest
      rw [Walk.enter_uids] at grown nodup
      refine ⟨(chooseIdentifier supply name given w).1 :: (uids ++ uids'), ?_,
        by simp [shown, same, same'], ?_, fun distinct => nodup' (nodup ?_)⟩
      · rw [grown', grown]
        simp
      · exact List.forall_mem_cons.mpr
          ⟨nonempty, List.forall_mem_append.mpr ⟨allNonempty, allNonempty'⟩⟩
      · rw [List.nodup_append]
        refine ⟨distinct, by simp, fun a ha b hb => ?_⟩
        rw [List.mem_singleton.mp hb]
        exact fun equal => free (equal ▸ ha)

/-- The identifiers behind a walk that starts with nothing. -/
theorem Visits.identifiers {around : Option Nat} {next : Nat} {w' : Walk} {es : List Markup}
    (visits : Visits supply name around ⟨.empty, [], next⟩ es w') :
    es.map (Markup.identifier? name) = w'.arena.uids.map some ∧
      (es.map (Markup.identifier? name)).Nodup ∧ ∀ uid ∈ w'.arena.uids, uid ≠ "" := by
  obtain ⟨uids, grown, same, nonempty, nodup⟩ := visits.uids
  have all : w'.arena.uids = uids := grown
  have distinct : w'.arena.uids.Nodup := nodup List.nodup_nil
  rw [same, all]
  refine ⟨rfl, ?_, nonempty⟩
  exact List.Pairwise.map some (fun a b different equal => different (Option.some.inj equal)) (all ▸ distinct)

end Visits

/-- **Identification is complete and injective.**  Whatever a module held under the name,
in the module that comes out every element has an identifier that is not empty, no two
elements have the same one, and in the order in which the tags open they are the
identifiers of the arena. -/
theorem Module.identifier_of_identify (supply : Supply) (name : String) (next : Nat) (m : Module) :
    (∀ e ∈ (m.identify supply name next).content.elements,
      ∃ uid, e.identifier? name = some uid ∧ uid ≠ "") ∧
    ((m.identify supply name next).content.elements.map (Markup.identifier? name)).Nodup ∧
    (m.identify supply name next).content.elements.map (Markup.identifier? name) =
      (m.identify supply name next).arena.uids.map some := by
  obtain ⟨shown, distinct, nonempty⟩ := (identifyOf_visits supply name m.items none ⟨.empty, [], next⟩).identifiers
  refine ⟨fun e member => ?_, distinct, shown⟩
  have listed := List.mem_map_of_mem (f := Markup.identifier? name) member
  rw [Module.elements, Module.identify, shown] at listed
  obtain ⟨uid, held, found⟩ := List.mem_map.mp listed
  exact ⟨uid, found.symm, nonempty uid held⟩

end LiveMarkup.Syntax
