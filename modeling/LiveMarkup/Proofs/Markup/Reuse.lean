import LiveMarkup.Proofs.Markup.Reidentification
/-
# LiveMarkup.Proofs.Markup.Reuse -- identifiers are reused wherever they can be

An element keeps its identifier unless that is no use (`Unusable`): the first attribute of the
name is missing, holds no string or an empty one, or an element ahead of it in the tree that
comes out has that identifier already.  Which elements are ahead, and with which
identifiers, hangs on what became of them, so the statement about an element is relative
to those ahead of it (`Fate`).

What becomes of an element can be asked because it stays where it is.  `Tree.facing` lists
the elements that stand in the same places of two trees, and behind a walk every element
of the new tree stands where an element of the old tree stood.  `Meets` is a walk along
such a list, one element a step (`Tree.identify_meets` is the one induction over trees).
A step keeps an identifier or draws a new one (`fate_of_choice`), and what a whole walk
does is an induction over the list (`Meets.fate`, `Meets.drawn`).
-/

namespace LiveMarkup.Markup

open LiveMarkup.Syntax

set_option autoImplicit false

/-- An element with nothing to it. -/
def blank : Markup := ⟨.plain "", [], none, true, [], none, none⟩

/-- The identifier of an element that comes behind some identifiers is no use. -/
inductive Unusable (name : String) (ahead : List (Option String)) (e : Markup) : Prop where
  /-- There is no attribute of the name. -/
  | missing (none : e.attributes.find? (isNamed name) = none)
  /-- The first one holds no string. -/
  | noString {a : Attribute Tree} (first : e.attributes.find? (isNamed name) = some a)
      (other : stringOf? name a = none)
  /-- It holds the empty string. -/
  | empty {a : Attribute Tree} (first : e.attributes.find? (isNamed name) = some a)
      (blank : stringOf? name a = some "")
  /-- It repeats an identifier. -/
  | taken {a : Attribute Tree} {uid : String} (first : e.attributes.find? (isNamed name) = some a)
      (same : stringOf? name a = some uid) (again : some uid ∈ ahead)

end LiveMarkup.Markup

namespace LiveMarkup

set_option autoImplicit false

/-- A supply yields a text from some draw on. -/
def Supply.Yields (s : Supply) (next : Nat) (text : String) : Prop := ∃ n, next ≤ n ∧ s.draw n = text

/-- What is drawn was yielded, and the draws go on behind it. -/
theorem Supply.search_yields (s : Supply) (used : List String) (more n : Nat) :
    s.Yields n (s.search used more n).1 ∧ n ≤ (s.search used more n).2 := by
  induction more generalizing n with
  | zero => exact ⟨⟨n, Nat.le_refl n, rfl⟩, Nat.le_succ n⟩
  | succ more ih =>
      unfold search
      split
      · obtain ⟨⟨k, later, drawn⟩, on⟩ := ih (n + 1)
        exact ⟨⟨k, by omega, drawn⟩, by omega⟩
      · exact ⟨⟨n, Nat.le_refl n, rfl⟩, Nat.le_succ n⟩

theorem Supply.fresh_yields (s : Supply) (used : List String) (n : Nat) :
    s.Yields n (s.fresh used n).1 ∧ n ≤ (s.fresh used n).2 := s.search_yields used _ n

theorem Supply.Yields.earlier {s : Supply} {n next : Nat} {text : String} (yields : s.Yields n text)
    (upTo : next ≤ n) : s.Yields next text := by
  obtain ⟨k, later, drawn⟩ := yields
  exact ⟨k, Nat.le_trans upTo later, drawn⟩

end LiveMarkup

namespace LiveMarkup.Syntax

set_option autoImplicit false

open LiveMarkup.Markup (Unusable)

/-! ## The same places of two trees -/

mutual

/-- The elements in the same places of two trees, in the order in which their tags open. -/
def Tree.facing : Tree → Tree → List (Markup × Markup)
  | .node _ parts, .node _ parts' => facingOf parts parts'
  | .element ⟨tagName, attributes, typeArguments, selfClosing, children, closing, lines⟩, .element e' =>
      (⟨tagName, attributes, typeArguments, selfClosing, children, closing, lines⟩, e') ::
        (facingAttributes attributes e'.attributes ++ facingOption typeArguments e'.typeArguments ++
          facingOf children e'.children)
  | _, _ => []
  termination_by structural t => t

def facingOf : List Tree → List Tree → List (Markup × Markup)
  | t :: ts, t' :: ts' => t.facing t' ++ facingOf ts ts'
  | _, _ => []
  termination_by structural ts => ts

def facingAttributes : List (Attribute Tree) → List (Attribute Tree) → List (Markup × Markup)
  | a :: as, a' :: as' => facingIn a a' ++ facingAttributes as as'
  | _, _ => []
  termination_by structural as => as

def facingIn : Attribute Tree → Attribute Tree → List (Markup × Markup)
  | .named _ value, .named _ value' => facingOption value value'
  | .spread value, .spread value' => value.facing value'
  | _, _ => []
  termination_by structural a => a

def facingOption : Option Tree → Option Tree → List (Markup × Markup)
  | some t, some t' => t.facing t'
  | _, _ => []
  termination_by structural t => t

end

/-- The elements in the same places of two modules. -/
def Module.facing (m m' : Module) : List (Markup × Markup) := facingOf m.items m'.items

mutual

/-- What faces something is an element of the tree. -/
theorem Tree.facing_sublist : ∀ t t' : Tree, ((t.facing t').map Prod.fst).Sublist t.elements
  | .node kind parts, .node kind' parts' => facingOf_sublist parts parts'
  | .element ⟨tagName, attributes, typeArguments, selfClosing, children, closing, lines⟩, .element e' => by
      simp only [Tree.facing, Tree.elements, List.map_cons, List.map_append]
      exact (((facingAttributes_sublist attributes e'.attributes).append
        (facingOption_sublist typeArguments e'.typeArguments)).append
        (facingOf_sublist children e'.children)).cons_cons _
  | .node _ _, .element _ => List.nil_sublist _
  | .element ⟨_, _, _, _, _, _, _⟩, .node _ _ => List.nil_sublist _

theorem facingOf_sublist : ∀ ts ts' : List Tree,
    ((facingOf ts ts').map Prod.fst).Sublist (elementsOf ts)
  | [], _ => List.nil_sublist _
  | _ :: _, [] => List.nil_sublist _
  | t :: ts, t' :: ts' => by
      simp only [facingOf, elementsOf, List.map_append]
      exact (t.facing_sublist t').append (facingOf_sublist ts ts')

theorem facingAttributes_sublist : ∀ as as' : List (Attribute Tree),
    ((facingAttributes as as').map Prod.fst).Sublist (attributeElements as)
  | [], _ => List.nil_sublist _
  | _ :: _, [] => List.nil_sublist _
  | a :: as, a' :: as' => by
      simp only [facingAttributes, attributeElements, List.map_append]
      exact (facingIn_sublist a a').append (facingAttributes_sublist as as')

theorem facingIn_sublist : ∀ a a' : Attribute Tree,
    ((facingIn a a').map Prod.fst).Sublist (attributeElementsOf a)
  | .named _ value, .named _ value' => facingOption_sublist value value'
  | .spread value, .spread value' => value.facing_sublist value'
  | .named _ _, .spread _ => List.nil_sublist _
  | .spread _, .named _ _ => List.nil_sublist _

theorem facingOption_sublist : ∀ t t' : Option Tree,
    ((facingOption t t').map Prod.fst).Sublist (optionElements t)
  | none, _ => List.nil_sublist _
  | some _, none => List.nil_sublist _
  | some t, some t' => t.facing_sublist t'

end

/-! ## What is outside of elements -/

mutual

/-- A tree with nothing in its elements. -/
def Tree.hollow : Tree → Tree
  | .node kind parts => .node kind (hollowOf parts)
  | .element _ => .element Markup.blank
  termination_by structural t => t

def hollowOf : List Tree → List Tree
  | [] => []
  | t :: ts => t.hollow :: hollowOf ts
  termination_by structural ts => ts

end

/-- An attribute with nothing in the elements of its value. -/
def Attribute.hollow : Attribute Tree → Attribute Tree
  | .named name value => .named name (value.map Tree.hollow)
  | .spread value => .spread value.hollow

section Hollow

variable (supply : Supply) (name : String)

mutual

/-- A walk changes nothing outside of elements. -/
theorem Tree.hollow_identify : ∀ (t : Tree) (around : Option Nat) (w : Walk),
    (t.identify supply name around w).1.hollow = t.hollow
  | .node kind parts, around, w => by
      simp only [Tree.identify, Tree.hollow, hollowOf_identifyOf parts]
  | .element ⟨_, _, _, _, _, _, _⟩, _, _ => rfl

theorem hollowOf_identifyOf : ∀ (ts : List Tree) (around : Option Nat) (w : Walk),
    hollowOf (identifyOf supply name around ts w).1 = hollowOf ts
  | [], _, _ => rfl
  | t :: ts, around, w => by
      simp only [identifyOf, hollowOf, t.hollow_identify, hollowOf_identifyOf ts]

end

theorem hollow_identifyIn (a : Attribute Tree) (around : Option Nat) (w : Walk) :
    (identifyIn supply name around a w).1.hollow = a.hollow := by
  cases a with
  | named n value =>
      cases value with
      | none => rfl
      | some t => simp only [identifyIn, identifyOption, Attribute.hollow, Option.map_some, t.hollow_identify]
  | spread value => simp only [identifyIn, Attribute.hollow, value.hollow_identify]

/-- Attributes that take in no new identifier stay as they are outside of elements. -/
theorem hollow_identifyAttributes (as : List (Attribute Tree)) (around : Option Nat) (w : Walk) :
    (identifyAttributes supply name around none as w).1.map Attribute.hollow =
      as.map Attribute.hollow := by
  induction as generalizing w with
  | nil => rfl
  | cons a as ih => simp only [identifyAttributes, List.map_cons, hollow_identifyIn, ih]

end Hollow

/-! ## The elements that a walk meets -/

section Meets

variable (supply : Supply) (name : String)

/-- A walk that meets one element after the other, each as it was and as the walk leaves it. -/
inductive Meets : Walk → List (Markup × Markup) → Walk → Prop where
  | done (w : Walk) : Meets w [] w
  | enter {w w' : Walk} {e e' : Markup} {ps : List (Markup × Markup)} (around : Option Nat)
      (shown : e'.identifier? name = some (chooseIdentifier supply name e.attributes w).1)
      (untouched : (chooseIdentifier supply name e.attributes w).2.1 = none →
        e'.attributes.map Attribute.hollow = e.attributes.map Attribute.hollow)
      (rest : Meets (w.enter supply name around e.attributes e) ps w') : Meets w ((e, e') :: ps) w'

variable {supply name}

theorem Meets.append {w w' w'' : Walk} {ps qs : List (Markup × Markup)} (first : Meets supply name w ps w')
    (second : Meets supply name w' qs w'') : Meets supply name w (ps ++ qs) w'' := by
  induction first with
  | done w => exact second
  | enter around shown untouched rest ih => exact .enter around shown untouched (ih second)

variable (supply name)

/-- Nothing faces the elements of a value that is replaced. -/
theorem facingIn_identifierAttribute (a : Attribute Tree) (uid : String) :
    facingIn a (Markup.identifierAttribute name uid) = [] := by
  match a with
  | .named _ none => rfl
  | .named _ (some (.node _ [])) => rfl
  | .named _ (some (.node _ (_ :: _))) => rfl
  | .named _ (some (.element ⟨_, _, _, _, _, _, _⟩)) => rfl
  | .spread _ => rfl

/-- What a walk leaves behind: it has met the elements in the places of those that are there now. -/
abbrev Leaves (w w' : Walk) (faced : List (Markup × Markup)) (es : List Markup) : Prop :=
  Meets supply name w faced w' ∧ faced.map Prod.snd = es

variable {supply name}

theorem Leaves.append {w w' w'' : Walk} {ps qs : List (Markup × Markup)} {es fs : List Markup}
    (first : Leaves supply name w w' ps es) (second : Leaves supply name w' w'' qs fs) :
    Leaves supply name w w'' (ps ++ qs) (es ++ fs) :=
  ⟨first.1.append second.1, by rw [List.map_append, first.2, second.2]⟩

variable (supply name)

mutual

/-- The walk through a tree meets the elements in the places of those that come out of it. -/
theorem Tree.identify_meets : ∀ (t : Tree) (around : Option Nat) (w : Walk),
    Leaves supply name w (t.identify supply name around w).2
      (t.facing (t.identify supply name around w).1) (t.identify supply name around w).1.elements
  | .node kind parts, around, w => by
      simpa only [Tree.identify, Tree.facing, Tree.elements] using identifyOf_meets parts around w
  | .element ⟨tagName, attributes, typeArguments, selfClosing, children, closing, lines⟩, around, w => by
      obtain ⟨-, -, -, shown⟩ := chooseIdentifier_spec supply name attributes w
      let here := some (chooseIdentifier supply name attributes w).2.2.arena.size
      have inside := ((identifyAttributes_meets attributes here (chooseIdentifier supply name attributes w).2.1
        (w.enter supply name around attributes
          ⟨tagName, attributes, typeArguments, selfClosing, children, closing, lines⟩)).append
        (identifyOption_meets typeArguments here _)).append (identifyOf_meets children here _)
      refine ⟨.enter around (shown _ _) (fun kept => ?_) inside.1, congrArg (_ :: ·) inside.2⟩
      simp only [kept]
      exact hollow_identifyAttributes supply name attributes _ _

theorem identifyOf_meets : ∀ (ts : List Tree) (around : Option Nat) (w : Walk),
    Leaves supply name w (identifyOf supply name around ts w).2
      (facingOf ts (identifyOf supply name around ts w).1) (elementsOf (identifyOf supply name around ts w).1)
  | [], _, w => ⟨.done w, rfl⟩
  | t :: ts, around, w => (t.identify_meets around w).append (identifyOf_meets ts around _)

theorem identifyAttributes_meets : ∀ (as : List (Attribute Tree)) (around : Option Nat) (new : Option String)
    (w : Walk), Leaves supply name w (identifyAttributes supply name around new as w).2
      (facingAttributes as (identifyAttributes supply name around new as w).1)
      (attributeElements (identifyAttributes supply name around new as w).1)
  | [], _, none, w => ⟨.done w, rfl⟩
  | [], _, some _, w => ⟨.done w, rfl⟩
  | a :: as, around, none, w => (identifyIn_meets a around w).append (identifyAttributes_meets as around none _)
  | a :: as, around, some uid, w => by
      simp only [identifyAttributes]
      split
      · rw [facingAttributes, facingIn_identifierAttribute]
        exact identifyAttributes_meets as around none w
      · exact (identifyIn_meets a around w).append (identifyAttributes_meets as around (some uid) _)

theorem identifyIn_meets : ∀ (a : Attribute Tree) (around : Option Nat) (w : Walk),
    Leaves supply name w (identifyIn supply name around a w).2
      (facingIn a (identifyIn supply name around a w).1)
      (attributeElementsOf (identifyIn supply name around a w).1)
  | .named _ value, around, w => identifyOption_meets value around w
  | .spread value, around, w => value.identify_meets around w

theorem identifyOption_meets : ∀ (t : Option Tree) (around : Option Nat) (w : Walk),
    Leaves supply name w (identifyOption supply name around t w).2
      (facingOption t (identifyOption supply name around t w).1)
      (optionElements (identifyOption supply name around t w).1)
  | none, _, w => ⟨.done w, rfl⟩
  | some t, around, w => t.identify_meets around w

end

end Meets

/-! ## What becomes of an element -/

/-- What becomes of an element behind some identifiers: it has a new identifier if its own is no use,
and otherwise it keeps its own, and its attributes are as they were outside of elements. -/
inductive Fate (supply : Supply) (name : String) (next : Nat) (ahead : List (Option String)) (e e' : Markup) :
    Prop where
  | drawn {uid : String} (unusable : Unusable name ahead e) (yields : supply.Yields next uid)
      (shown : e'.identifier? name = some uid)
  | kept {uid : String} (usable : ¬ Unusable name ahead e) (own : e.identifier? name = some uid)
      (shown : e'.identifier? name = some uid)
      (untouched : e'.attributes.map Attribute.hollow = e.attributes.map Attribute.hollow)

variable {supply : Supply} {name : String}

/-- An identifier is no use when the walk does not keep it. -/
theorem unusable_iff {taken : List String} {e : Markup} :
    Unusable name (taken.map some) e ↔ keptIdentifier? name taken e.attributes = none := by
  have mem_some {uid : String} : some uid ∈ taken.map some ↔ uid ∈ taken := by simp
  rw [keptIdentifier?_eq, readings, List.head?_map, List.head?_filter]
  constructor
  · intro unusable
    cases unusable with
    | missing none => rw [none]; rfl
    | noString first other => rw [first]; simp [other]
    | empty first blank => rw [first]; simp [blank]
    | taken first same again => rw [first]; simp [same, mem_some.mp again]
  · intro refused
    cases first : e.attributes.find? (Markup.isNamed name) with
    | none => exact .missing first
    | some a =>
        cases same : Markup.stringOf? name a with
        | none => exact .noString first same
        | some uid =>
            have either : uid = "" ∨ uid ∈ taken := by
              simpa [first, same, Decidable.or_iff_not_imp_left] using refused
            rcases either with rfl | again
            · exact .empty first same
            · exact .taken first same (mem_some.mpr again)

/-- A choice keeps an identifier and leaves the walk where it is, or it draws a new one. -/
theorem chooseIdentifier_cases (supply : Supply) (name : String) (given : List (Attribute Tree)) (w : Walk) :
    (∃ uid, keptIdentifier? name w.arena.uids given = some uid ∧
      chooseIdentifier supply name given w = (uid, none, w)) ∨
    ∃ uid n, keptIdentifier? name w.arena.uids given = none ∧ supply.Yields w.next uid ∧ w.next ≤ n ∧
      chooseIdentifier supply name given w =
        (uid, some uid, { w with assigned := w.assigned ++ [uid], next := n }) := by
  unfold chooseIdentifier
  cases kept : keptIdentifier? name w.arena.uids given with
  | some uid => exact .inl ⟨uid, rfl, rfl⟩
  | none =>
      obtain ⟨yields, on⟩ := supply.fresh_yields w.arena.uids w.next
      exact .inr ⟨_, _, rfl, yields, on, rfl⟩

theorem fate_of_choice {w : Walk} {e e' : Markup}
    (shown : e'.identifier? name = some (chooseIdentifier supply name e.attributes w).1)
    (untouched : (chooseIdentifier supply name e.attributes w).2.1 = none →
      e'.attributes.map Attribute.hollow = e.attributes.map Attribute.hollow) :
    Fate supply name w.next (w.arena.uids.map some) e e' := by
  rcases chooseIdentifier_cases supply name e.attributes w with ⟨uid, kept, chosen⟩ |
    ⟨uid, n, refused, yields, -, chosen⟩
  · rw [chosen] at shown untouched
    refine .kept (fun unusable => ?_) (keptIdentifier?_eq_some name kept).1 shown (untouched rfl)
    rw [unusable_iff.mp unusable] at kept
    cases kept
  · rw [chosen] at shown
    exact .drawn (unusable_iff.mpr refused) yields shown

theorem Fate.earlier {next n : Nat} {ahead : List (Option String)} {e e' : Markup}
    (fate : Fate supply name n ahead e e') (upTo : next ≤ n) : Fate supply name next ahead e e' := by
  cases fate with
  | drawn unusable yields shown => exact .drawn unusable (yields.earlier upTo) shown
  | kept usable own shown untouched => exact .kept usable own shown untouched

/-- The draws go on behind those that were made. -/
theorem Walk.next_le_enter (w : Walk) (around : Option Nat) (given : List (Attribute Tree)) (e : Markup) :
    w.next ≤ (w.enter supply name around given e).next := by
  rcases chooseIdentifier_cases supply name given w with ⟨uid, -, chosen⟩ | ⟨uid, n, -, -, on, chosen⟩
  · simp only [Walk.enter, chosen]
    exact Nat.le_refl _
  · simpa only [Walk.enter, chosen] using on

/-- The identifiers of the elements in some places, as they are now. -/
def identifiers (name : String) (ps : List (Markup × Markup)) : List (Option String) :=
  ps.map fun p => p.2.identifier? name

/-- The identifiers that a walk has met when it has met one element more. -/
theorem Walk.enter_ahead {w : Walk} {e e' : Markup} (around : Option Nat) (before : List (Markup × Markup))
    (shown : e'.identifier? name = some (chooseIdentifier supply name e.attributes w).1) :
    (w.enter supply name around e.attributes e).arena.uids.map some ++ identifiers name before =
      w.arena.uids.map some ++ identifiers name ((e, e') :: before) := by
  simp [Walk.enter_uids, identifiers, shown]

/-- What becomes of each element that a walk meets, behind the elements that it met before. -/
theorem Meets.fate {w w' : Walk} {ps before after : List (Markup × Markup)} {e e' : Markup}
    (meets : Meets supply name w ps w') (split : ps = before ++ (e, e') :: after) :
    Fate supply name w.next (w.arena.uids.map some ++ identifiers name before) e e' := by
  induction meets generalizing before with
  | done w => cases before <;> cases split
  | @enter w w' d d' ps around shown untouched rest ih =>
      cases before with
      | nil =>
          cases split
          rw [identifiers, List.map_nil, List.append_nil]
          exact fate_of_choice shown untouched
      | cons p before =>
          obtain ⟨rfl, later⟩ := List.cons.inj split
          rw [← Walk.enter_ahead around before shown]
          exact (ih later).earlier (w.next_le_enter around _ _)

/-- What a walk draws are identifiers of the elements that it meets, in their order, and among them
those of all elements whose own identifiers were no use. -/
structure Drawn (supply : Supply) (name : String) (w : Walk) (ps : List (Markup × Markup))
    (drawn : List String) : Prop where
  ordered : (drawn.map some).Sublist (identifiers name ps)
  yielded : ∀ uid ∈ drawn, supply.Yields w.next uid
  complete : ∀ {before after e e'}, ps = before ++ (e, e') :: after →
    Unusable name (w.arena.uids.map some ++ identifiers name before) e →
      ∃ uid ∈ drawn, e'.identifier? name = some uid

theorem Drawn.enter {w : Walk} {e e' : Markup} {ps : List (Markup × Markup)} {drawn : List String}
    (around : Option Nat) (shown : e'.identifier? name = some (chooseIdentifier supply name e.attributes w).1)
    (later : Drawn supply name (w.enter supply name around e.attributes e) ps drawn) :
    Drawn supply name w ((e, e') :: ps) ((chooseIdentifier supply name e.attributes w).2.1.toList ++ drawn) := by
  have onward : ∀ uid ∈ drawn, supply.Yields w.next uid :=
    fun uid member => (later.yielded uid member).earlier (w.next_le_enter around _ _)
  have behind {before after : List (Markup × Markup)} {x x' : Markup} (split : ps = before ++ (x, x') :: after)
      (unusable : Unusable name (w.arena.uids.map some ++ identifiers name ((e, e') :: before)) x) :
      ∃ uid ∈ drawn, x'.identifier? name = some uid := by
    rw [← Walk.enter_ahead around before shown] at unusable
    exact later.complete split unusable
  have here (unusable : Unusable name (w.arena.uids.map some ++ identifiers name []) e) :
      keptIdentifier? name w.arena.uids e.attributes = none := by
    rw [identifiers, List.map_nil, List.append_nil] at unusable
    exact unusable_iff.mp unusable
  rcases chooseIdentifier_cases supply name e.attributes w with ⟨uid, kept, chosen⟩ |
    ⟨uid, n, -, yields, -, chosen⟩
  · rw [chosen]
    refine ⟨later.ordered.cons _, onward, fun {before after x x'} split unusable => ?_⟩
    cases before with
    | nil =>
        cases split
        rw [here unusable] at kept
        cases kept
    | cons p before =>
        obtain ⟨rfl, beyond⟩ := List.cons.inj split
        exact behind beyond unusable
  · rw [chosen] at shown ⊢
    refine ⟨?_, List.forall_mem_cons.mpr ⟨yields, onward⟩, fun {before after x x'} split unusable => ?_⟩
    · simp only [Option.toList_some, List.singleton_append, List.map_cons, identifiers, shown]
      exact later.ordered.cons_cons _
    cases before with
    | nil =>
        cases split
        exact ⟨uid, List.mem_cons_self, shown⟩
    | cons p before =>
        obtain ⟨rfl, beyond⟩ := List.cons.inj split
        obtain ⟨uid', member, own⟩ := behind beyond unusable
        exact ⟨uid', List.mem_cons_of_mem _ member, own⟩

theorem Meets.drawn {w w' : Walk} {ps : List (Markup × Markup)} (meets : Meets supply name w ps w') :
    ∃ drawn, w'.assigned = w.assigned ++ drawn ∧ Drawn supply name w ps drawn := by
  induction meets with
  | done w =>
      refine ⟨[], (List.append_nil _).symm, List.Sublist.refl _, nofun, fun split => ?_⟩
      exact absurd split.symm (by simp)
  | @enter w w' e e' ps around shown untouched rest ih =>
      obtain ⟨drawn, grown, later⟩ := ih
      refine ⟨_, ?_, later.enter around shown⟩
      rcases chooseIdentifier_cases supply name e.attributes w with ⟨uid, -, chosen⟩ |
        ⟨uid, n, -, -, -, chosen⟩
      · simpa [Walk.enter, chosen] using grown
      · simpa [Walk.enter, chosen] using grown

/-- The element has an identifier that the supply yields from some draw on. -/
def Generated (supply : Supply) (name : String) (next : Nat) (e : Markup) : Prop :=
  ∃ uid, e.identifier? name = some uid ∧ supply.Yields next uid

/-- The identifier tells the fate of an element whose own identifier was not of the supply. -/
theorem Fate.generated_iff {next : Nat} {ahead : List (Option String)} {e e' : Markup}
    (fate : Fate supply name next ahead e e') (unused : ¬ Generated supply name next e) :
    Generated supply name next e' ↔ Unusable name ahead e := by
  cases fate with
  | drawn unusable yields shown => exact ⟨fun _ => unusable, fun _ => ⟨_, shown, yields⟩⟩
  | kept usable own shown untouched =>
      refine ⟨fun ⟨uid, held, yields⟩ => absurd ⟨uid, ?_, yields⟩ unused, fun unusable => absurd unusable usable⟩
      rw [own, ← shown, held]

/-- Among elements whose own identifiers were not of the supply, what is drawn are all the
identifiers that are. -/
theorem Meets.mem_drawn_iff {w w' : Walk} {ps : List (Markup × Markup)} {drawn : List String}
    (meets : Meets supply name w ps w') (collected : Drawn supply name w ps drawn)
    (unused : ∀ p ∈ ps, ¬ Generated supply name w.next p.1) (uid : String) :
    uid ∈ drawn ↔ supply.Yields w.next uid ∧ ∃ e ∈ ps.map Prod.snd, e.identifier? name = some uid := by
  constructor
  · intro member
    obtain ⟨p, there, same⟩ := List.mem_map.mp (collected.ordered.subset (List.mem_map_of_mem member))
    exact ⟨collected.yielded uid member, p.2, List.mem_map_of_mem there, same⟩
  · rintro ⟨yields, e', listed, same⟩
    obtain ⟨⟨e, e'⟩, there, rfl⟩ := List.mem_map.mp listed
    obtain ⟨before, after, split⟩ := List.append_of_mem there
    have unusable := ((meets.fate split).generated_iff (unused _ there)).mp ⟨uid, same, yields⟩
    obtain ⟨uid', member, same'⟩ := collected.complete split unusable
    obtain rfl : uid' = uid := Option.some.inj (same'.symm.trans same)
    exact member

/-- **Identifiers are reused wherever they can be.**  When no element of a module has an identifier that
the supply will yield, every element of the identified module stands where an element of the module
stood.  It has a new identifier exactly when the old one was no use behind the elements ahead of it,
and otherwise it has its own identifier and its own attributes, but for the elements inside their values.
What was assigned are the new identifiers, in the order of the elements, each once. -/
theorem Module.identify_reuses (supply : Supply) (name : String) (next : Nat) (m : Module)
    (unused : ∀ e ∈ m.elements, ¬ Generated supply name next e) :
    let out := m.identify supply name next
    (m.facing out.content).map Prod.snd = out.content.elements ∧
    ((m.facing out.content).map Prod.fst).Sublist m.elements ∧
    (∀ before e e' after, m.facing out.content = before ++ (e, e') :: after →
      (Generated supply name next e' ↔ Unusable name (before.map fun p => p.2.identifier? name) e) ∧
      (¬ Generated supply name next e' → e'.identifier? name = e.identifier? name ∧
        e'.attributes.map Attribute.hollow = e.attributes.map Attribute.hollow)) ∧
    out.assigned.Nodup ∧
    (out.assigned.map some).Sublist (out.content.elements.map (Markup.identifier? name)) ∧
    ∀ uid, uid ∈ out.assigned ↔
      supply.Yields next uid ∧ ∃ e ∈ out.content.elements, e.identifier? name = some uid := by
  intro out
  obtain ⟨meets, placed⟩ : Leaves supply name ⟨.empty, [], next⟩ _ (m.facing out.content) out.content.elements :=
    identifyOf_meets supply name m.items none ⟨.empty, [], next⟩
  obtain ⟨drawn, grown, collected⟩ := meets.drawn
  obtain rfl : out.assigned = drawn := grown
  have within : ((m.facing out.content).map Prod.fst).Sublist m.elements :=
    facingOf_sublist m.items out.content.items
  have own : ∀ p ∈ m.facing out.content, ¬ Generated supply name next p.1 :=
    fun p there => unused p.1 (within.subset (List.mem_map_of_mem there))
  have ordered : (out.assigned.map some).Sublist (out.content.elements.map (Markup.identifier? name)) := by
    rw [← placed, List.map_map]
    exact collected.ordered
  refine ⟨placed, within, fun before e e' after split => ?_, ?_, ordered, fun uid => ?_⟩
  · have fate : Fate supply name next (identifiers name before) e e' := meets.fate split
    have generated := fate.generated_iff (own (e, e') (by simp [split]))
    refine ⟨generated, fun reused => ?_⟩
    cases fate with
    | drawn unusable yields shown => exact absurd (generated.mpr unusable) reused
    | kept usable same shown untouched => exact ⟨shown.trans same.symm, untouched⟩
  · have distinct := (m.identifier_of_identify supply name next).2.1
    exact (List.pairwise_map.mp (ordered.nodup distinct)).imp fun apart same => apart (congrArg some same)
  · rw [← placed]
    exact meets.mem_drawn_iff collected own uid

/-! ## Poles -/

/-- Texts of one character, more and more of it. -/
def tallies : Supply where
  draw n := String.ofList (List.replicate (n + 1) '#')
  draw_ne_empty n empty := by cases String.ofList_injective (empty.trans String.ofList_nil.symm)
  tries used _ := used.length + 1
  exists_unused used n :=
    Supply.exists_not_mem (fun n => String.ofList (List.replicate (n + 1) '#')) (fun m n same => by
      have lengths := congrArg List.length (String.ofList_injective same)
      simpa using lengths) used n

/-- An item of a list with some value under the identifier's name. -/
def bullet (value : Option Tree) : Tree :=
  .element ⟨.plain "li", [.named (.plain "id") value], none, true, [], none, none⟩

/-- An identifier in an attribute that comes behind an element, then one that repeats it, an empty one,
one that is no string, and one in a container. -/
def crowded : Module :=
  ⟨none, [.element ⟨.plain "ul", [.named (.plain "icon") (some (bullet none)), Markup.identifierAttribute "id" "k"],
    none, false, [bullet (some (.leaf (.string "k" none))), bullet (some (.leaf (.string "" none))),
      bullet (some (.node .container [.leaf (.identifier "x")])),
      bullet (some (.node .container [.leaf (.string "m" none)]))], some (.plain "ul"), none⟩], none⟩

theorem identify_reuses_crowded : (∀ e ∈ crowded.elements, ¬ Generated tallies "id" 0 e) ∧
    (crowded.identify tallies "id" 0).assigned = ["#", "##", "###", "####"] ∧
    (crowded.identify tallies "id" 0).assigned.Nodup ∧
    (∀ uid ∈ ["#", "##", "###", "####"],
      ∃ e ∈ (crowded.identify tallies "id" 0).content.elements, e.identifier? "id" = some uid) ∧
    (crowded.identify tallies "id" 0).content.elements.map (Markup.identifier? "id") =
      [some "k", some "#", some "##", some "###", some "####", some "m"] := by
  have others : (crowded.elements.all fun e =>
      (e.identifier? "id").all fun uid => uid.toList.head? != some '#') = true := by decide +kernel
  have unused : ∀ e ∈ crowded.elements, ¬ Generated tallies "id" 0 e := by
    rintro e member ⟨uid, held, n, -, rfl⟩
    have other := List.all_eq_true.mp others e member
    rw [held] at other
    simp [tallies, List.replicate_succ] at other
  have drawn : (crowded.identify tallies "id" 0).assigned = ["#", "##", "###", "####"] := by decide +kernel
  obtain ⟨-, -, -, distinct, -, assigned_iff⟩ := Module.identify_reuses tallies "id" 0 crowded unused
  refine ⟨unused, drawn, distinct, fun uid member => ?_, by decide +kernel⟩
  rw [← drawn] at member
  exact ((assigned_iff uid).mp member).2

end LiveMarkup.Syntax
