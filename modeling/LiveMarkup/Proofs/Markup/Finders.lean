import LiveMarkup.Proofs.Markup.Surroundings
/-
# LiveMarkup.Proofs.Markup.Finders -- one element is found, and nothing else is touched

Two traversals look for the first element that passes a test, one to read it and one to change
it.  `Tree.seek` and `Tree.amend` are these traversals as they run: each goes through the whole
tree with the answer it has so far, enters no element once it has one, and hands the element it
finds to a function that may have effects of its own.

Where nothing passes, or the answer is there, both come out as they went in (`Tree.seek_idle`,
`Tree.amend_idle`).  On a tree around the first element that passes, both do just what the
function does on it, and the second puts the new element in the place of the old one
(`Surroundings.seek_fill`, `Surroundings.amend_fill`).  So does `Tree.updateFirst`, which knows
no effects.  `Module.finders_agree` sums up.
-/

namespace LiveMarkup.Syntax

set_option autoImplicit false

section Traversals

variable {μ : Type → Type} [Monad μ] {ρ : Type} (p : Markup → Bool)

section Seek

variable (run : Markup → μ ρ)

mutual

/-- Look for the first element of a tree that passes, and read it. -/
def Tree.seek : Tree → Option ρ → μ (Option ρ)
  | .node _ parts, answer => seekOf parts answer
  | .element ⟨name, attributes, typeArguments, selfClosing, children, closing, lines⟩, answer =>
      if answer.isSome then pure answer
      else if p ⟨name, attributes, typeArguments, selfClosing, children, closing, lines⟩ then
        some <$> run ⟨name, attributes, typeArguments, selfClosing, children, closing, lines⟩
      else do
        let answer ← seekAttributes attributes answer
        let answer ← seekOption typeArguments answer
        seekOf children answer
  termination_by structural t => t

def seekOf : List Tree → Option ρ → μ (Option ρ)
  | [], answer => pure answer
  | t :: ts, answer => do
      let answer ← t.seek answer
      seekOf ts answer
  termination_by structural ts => ts

def seekAttributes : List (Attribute Tree) → Option ρ → μ (Option ρ)
  | [], answer => pure answer
  | a :: as, answer => do
      let answer ← seekIn a answer
      seekAttributes as answer
  termination_by structural as => as

def seekIn : Attribute Tree → Option ρ → μ (Option ρ)
  | .named _ value, answer => seekOption value answer
  | .spread value, answer => value.seek answer
  termination_by structural a => a

def seekOption : Option Tree → Option ρ → μ (Option ρ)
  | none, answer => pure answer
  | some t, answer => t.seek answer
  termination_by structural t => t

end

end Seek

section Amend

variable (run : Markup → μ (ρ × Markup))

mutual

/-- Look for the first element of a tree that passes, and put another one in its place. -/
def Tree.amend : Tree → Option ρ → μ (Tree × Option ρ)
  | .node kind parts, answer => do
      let r ← amendOf parts answer
      return (.node kind r.1, r.2)
  | .element ⟨name, attributes, typeArguments, selfClosing, children, closing, lines⟩, answer =>
      if answer.isSome then
        pure (.element ⟨name, attributes, typeArguments, selfClosing, children, closing, lines⟩, answer)
      else if p ⟨name, attributes, typeArguments, selfClosing, children, closing, lines⟩ then do
        let r ← run ⟨name, attributes, typeArguments, selfClosing, children, closing, lines⟩
        return (.element r.2, some r.1)
      else do
        let as ← amendAttributes attributes answer
        let ts ← amendOption typeArguments as.2
        let cs ← amendOf children ts.2
        return (.element ⟨name, as.1, ts.1, selfClosing, cs.1, closing, lines⟩, cs.2)
  termination_by structural t => t

def amendOf : List Tree → Option ρ → μ (List Tree × Option ρ)
  | [], answer => pure ([], answer)
  | t :: ts, answer => do
      let r ← t.amend answer
      let rs ← amendOf ts r.2
      return (r.1 :: rs.1, rs.2)
  termination_by structural ts => ts

def amendAttributes : List (Attribute Tree) → Option ρ → μ (List (Attribute Tree) × Option ρ)
  | [], answer => pure ([], answer)
  | a :: as, answer => do
      let r ← amendIn a answer
      let rs ← amendAttributes as r.2
      return (r.1 :: rs.1, rs.2)
  termination_by structural as => as

def amendIn : Attribute Tree → Option ρ → μ (Attribute Tree × Option ρ)
  | .named name value, answer => do
      let r ← amendOption value answer
      return (.named name r.1, r.2)
  | .spread value, answer => do
      let r ← value.amend answer
      return (.spread r.1, r.2)
  termination_by structural a => a

def amendOption : Option Tree → Option ρ → μ (Option Tree × Option ρ)
  | none, answer => pure (none, answer)
  | some t, answer => do
      let r ← t.amend answer
      return (some r.1, r.2)
  termination_by structural t => t

end

end Amend

end Traversals

/-! ## Traversals that find nothing -/

/-- A traversal has nothing to find among some elements: its answer is there, or none passes. -/
def Idle {ρ : Type} (p : Markup → Bool) (answer : Option ρ) (es : List Markup) : Prop :=
  answer.isSome = true ∨ ∀ e ∈ es, p e = false

variable {μ : Type → Type} [Monad μ] [LawfulMonad μ] {ρ : Type} {p : Markup → Bool} {answer : Option ρ}

theorem Idle.append {es fs : List Markup} (idle : Idle p answer (es ++ fs)) :
    Idle p answer es ∧ Idle p answer fs := by
  rcases idle with done | none
  · exact ⟨Or.inl done, Or.inl done⟩
  · exact (List.forall_mem_append.mp none).imp Or.inr Or.inr

theorem Idle.cons {e : Markup} {es : List Markup} (idle : Idle p answer (e :: es)) :
    (answer.isSome = true ∨ p e = false) ∧ Idle p answer es := by
  rcases idle with done | none
  · exact ⟨Or.inl done, Or.inl done⟩
  · exact (List.forall_mem_cons.mp none).imp Or.inr Or.inr

-- the instance is used by way of the other theorems of a block
set_option linter.unusedSectionVars false

section Seek

variable (run : Markup → μ ρ)

mutual

/-- A reader that has nothing to find comes out with the answer it came in with. -/
theorem Tree.seek_idle : ∀ t : Tree, Idle p answer t.elements → t.seek p run answer = pure answer
  | .node kind parts, idle => seekOf_idle parts idle
  | .element ⟨name, attributes, typeArguments, selfClosing, children, closing, lines⟩, idle => by
      rw [Tree.elements] at idle
      obtain ⟨here, inside⟩ := idle.cons
      obtain ⟨front, back⟩ := inside.append
      rw [Tree.seek]
      split
      · rfl
      · rename_i open_
        rw [if_neg (by simpa [open_] using here), seekAttributes_idle attributes front.append.1, pure_bind,
          seekOption_idle typeArguments front.append.2, pure_bind, seekOf_idle children back]

theorem seekOf_idle : ∀ ts : List Tree, Idle p answer (elementsOf ts) → seekOf p run ts answer = pure answer
  | [], _ => rfl
  | t :: ts, idle => by
      rw [seekOf, t.seek_idle idle.append.1, pure_bind, seekOf_idle ts idle.append.2]

theorem seekAttributes_idle : ∀ as : List (Attribute Tree), Idle p answer (attributeElements as) →
    seekAttributes p run as answer = pure answer
  | [], _ => rfl
  | a :: as, idle => by
      rw [seekAttributes, seekIn_idle a idle.append.1, pure_bind, seekAttributes_idle as idle.append.2]

theorem seekIn_idle : ∀ a : Attribute Tree, Idle p answer (attributeElementsOf a) →
    seekIn p run a answer = pure answer
  | .named _ value, idle => seekOption_idle value idle
  | .spread value, idle => value.seek_idle idle

theorem seekOption_idle : ∀ t : Option Tree, Idle p answer (optionElements t) →
    seekOption p run t answer = pure answer
  | none, _ => rfl
  | some t, idle => t.seek_idle idle

end

end Seek

section Amend

variable (run : Markup → μ (ρ × Markup))

mutual

/-- A traversal that has nothing to find leaves the tree as it is. -/
theorem Tree.amend_idle : ∀ t : Tree, Idle p answer t.elements → t.amend p run answer = pure (t, answer)
  | .node kind parts, idle => by rw [Tree.amend, amendOf_idle parts idle, pure_bind]
  | .element ⟨name, attributes, typeArguments, selfClosing, children, closing, lines⟩, idle => by
      rw [Tree.elements] at idle
      obtain ⟨here, inside⟩ := idle.cons
      obtain ⟨front, back⟩ := inside.append
      rw [Tree.amend]
      split
      · rfl
      · rename_i open_
        rw [if_neg (by simpa [open_] using here), amendAttributes_idle attributes front.append.1, pure_bind,
          amendOption_idle typeArguments front.append.2, pure_bind, amendOf_idle children back, pure_bind]

theorem amendOf_idle : ∀ ts : List Tree, Idle p answer (elementsOf ts) →
    amendOf p run ts answer = pure (ts, answer)
  | [], _ => rfl
  | t :: ts, idle => by
      rw [amendOf, t.amend_idle idle.append.1, pure_bind, amendOf_idle ts idle.append.2, pure_bind]

theorem amendAttributes_idle : ∀ as : List (Attribute Tree), Idle p answer (attributeElements as) →
    amendAttributes p run as answer = pure (as, answer)
  | [], _ => rfl
  | a :: as, idle => by
      rw [amendAttributes, amendIn_idle a idle.append.1, pure_bind, amendAttributes_idle as idle.append.2,
        pure_bind]

theorem amendIn_idle : ∀ a : Attribute Tree, Idle p answer (attributeElementsOf a) →
    amendIn p run a answer = pure (a, answer)
  | .named _ value, idle => by rw [amendIn, amendOption_idle value idle, pure_bind]
  | .spread value, idle => by rw [amendIn, value.amend_idle idle, pure_bind]

theorem amendOption_idle : ∀ t : Option Tree, Idle p answer (optionElements t) →
    amendOption p run t answer = pure (t, answer)
  | none, _ => rfl
  | some t, idle => by rw [amendOption, t.amend_idle idle, pure_bind]

end

end Amend

/-! ## Traversals that find an element -/

theorem Idle.done (r : ρ) (es : List Markup) : Idle p (some r) es := Or.inl rfl

section Seek

variable (run : Markup → μ ρ) {x : μ ρ}

theorem answer_bind (x : μ ρ) {k : Option ρ → μ (Option ρ)} (idle : ∀ r, k (some r) = pure (some r)) :
    some <$> x >>= k = some <$> x := by
  rw [bind_map_left, map_eq_pure_bind]
  simp only [idle]

/-- The tree that has the element stands among others, of which those before have none. -/
theorem seekOf_around {t : Tree} (here : t.seek p run none = some <$> x) {before after : List Tree}
    (none : ∀ e ∈ elementsOf before, p e = false) :
    seekOf p run (before ++ t :: after) .none = some <$> x := by
  induction before with
  | nil =>
      rw [List.nil_append, seekOf, here]
      exact answer_bind x fun r => seekOf_idle run after (.done r _)
  | cons u before ih =>
      obtain ⟨first, rest⟩ := List.forall_mem_append.mp none
      rw [List.cons_append, seekOf, u.seek_idle run (Or.inr first), pure_bind, ih rest]

theorem seekAttributes_around {a : Attribute Tree} (here : seekIn p run a none = some <$> x)
    {before after : List (Attribute Tree)} (none : ∀ e ∈ attributeElements before, p e = false) :
    seekAttributes p run (before ++ a :: after) .none = some <$> x := by
  induction before with
  | nil =>
      rw [List.nil_append, seekAttributes, here]
      exact answer_bind x fun r => seekAttributes_idle run after (.done r _)
  | cons b before ih =>
      obtain ⟨first, rest⟩ := List.forall_mem_append.mp none
      rw [List.cons_append, seekAttributes, seekIn_idle run b (Or.inr first), pure_bind, ih rest]

theorem seekIn_holding (slot : Option AttributeName) (t : Tree) (answer : Option ρ) :
    seekIn p run (.holding slot t) answer = t.seek p run answer := by
  cases slot <;> rfl

/-- Behind its tag, a reader goes through the attributes, the type arguments and the children of an
element that does not pass. -/
theorem Tree.seek_inside {e : Markup} (refused : p e = false) :
    (Tree.element e).seek p run none =
      (seekAttributes p run e.attributes none >>= seekOption p run e.typeArguments) >>=
        seekOf p run e.children := by
  obtain ⟨name, attributes, typeArguments, selfClosing, children, closing, lines⟩ := e
  simp only [Tree.seek, refused, Option.isSome_none, Bool.false_eq_true, if_false, bind_assoc]

/-- Reading is what the function does on the element that is found, and nothing else. -/
theorem Surroundings.seek_fill (c : Surroundings) {e : Markup} (passes : p e = true)
    (first : ∀ x ∈ c.ahead e, p x = false) : (c.fill e).seek p run none = some <$> run e := by
  induction c with
  | hole =>
      obtain ⟨name, attributes, typeArguments, selfClosing, children, closing, lines⟩ := e
      simp only [fill, Tree.seek, passes, Option.isSome_none, Bool.false_eq_true, if_false, if_true]
  | part kind before inside after ih =>
      obtain ⟨noneBefore, first⟩ := List.forall_mem_append.mp first
      exact seekOf_around run (ih first) noneBefore
  | value x before slot inside after ih =>
      obtain ⟨refused, first⟩ := List.forall_mem_cons.mp first
      obtain ⟨noneBefore, first⟩ := List.forall_mem_append.mp first
      have here : seekIn p run (.holding slot (inside.fill e)) none = some <$> run e := by
        rw [seekIn_holding, ih first]
      rw [fill, Tree.seek_inside run refused, seekAttributes_around run here noneBefore,
        answer_bind _ fun r => seekOption_idle run _ (.done r _),
        answer_bind _ fun r => seekOf_idle run _ (.done r _)]
  | typeArguments x inside ih =>
      obtain ⟨refused, first⟩ := List.forall_mem_cons.mp first
      obtain ⟨noneAttributes, first⟩ := List.forall_mem_append.mp first
      rw [fill, Tree.seek_inside run refused, seekAttributes_idle run _ (Or.inr noneAttributes), pure_bind,
        seekOption, ih first, answer_bind _ fun r => seekOf_idle run _ (.done r _)]
  | child x before inside after ih =>
      obtain ⟨refused, first⟩ := List.forall_mem_cons.mp first
      obtain ⟨front, first⟩ := List.forall_mem_append.mp first
      obtain ⟨front, noneBefore⟩ := List.forall_mem_append.mp front
      obtain ⟨noneAttributes, noneArguments⟩ := List.forall_mem_append.mp front
      rw [fill, Tree.seek_inside run refused, seekAttributes_idle run _ (Or.inr noneAttributes), pure_bind,
        seekOption_idle run _ (Or.inr noneArguments), pure_bind, seekOf_around run (ih first) noneBefore]

end Seek

section Amend

variable (run : Markup → μ (ρ × Markup)) {x : μ (ρ × Markup)}

/-- What a traversal comes to when it has put another element in the place of one. -/
def replacing {α : Type} (g : Markup → α) (x : μ (ρ × Markup)) : μ (α × Option ρ) :=
  (fun r => (g r.2, some r.1)) <$> x

theorem replacing_bind {α β : Type} {g : Markup → α} {k : α × Option ρ → μ (β × Option ρ)} {h : Markup → β}
    (idle : ∀ y r, k (g y, some r) = pure (h y, some r)) : replacing g x >>= k = replacing h x := by
  rw [replacing, replacing, bind_map_left, map_eq_pure_bind]
  simp only [idle]

theorem amendOf_around {t : Tree} {g : Markup → Tree} (here : t.amend p run none = replacing g x)
    {before after : List Tree} (none : ∀ e ∈ elementsOf before, p e = false) :
    amendOf p run (before ++ t :: after) .none = replacing (fun y => before ++ g y :: after) x := by
  induction before with
  | nil =>
      rw [List.nil_append, amendOf, here]
      refine replacing_bind fun y r => ?_
      rw [amendOf_idle run after (.done r _), pure_bind, List.nil_append]
  | cons u before ih =>
      obtain ⟨first, rest⟩ := List.forall_mem_append.mp none
      rw [List.cons_append, amendOf, u.amend_idle run (Or.inr first), pure_bind, ih rest]
      exact replacing_bind fun y r => rfl

theorem amendAttributes_around {a : Attribute Tree} {g : Markup → Attribute Tree}
    (here : amendIn p run a none = replacing g x) {before after : List (Attribute Tree)}
    (none : ∀ e ∈ attributeElements before, p e = false) :
    amendAttributes p run (before ++ a :: after) .none = replacing (fun y => before ++ g y :: after) x := by
  induction before with
  | nil =>
      rw [List.nil_append, amendAttributes, here]
      refine replacing_bind fun y r => ?_
      rw [amendAttributes_idle run after (.done r _), pure_bind, List.nil_append]
  | cons b before ih =>
      obtain ⟨first, rest⟩ := List.forall_mem_append.mp none
      rw [List.cons_append, amendAttributes, amendIn_idle run b (Or.inr first), pure_bind, ih rest]
      exact replacing_bind fun y r => rfl

theorem amendIn_holding {t : Tree} {g : Markup → Tree} (slot : Option AttributeName)
    (here : t.amend p run none = replacing g x) :
    amendIn p run (.holding slot t) none = replacing (fun y => .holding slot (g y)) x := by
  cases slot with
  | none =>
      rw [Attribute.holding, amendIn, here]
      exact replacing_bind fun y r => rfl
  | some name =>
      rw [Attribute.holding, amendIn, amendOption, here, bind_assoc]
      refine replacing_bind fun y r => ?_
      rw [pure_bind]
      rfl

theorem Tree.amend_inside {e : Markup} (refused : p e = false) :
    (Tree.element e).amend p run none = do
      let as ← amendAttributes p run e.attributes none
      let ts ← amendOption p run e.typeArguments as.2
      let cs ← amendOf p run e.children ts.2
      return (.element { e with attributes := as.1, typeArguments := ts.1, children := cs.1 }, cs.2) := by
  obtain ⟨name, attributes, typeArguments, selfClosing, children, closing, lines⟩ := e
  simp only [Tree.amend, refused, Option.isSome_none, Bool.false_eq_true, if_false]

/-- Changing is what the function does on the element that is found, and its answer in the place of
that element. -/
theorem Surroundings.amend_fill (c : Surroundings) {e : Markup} (passes : p e = true)
    (first : ∀ x ∈ c.ahead e, p x = false) : (c.fill e).amend p run none = replacing c.fill (run e) := by
  induction c with
  | hole =>
      obtain ⟨name, attributes, typeArguments, selfClosing, children, closing, lines⟩ := e
      simp only [fill, Tree.amend, passes, Option.isSome_none, Bool.false_eq_true, if_false, if_true,
        replacing, map_eq_pure_bind]
  | part kind before inside after ih =>
      obtain ⟨noneBefore, first⟩ := List.forall_mem_append.mp first
      rw [fill, Tree.amend, amendOf_around run (ih first) noneBefore]
      exact replacing_bind fun y r => rfl
  | value x before slot inside after ih =>
      obtain ⟨refused, first⟩ := List.forall_mem_cons.mp first
      obtain ⟨noneBefore, first⟩ := List.forall_mem_append.mp first
      rw [fill, Tree.amend_inside run refused,
        amendAttributes_around run (amendIn_holding run slot (ih first)) noneBefore]
      refine replacing_bind fun y r => ?_
      rw [amendOption_idle run _ (.done r _), pure_bind, amendOf_idle run _ (.done r _), pure_bind]
      rfl
  | typeArguments x inside ih =>
      obtain ⟨refused, first⟩ := List.forall_mem_cons.mp first
      obtain ⟨noneAttributes, first⟩ := List.forall_mem_append.mp first
      rw [fill, Tree.amend_inside run refused, amendAttributes_idle run _ (Or.inr noneAttributes), pure_bind,
        amendOption, ih first, bind_assoc]
      refine replacing_bind fun y r => ?_
      rw [pure_bind, amendOf_idle run _ (.done r _), pure_bind]
      rfl
  | child x before inside after ih =>
      obtain ⟨refused, first⟩ := List.forall_mem_cons.mp first
      obtain ⟨front, first⟩ := List.forall_mem_append.mp first
      obtain ⟨front, noneBefore⟩ := List.forall_mem_append.mp front
      obtain ⟨noneAttributes, noneArguments⟩ := List.forall_mem_append.mp front
      rw [fill, Tree.amend_inside run refused, amendAttributes_idle run _ (Or.inr noneAttributes), pure_bind,
        amendOption_idle run _ (Or.inr noneArguments), pure_bind, amendOf_around run (ih first) noneBefore]
      exact replacing_bind fun y r => rfl

end Amend

/-! ## Updates, which know no effects -/

section Update

variable {f : Markup → ρ × Markup} {r : ρ}

/-- Where no element passes, nothing is updated. -/
theorem Outcome.eq_none {α : Type} {elements : α → List Markup} {es : List Markup} {updated : Option (ρ × α)}
    (outcome : Outcome p f es (updated.map fun r => (r.1, elements r.2))) (none : ∀ e ∈ es, p e = false) :
    updated = .none := by
  cases updated with
  | none => rfl
  | some r =>
      obtain ⟨as, e, bs, as', bs', rfl, -, -, passes, -⟩ := outcome
      have refused := none e (by simp)
      rw [refused] at passes
      cases passes

theorem updateFirstOf_around {t t' : Tree} (here : t.updateFirst p f = some (r, t')) {before after : List Tree}
    (none : ∀ e ∈ elementsOf before, p e = false) :
    updateFirstOf p f (before ++ t :: after) = some (r, before ++ t' :: after) := by
  induction before with
  | nil => simp only [List.nil_append, updateFirstOf, here]
  | cons u before ih =>
      obtain ⟨first, rest⟩ := List.forall_mem_append.mp none
      simp only [List.cons_append, updateFirstOf, u.updateFirst_spec.eq_none first, ih rest, Option.map_some]

theorem updateFirstAttribute_around {a a' : Attribute Tree} (here : updateFirstIn p f a = some (r, a'))
    {before : List (Attribute Tree)} (none : ∀ e ∈ attributeElements before, p e = false)
    (after : List (Attribute Tree)) :
    updateFirstAttribute p f (before ++ a :: after) = some (r, before ++ a' :: after) := by
  induction before with
  | nil => simp only [List.nil_append, updateFirstAttribute, here]
  | cons b before ih =>
      obtain ⟨first, rest⟩ := List.forall_mem_append.mp none
      simp only [List.cons_append, updateFirstAttribute, (updateFirstIn_spec b).eq_none first, ih rest,
        Option.map_some]

theorem updateFirstIn_holding (slot : Option AttributeName) {t t' : Tree}
    (here : t.updateFirst p f = some (r, t')) :
    updateFirstIn p f (.holding slot t) = some (r, .holding slot t') := by
  cases slot <;> simp only [Attribute.holding, updateFirstIn, updateFirstOption, here, Option.map_some]

/-- An update is the function's answer in the place of the element that is found. -/
theorem Surroundings.updateFirst_fill (c : Surroundings) {e : Markup} (passes : p e = true)
    (first : ∀ x ∈ c.ahead e, p x = false) :
    (c.fill e).updateFirst p f = some ((f e).1, c.fill (f e).2) := by
  induction c with
  | hole =>
      obtain ⟨name, attributes, typeArguments, selfClosing, children, closing, lines⟩ := e
      simp only [fill, Tree.updateFirst, passes, if_true]
  | part kind before inside after ih =>
      obtain ⟨noneBefore, first⟩ := List.forall_mem_append.mp first
      simp only [fill, Tree.updateFirst, updateFirstOf_around (ih first) noneBefore, Option.map_some]
  | value x before slot inside after ih =>
      obtain ⟨refused, first⟩ := List.forall_mem_cons.mp first
      obtain ⟨noneBefore, first⟩ := List.forall_mem_append.mp first
      have here := updateFirstAttribute_around (updateFirstIn_holding slot (ih first)) noneBefore after
      simp only [fill, Tree.updateFirst, refused, Bool.false_eq_true, if_false, here]
  | typeArguments x inside ih =>
      obtain ⟨refused, first⟩ := List.forall_mem_cons.mp first
      obtain ⟨noneAttributes, first⟩ := List.forall_mem_append.mp first
      have passed := (updateFirstAttribute_spec (f := f) x.attributes).eq_none noneAttributes
      simp only [fill, Tree.updateFirst, refused, Bool.false_eq_true, if_false, passed, updateFirstOption,
        ih first, Option.map_some]
  | child x before inside after ih =>
      obtain ⟨refused, first⟩ := List.forall_mem_cons.mp first
      obtain ⟨front, first⟩ := List.forall_mem_append.mp first
      obtain ⟨front, noneBefore⟩ := List.forall_mem_append.mp front
      obtain ⟨noneAttributes, noneArguments⟩ := List.forall_mem_append.mp front
      have passedAttributes := (updateFirstAttribute_spec (f := f) x.attributes).eq_none noneAttributes
      have passedArguments := (updateFirstOption_spec (f := f) x.typeArguments).eq_none noneArguments
      simp only [fill, Tree.updateFirst, refused, Bool.false_eq_true, if_false, passedAttributes,
        passedArguments, updateFirstOf_around (ih first) noneBefore, Option.map_some]

end Update

/-! ## Modules -/

namespace Module

variable {name uid : String} {e : Markup} {s : Spot}

/-- Read the first element with an identifier. -/
def seek (name uid : String) (run : Markup → μ ρ) (m : Module) : μ (Option ρ) :=
  seekOf (fun e => e.carries name uid) run m.items none

/-- Put another element in the place of the first one with an identifier. -/
def amend (name uid : String) (run : Markup → μ (ρ × Markup)) (m : Module) : μ (Module × Option ρ) := do
  let r ← amendOf (fun e => e.carries name uid) run m.items none
  return ({ m with items := r.1 }, r.2)

/-- The first element with an identifier, and the spot at which it stands. -/
structure FoundAt (name uid : String) (m : Module) (e : Markup) (s : Spot) : Prop where
  place : m = s.fill e
  carries : e.identifier? name = some uid
  listed : m.elements = s.ahead e ++ (Tree.element e).elements ++ s.behind
  first : ∀ x ∈ s.ahead e, x.identifier? name ≠ some uid

theorem seek_eq_none {m : Module} (none : ∀ e ∈ m.elements, e.carries name uid = false) (run : Markup → μ ρ) :
    m.seek name uid run = pure .none := seekOf_idle run m.items (Or.inr none)

theorem amend_eq_none {m : Module} (none : ∀ e ∈ m.elements, e.carries name uid = false)
    (run : Markup → μ (ρ × Markup)) : m.amend name uid run = pure (m, .none) := by
  rw [amend, amendOf_idle run m.items (Or.inr none), pure_bind]

theorem seek_fill (carries : e.carries name uid = true) (first : ∀ x ∈ s.ahead e, x.carries name uid = false)
    (run : Markup → μ ρ) : (s.fill e).seek name uid run = some <$> run e := by
  obtain ⟨noneBefore, first⟩ := List.forall_mem_append.mp first
  exact seekOf_around run (s.inside.seek_fill run carries first) noneBefore

theorem amend_fill (carries : e.carries name uid = true) (first : ∀ x ∈ s.ahead e, x.carries name uid = false)
    (run : Markup → μ (ρ × Markup)) :
    (s.fill e).amend name uid run = (fun r => (s.fill r.2, some r.1)) <$> run e := by
  obtain ⟨noneBefore, first⟩ := List.forall_mem_append.mp first
  rw [amend, Spot.fill, amendOf_around run (s.inside.amend_fill run carries first) noneBefore]
  exact replacing_bind fun y r => rfl

theorem update?_fill (carries : e.carries name uid = true) (first : ∀ x ∈ s.ahead e, x.carries name uid = false)
    (f : Markup → ρ × Markup) : (s.fill e).update? name uid f = some ((f e).1, s.fill (f e).2) := by
  obtain ⟨noneBefore, first⟩ := List.forall_mem_append.mp first
  have here := s.inside.updateFirst_fill (f := f) carries first
  simp only [update?, Spot.fill, updateFirstOf_around here noneBefore, Option.map_some]

theorem find?_fill (carries : e.carries name uid = true) (first : ∀ x ∈ s.ahead e, x.carries name uid = false) :
    (s.fill e).find? name uid = some e := by
  have none : (s.ahead e).find? (·.carries name uid) = .none := List.find?_eq_none.mpr (by simpa using first)
  rw [find?, s.elements_fill, Tree.elements_element, List.append_assoc, List.find?_append, none,
    List.cons_append, List.find?_cons, carries]
  rfl

theorem carries_eq_false_iff : e.carries name uid = false ↔ e.identifier? name ≠ some uid := beq_eq_false_iff_ne

/-- **The two finders agree, and touch one element.**  Reading and changing, whatever effects the
two functions have, come to the same element: the first, in the order in which the tags open, that
has the identifier.  Where there is none, neither function runs, nothing is answered, and the
module is as before.  Where there is one, all that happens is what the function does on it, once;
the module that was changed is the old one with another element at that spot, and as long as that
has the identifier, it is what a reader comes to next. -/
theorem finders_agree {σ : Type} (name uid : String) (m : Module) (look : Markup → μ σ)
    (change : Markup → μ (ρ × Markup)) :
    ((∀ e ∈ m.elements, e.identifier? name ≠ some uid) ∧
      m.find? name uid = none ∧ m.seek name uid look = pure none ∧
      (∀ f : Markup → ρ × Markup, m.update? name uid f = none) ∧ m.amend name uid change = pure (m, none)) ∨
    ∃ e s, m.FoundAt name uid e s ∧
      m.find? name uid = some e ∧ m.seek name uid look = some <$> look e ∧
      (∀ f : Markup → ρ × Markup, m.update? name uid f = some ((f e).1, s.fill (f e).2)) ∧
      m.amend name uid change = (fun r => (s.fill r.2, some r.1)) <$> change e ∧
      ∀ e', e'.identifier? name = some uid →
        (s.fill e').find? name uid = some e' ∧ (s.fill e').seek name uid look = some <$> look e' := by
  cases found : m.find? name uid with
  | none =>
      have none : ∀ e ∈ m.elements, e.carries name uid = false := by simpa using List.find?_eq_none.mp found
      refine Or.inl ⟨fun e member => carries_eq_false_iff.mp (none e member), rfl, seek_eq_none none look, ?_,
        amend_eq_none none change⟩
      intro f
      have spec := updateFirstOf_spec (p := fun e => e.carries name uid) (f := f) m.items
      rw [update?, spec.eq_none none, Option.map_none]
  | some e =>
      obtain ⟨s, rfl, first⟩ := exists_spot found
      have carries : e.carries name uid = true := List.find?_some found
      refine Or.inr ⟨e, s, ⟨rfl, eq_of_beq carries, s.elements_fill e, ?_⟩, rfl, seek_fill carries first look,
        update?_fill carries first, amend_fill carries first change, fun e' carries' => ?_⟩
      · exact fun x member => carries_eq_false_iff.mp (first x member)
      · have first' := s.ahead_carries first e'
        exact ⟨find?_fill (beq_iff_eq.mpr carries') first', seek_fill (beq_iff_eq.mpr carries') first' look⟩

/-! ## Poles -/

/-- Two elements, one inside the other, with one identifier. -/
def nested : Module :=
  ⟨none, [.element ⟨.plain "ul", [Markup.identifierAttribute "id" "k"], none, false,
    [.element ⟨.plain "li", [Markup.identifierAttribute "id" "k"], none, true, [], none, none⟩],
    some (.plain "ul"), none⟩], none⟩

/-- Answer the tag of an element, and note it. -/
def noted (e : Markup) : StateM (List String) String := fun tags => (e.tag, tags ++ [e.tag])

/-- Give an element another tag, and note the old one. -/
def retagged (e : Markup) : StateM (List String) (String × Markup) :=
  fun tags => ((e.tag, { e with name := .plain "ol" }), tags ++ [e.tag])

theorem finders_agree_nested : LawfulMonad (StateM (List String)) ∧
    (nested.seek "id" "k" noted).run [] = (some "ul", ["ul"]) ∧
    ((nested.amend "id" "k" retagged).run []).2 = ["ul"] := by
  have facts : (nested.find? "id" "k").map Markup.tag = some "ul" := by decide +kernel
  refine ⟨inferInstance, ?_⟩
  rcases finders_agree "id" "k" nested noted retagged with ⟨-, none, -⟩ | ⟨e, s, -, found, seeks, -, amends, -⟩
  · rw [none] at facts
    cases facts
  · rw [found] at facts
    have tag : e.tag = "ul" := Option.some.inj facts
    rw [seeks, amends, ← tag]
    exact ⟨rfl, rfl⟩

end Module

end LiveMarkup.Syntax
