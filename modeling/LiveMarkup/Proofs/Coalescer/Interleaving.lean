import LiveMarkup.Coalescer.Basic
/-
# LiveMarkup.Proofs.Coalescer.Interleaving -- handles and a worker in any order

All handles share one slot, so it does not matter which of them makes a call, nor whether
it is made from inside a run: a call can be the next step whatever the worker is about to
do.  The worker takes its own steps one at a time, at any time of the clock; `Works` is the
list of them.

A run begins when its payload is taken.  From then on nothing keeps it from being made, and
what is called until it ends is called during the run.

What happened is written down as a list of events: every call with its answer, and every
run that began.  `accepted` and `runs` are read off it, and `waiting` are the changes that
were accepted since the last run began; `payload?` is what they make of an empty slot.
-/

namespace LiveMarkup.Coalescer

set_option autoImplicit false

/-- What can be done through a handle. -/
inductive Call (α : Type) where
  | submit (payload : α)
  | update (change : Option α → α)
  | close

namespace Call

variable {α : Type}

/-- Closing has no answer. -/
def perform (s : Slot α) : Call α → Option Bool × Slot α
  | submit a => let r := s.submit a; (some r.1, r.2)
  | update f => let r := s.update f; (some r.1, r.2)
  | close => (none, s.close)

/-- What a call makes of the payload that waits. -/
def change? : Call α → Option (Option α → α)
  | submit a => some fun _ => a
  | update f => some f
  | close => none

theorem perform_of_closed {s : Slot α} (closed : s.closed = true) {c : Call α} {f : Option α → α}
    (change : c.change? = some f) : c.perform s = (some false, s) := by
  cases c with
  | submit a => simp [perform, Slot.submit, Slot.update, closed]
  | update f => simp [perform, Slot.update, closed]
  | close => cases change

theorem perform_of_open {s : Slot α} (isOpen : s.closed = false) {c : Call α} {f : Option α → α}
    (change : c.change? = some f) :
    (c.perform s).1 = some true ∧ (c.perform s).2.pending = some (f s.pending) ∧
      (c.perform s).2.closed = false := by
  cases c with
  | submit a =>
      obtain rfl := Option.some.inj change
      simp [perform, Slot.submit, Slot.update, isOpen]
  | update g =>
      obtain rfl := Option.some.inj change
      simp [perform, Slot.update, isOpen]
  | close => cases change

/-- The call that changes no payload closes. -/
theorem eq_close {c : Call α} (change : c.change? = none) : c = close := by
  cases c with
  | close => rfl
  | _ => cases change

end Call

/-! ## What the worker does -/

/-- The steps of the worker, one by one. -/
inductive Works {α : Type} (quiet now : Nat) (s : Slot α) : Phase α → Phase α → Slot α → Prop
  | stop (closed : s.closed = true) : Works quiet now s .looking .stopped s
  | settle (isOpen : s.closed = false) (a : α) (waits : s.pending = some a) (lasts : quiet ≠ 0) :
      Works quiet now s .looking (.settling s.generation (now + quiet)) s
  | hurry (isOpen : s.closed = false) (a : α) (waits : s.pending = some a) (none : quiet = 0) :
      Works quiet now s .looking .taking s
  | park (isOpen : s.closed = false) (empty : s.pending = none) : Works quiet now s .looking .parked s
  | resume (permit : s.permit = true) : Works quiet now s .parked .looking { s with permit := false }
  | elapse {seen stop : Nat} (ended : stop ≤ now) (calm : s.closed = true ∨ s.generation = seen) :
      Works quiet now s (.settling seen stop) .taking s
  | rearm {seen stop : Nat} (ended : stop ≤ now) (isOpen : s.closed = false)
      (disturbed : s.generation ≠ seen) :
      Works quiet now s (.settling seen stop) (.settling s.generation (now + quiet)) s
  | give (closed : s.closed = true) : Works quiet now s .taking .stopped s
  | take (isOpen : s.closed = false) (a : α) (waits : s.pending = some a) :
      Works quiet now s .taking (.running a) { s with pending := none }
  | miss (isOpen : s.closed = false) (empty : s.pending = none) : Works quiet now s .taking .looking s
  | finish (a : α) : Works quiet now s (.running a) .looking s

/-- Every step of the worker is one of these. -/
theorem works_of_step {α : Type} {quiet now : Nat} {phase phase' : Phase α} {s s' : Slot α}
    (work : step quiet now phase s = some (phase', s')) : Works quiet now s phase phase' s' := by
  cases phase with
  | looking =>
      simp only [step, Option.some.injEq] at work
      split at work
      · rename_i closed
        obtain ⟨rfl, rfl⟩ := Prod.mk.inj work
        exact .stop closed
      · rename_i isOpen
        have isOpen : s.closed = false := Bool.eq_false_iff.mpr isOpen
        split at work
        · rename_i a waits
          obtain ⟨rfl, rfl⟩ := Prod.mk.inj work
          by_cases none : quiet = 0
          · rw [if_pos none]
            exact .hurry isOpen a waits none
          · rw [if_neg none]
            exact .settle isOpen a waits none
        · rename_i empty
          obtain ⟨rfl, rfl⟩ := Prod.mk.inj work
          exact .park isOpen empty
  | parked =>
      simp only [step] at work
      split at work
      · rename_i permit
        obtain ⟨rfl, rfl⟩ := Prod.mk.inj (Option.some.inj work)
        exact .resume permit
      · cases work
  | settling seen stop =>
      simp only [step] at work
      split at work
      · rename_i ended
        split at work
        · rename_i calm
          obtain ⟨rfl, rfl⟩ := Prod.mk.inj (Option.some.inj work)
          exact .elapse ended (by simpa using calm)
        · rename_i disturbed
          have disturbed : s.closed = false ∧ s.generation ≠ seen := by simpa using disturbed
          obtain ⟨rfl, rfl⟩ := Prod.mk.inj (Option.some.inj work)
          exact .rearm ended disturbed.1 disturbed.2
      · cases work
  | taking =>
      simp only [step, Option.some.injEq] at work
      split at work
      · rename_i closed
        obtain ⟨rfl, rfl⟩ := Prod.mk.inj work
        exact .give closed
      · rename_i isOpen
        have isOpen : s.closed = false := Bool.eq_false_iff.mpr isOpen
        split at work
        · rename_i a waits
          obtain ⟨rfl, rfl⟩ := Prod.mk.inj work
          exact .take isOpen a waits
        · rename_i empty
          obtain ⟨rfl, rfl⟩ := Prod.mk.inj work
          exact .miss isOpen empty
  | running a =>
      obtain ⟨rfl, rfl⟩ := Prod.mk.inj (Option.some.inj work)
      exact .finish a
  | stopped => cases work

/-- What happened. -/
inductive Happening (α : Type) where
  | call (c : Call α) (answer : Option Bool)
  | run (payload : α)

/-- The slot, and where the worker stands. -/
structure System (α : Type) where
  slot : Slot α
  phase : Phase α

namespace System

variable {α : Type}

def start : System α := ⟨.empty, .looking⟩

/-- The run that begins with a step of the worker. -/
def begun? : Phase α → Phase α → Option (Happening α)
  | .taking, .running a => some (.run a)
  | _, _ => none

/-- One step of anyone, and what happened in it. -/
inductive Step (quiet : Nat) : System α → Option (Happening α) → System α → Prop
  | call (s : System α) (c : Call α) :
      Step quiet s (some (.call c (c.perform s.slot).1)) ⟨(c.perform s.slot).2, s.phase⟩
  | work {s s' : System α} (now : Nat)
      (work : Coalescer.step quiet now s.phase s.slot = some (s'.phase, s'.slot)) :
      Step quiet s (begun? s.phase s'.phase) s'

/-- Any number of steps, and what happened in them. -/
inductive Steps (quiet : Nat) : System α → List (Happening α) → System α → Prop
  | refl (s : System α) : Steps quiet s [] s
  | tail {s s' s'' : System α} {events : List (Happening α)} {e : Option (Happening α)}
      (steps : Steps quiet s events s') (step : Step quiet s' e s'') :
      Steps quiet s (events ++ e.toList) s''

end System

/-! ## What the events tell -/

section Events

variable {α : Type}

/-- The changes that were accepted, in order. -/
def accepted : List (Happening α) → List (Option α → α)
  | [] => []
  | .call c (some true) :: events => c.change?.toList ++ accepted events
  | .call _ _ :: events => accepted events
  | .run _ :: events => accepted events

/-- The payloads of the runs that began, in order. -/
def runs : List (Happening α) → List α
  | [] => []
  | .call _ _ :: events => runs events
  | .run a :: events => a :: runs events

/-- The changes that were accepted since the last run began, behind those that were waiting
before. -/
def waitingBehind : List (Option α → α) → List (Happening α) → List (Option α → α)
  | fs, [] => fs
  | fs, .call c (some true) :: events => waitingBehind (fs ++ c.change?.toList) events
  | fs, .call _ _ :: events => waitingBehind fs events
  | _, .run _ :: events => waitingBehind [] events

/-- The changes that were accepted since the last run began. -/
def waiting (events : List (Happening α)) : List (Option α → α) := waitingBehind [] events

/-- What changes make, one after the other, of an empty slot. -/
def payload? (changes : List (Option α → α)) : Option α :=
  changes.foldl (fun pending f => some (f pending)) none

theorem accepted_append (events events' : List (Happening α)) :
    accepted (events ++ events') = accepted events ++ accepted events' := by
  fun_induction accepted events <;> simp_all [accepted]

theorem runs_append (events events' : List (Happening α)) :
    runs (events ++ events') = runs events ++ runs events' := by
  fun_induction runs events <;> simp_all [runs]

theorem waitingBehind_append (fs : List (Option α → α)) (events events' : List (Happening α)) :
    waitingBehind fs (events ++ events') = waitingBehind (waitingBehind fs events) events' := by
  fun_induction waitingBehind fs events <;> simp_all [waitingBehind]

theorem waiting_append (events events' : List (Happening α)) :
    waiting (events ++ events') = waitingBehind (waiting events) events' :=
  waitingBehind_append [] events events'

theorem payload?_append (fs : List (Option α → α)) (f : Option α → α) :
    payload? (fs ++ [f]) = some (f (payload? fs)) := by
  simp only [payload?, List.foldl_append, List.foldl_cons, List.foldl_nil]

end Events

end LiveMarkup.Coalescer
