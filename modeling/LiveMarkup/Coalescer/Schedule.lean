import LiveMarkup.Coalescer.Basic
/-
# LiveMarkup.Coalescer.Schedule -- a coalescer by the clock

A schedule says what producers do and when, and what is done during each run.  At each
instant the producers come first, in order, and then the worker goes on until it has to
wait.  `simulate` follows a schedule up to its end, when the slot is closed, and writes
down what happened.

Payloads are lists; an update appends one item, a submission puts a list of one item.
-/

namespace LiveMarkup.Coalescer

set_option autoImplicit false

/-- What a producer does. -/
inductive Action where
  | submit (item : String)
  | update (item : String)
  | close
  | askClosed
  deriving DecidableEq, Repr

/-- Append an item to what waits. -/
def append (item : String) (pending : Option (List String)) : List String := pending.getD [] ++ [item]

/-- Do something with the slot; closing has no answer. -/
def Action.perform (s : Slot (List String)) : Action → Option Bool × Slot (List String)
  | submit item => let r := s.submit [item]; (some r.1, r.2)
  | update item => let r := s.update (append item); (some r.1, r.2)
  | close => (none, s.close)
  | askClosed => (some s.closed, s)

/-- Do several things in order. -/
def performAll (s : Slot (List String)) : List Action → List (Option Bool) × Slot (List String)
  | [] => ([], s)
  | a :: as =>
      let r := a.perform s
      let rs := performAll r.2 as
      (r.1 :: rs.1, rs.2)

/-- What happened. -/
inductive Event where
  | action (action : Action) (answer : Option Bool)
  | run (payload : List String) (time : Nat) (answers : List (Option Bool))
  deriving DecidableEq, Repr

/-- A simulation at some moment. -/
structure Simulation where
  slot : Slot (List String)
  phase : Phase (List String)
  now : Nat
  /-- How many runs there were. -/
  runs : Nat
  events : List Event

/-- What is to happen. -/
structure Schedule where
  quiet : Nat
  /-- Actions with their times, in order. -/
  actions : List (Nat × Action)
  /-- What is done during the first run, the second, and so on. -/
  duringRuns : List (List Action)
  stop : Nat

namespace Simulation

def start : Simulation := ⟨.empty, .looking, 0, 0, []⟩

/-- One step of the worker. -/
def step? (c : Schedule) (s : Simulation) : Option Simulation :=
  match s.phase with
  | .running payload =>
      let r := performAll s.slot (c.duringRuns.getD s.runs [])
      some { s with
        slot := r.2
        phase := .looking
        runs := s.runs + 1
        events := s.events ++ [.run payload s.now r.1] }
  | phase =>
      (step c.quiet s.now phase s.slot).map fun r => { s with phase := r.1, slot := r.2 }

/-- The worker goes on until it has to wait; `fuel` bounds its steps. -/
def settle (c : Schedule) : Nat → Simulation → Simulation
  | 0, s => s
  | fuel + 1, s =>
      match s.step? c with
      | some s => settle c fuel s
      | none => s

/-- How many steps the worker takes at one instant at most. -/
def stepBound (c : Schedule) : Nat := 8 * (c.duringRuns.length + 4)

/-- The time at which a worker that waits goes on by itself. -/
def alarm? (s : Simulation) : Option Nat :=
  match s.phase with
  | .settling _ stop => some stop
  | _ => none

/-- Let time pass up to, but not including, an instant; `fuel` bounds the alarms. -/
def passUntil (c : Schedule) (time : Nat) : Nat → Simulation → Simulation
  | 0, s => s
  | fuel + 1, s =>
      match s.alarm? with
      | none => s
      | some t => if t < time then passUntil c time fuel (settle c (stepBound c) { s with now := t }) else s

/-- A producer acts at a time. -/
def act (c : Schedule) (time : Nat) (a : Action) (s : Simulation) : Simulation :=
  let s := if s.now < time then passUntil c time (time + 1) (settle c (stepBound c) s) else s
  let r := a.perform s.slot
  { s with now := max s.now time, slot := r.2, events := s.events ++ [.action a r.1] }

/-- The actions of a schedule in order. -/
def actAll (c : Schedule) : List (Nat × Action) → Simulation → Simulation
  | [], s => s
  | (time, a) :: rest, s => actAll c rest (act c time a s)

end Simulation

/-- Follow a schedule to its end. -/
def simulate (c : Schedule) : Simulation :=
  let s := Simulation.actAll c c.actions .start
  let s := Simulation.passUntil c c.stop (c.stop + 1) (Simulation.settle c (Simulation.stepBound c) s)
  let s := { s with now := max s.now c.stop, slot := s.slot.close }
  Simulation.settle c (Simulation.stepBound c) s

end LiveMarkup.Coalescer
