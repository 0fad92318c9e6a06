import LiveMarkup.Proofs.Coalescer.Interleaving
import Mathlib.Data.List.Induction
/-
# LiveMarkup.Proofs.Coalescer.Delivery -- every accepted payload is delivered once

Whatever the order in which handles and worker take their steps, the payload that waits is
what the changes accepted since the last run make of an empty slot, and so is the payload
of every run (`Faithful`).  When every change appends to a list, the runs so far and what
waits are together the lists that were accepted, each once and in order (`conserved`).  A
slot that is closed stays empty, refuses everything, and no run begins any more.

`accepted_delivered_once` says all of this of all interleavings.  Pole: a burst, a run, and
a call from inside the run.
-/

namespace LiveMarkup.Coalescer

set_option autoImplicit false

namespace System

variable {α : Type} {quiet : Nat} {s s' s'' : System α} {events events' : List (Happening α)}
  {e : Option (Happening α)}

/-- A step of the worker begins a run with the payload that waits, or leaves the payload. -/
theorem work_cases {now : Nat}
    (work : Coalescer.step quiet now s.phase s.slot = some (s'.phase, s'.slot)) :
    (∃ a, begun? s.phase s'.phase = some (.run a) ∧ s.slot.closed = false ∧
      s.slot.pending = some a ∧ s'.slot.closed = false ∧ s'.slot.pending = none) ∨
    (begun? s.phase s'.phase = none ∧ s'.slot.closed = s.slot.closed ∧
      s'.slot.pending = s.slot.pending) := by
  obtain ⟨slot, phase⟩ := s
  obtain ⟨slot', phase'⟩ := s'
  have works : Works quiet now slot phase phase' slot' := works_of_step work
  cases works with
  | take isOpen a waits => exact Or.inl ⟨a, rfl, isOpen, waits, isOpen, rfl⟩
  | _ => exact Or.inr ⟨rfl, rfl, rfl⟩

/-- What a step can be. -/
inductive Kind (s s' : System α) : Option (Happening α) → Prop
  | accepted (c : Call α) (f : Option α → α) (change : c.change? = some f)
      (before : s.slot.closed = false) (after : s'.slot.closed = false)
      (pending : s'.slot.pending = some (f s.slot.pending)) : Kind s s' (some (.call c (some true)))
  | refused (c : Call α) (closed : s.slot.closed = true) (same : s' = s) :
      Kind s s' (some (.call c (some false)))
  | closed (after : s'.slot.closed = true) (pending : s'.slot.pending = none) :
      Kind s s' (some (.call .close none))
  | began (a : α) (before : s.slot.closed = false) (waits : s.slot.pending = some a)
      (after : s'.slot.closed = false) (pending : s'.slot.pending = none) : Kind s s' (some (.run a))
  | silent (closed : s'.slot.closed = s.slot.closed) (pending : s'.slot.pending = s.slot.pending) :
      Kind s s' none

theorem Step.kind (step : Step quiet s e s') : Kind s s' e := by
  cases step with
  | call c =>
      cases change : c.change? with
      | none =>
          obtain rfl := Call.eq_close change
          exact .closed rfl rfl
      | some f =>
          cases closed : s.slot.closed with
          | true =>
              have refused := Call.perform_of_closed closed change
              rw [refused]
              exact .refused c closed rfl
          | false =>
              obtain ⟨answer, pending, after⟩ := Call.perform_of_open closed change
              rw [answer]
              exact .accepted c f change closed after pending
  | work now work =>
      rcases work_cases work with ⟨a, event, before, waits, after, pending⟩ | ⟨event, closed, pending⟩
      · rw [event]
        exact .began a before waits after pending
      · rw [event]
        exact .silent closed pending

/-- The payload that waits, and those of the runs, are what the accepted changes make. -/
structure Faithful (events : List (Happening α)) (s : System α) : Prop where
  pending : s.slot.closed = false → s.slot.pending = payload? (waiting events)
  closed : s.slot.closed = true → s.slot.pending = none
  runs : ∀ before a after, events = before ++ .run a :: after → payload? (waiting before) = some a

theorem faithful_start : Faithful [] (start : System α) := by
  refine ⟨fun _ => rfl, fun _ => rfl, fun before a after split => ?_⟩
  simp at split

/-- An event stands at the end of a list with one more, or further ahead. -/
theorem split_snoc {event event' : Happening α} {before after : List (Happening α)}
    (split : events ++ [event] = before ++ event' :: after) :
    (events = before ∧ event = event') ∨ ∃ after', events = before ++ event' :: after' := by
  rcases List.eq_nil_or_concat after with rfl | ⟨after', last, rfl⟩
  · obtain ⟨same, last⟩ := List.append_inj' split rfl
    exact Or.inl ⟨same, List.singleton_inj.mp last⟩
  · have split : events ++ [event] = (before ++ event' :: after') ++ [last] := by simpa using split
    exact Or.inr ⟨after', List.append_inj_left' split rfl⟩

/-- An event that is no run leaves the runs there were. -/
theorem Faithful.runs_snoc (faithful : Faithful events s) {event : Happening α}
    (other : ∀ a, event ≠ .run a) :
    ∀ before a after, events ++ [event] = before ++ .run a :: after → payload? (waiting before) = some a := by
  intro before a after split
  rcases split_snoc split with ⟨-, last⟩ | ⟨after', earlier⟩
  · exact absurd last (other a)
  · exact faithful.runs before a after' earlier

/-- Every step keeps it. -/
theorem Faithful.step (faithful : Faithful events s) (step : Step quiet s e s') :
    Faithful (events ++ e.toList) s' := by
  cases step.kind with
  | accepted c f change before after pending =>
      refine ⟨fun _ => ?_, fun closed => ?_, faithful.runs_snoc (by simp)⟩
      · have grown : waiting (events ++ [.call c (some true)]) = waiting events ++ [f] := by
          simp only [waiting_append, waitingBehind, change, Option.toList]
        rw [Option.toList_some, grown, payload?_append, pending, faithful.pending before]
      · rw [after] at closed
        cases closed
  | refused c closed same =>
      subst same
      refine ⟨fun isOpen => ?_, faithful.closed, faithful.runs_snoc (by simp)⟩
      rw [closed] at isOpen
      cases isOpen
  | closed after pending =>
      refine ⟨fun isOpen => ?_, fun _ => pending, faithful.runs_snoc (by simp)⟩
      rw [after] at isOpen
      cases isOpen
  | began a before waits after pending =>
      have now : payload? (waiting events) = some a := (faithful.pending before).symm.trans waits
      refine ⟨fun _ => ?_, fun _ => pending, fun before' a' after' split => ?_⟩
      · rw [Option.toList_some, waiting_append, pending]
        rfl
      · rcases split_snoc split with ⟨rfl, same⟩ | ⟨after'', earlier⟩
        · cases same
          exact now
        · exact faithful.runs before' a' after'' earlier
  | silent closed pending =>
      rw [Option.toList_none, List.append_nil]
      exact ⟨fun isOpen => pending.trans (faithful.pending (closed.symm.trans isOpen)),
        fun isClosed => pending.trans (faithful.closed (closed.symm.trans isClosed)), faithful.runs⟩

/-- Every interleaving from the start keeps it. -/
theorem Steps.faithful (steps : Steps quiet start events s) : Faithful events s := by
  induction steps with
  | refl => exact faithful_start
  | tail steps step faithful => exact faithful.step step

/-! ## Closed slots -/

/-- A closed slot stays closed, nothing is accepted, and no run begins. -/
theorem Steps.of_closed (steps : Steps quiet s events s') (closed : s.slot.closed = true) :
    s'.slot.closed = true ∧ accepted events = [] ∧ runs events = [] := by
  induction steps with
  | refl => exact ⟨closed, rfl, rfl⟩
  | tail steps step ih =>
      obtain ⟨isClosed, noneAccepted, noRun⟩ := ih
      rw [accepted_append, runs_append, noneAccepted, noRun]
      cases step.kind with
      | accepted c f change before =>
          rw [isClosed] at before
          cases before
      | refused c closed same => exact ⟨same ▸ isClosed, rfl, rfl⟩
      | closed after => exact ⟨after, rfl, rfl⟩
      | began a before =>
          rw [isClosed] at before
          cases before
      | silent closed => exact ⟨closed.trans isClosed, rfl, rfl⟩

theorem Steps.append (steps : Steps quiet s events s') (later : Steps quiet s' events' s'') :
    Steps quiet s (events ++ events') s'' := by
  induction later with
  | refl => simpa using steps
  | tail later step ih =>
      rw [← List.append_assoc]
      exact .tail ih step

end System

/-! ## Lists -/

section Lists

variable {β : Type}

/-- A change appends a list, the one that it makes of an empty slot. -/
def Appends (f : Option (List β) → List β) : Prop := ∀ pending, f pending = pending.getD [] ++ f none

/-- When every change appends, the runs and what waits are what was accepted. -/
theorem conserved {events : List (Happening (List β))} (appends : ∀ f ∈ accepted events, Appends f)
    (faithful : ∀ before a after, events = before ++ .run a :: after →
      payload? (waiting before) = some a) :
    (runs events).flatten ++ (payload? (waiting events)).getD [] =
      (accepted events).flatMap fun f => f none := by
  induction events using List.reverseRecOn with
  | nil => rfl
  | append_singleton events e ih =>
      rw [accepted_append] at appends
      have before := ih (fun f member => appends f (List.mem_append_left _ member))
        fun before a after split => faithful before a (after ++ [e]) (by simp [split])
      rw [accepted_append, runs_append, waiting_append, List.flatMap_append, ← before]
      cases e with
      | run a =>
          have taken : payload? (waiting events) = some a := faithful events a [] rfl
          rw [taken]
          simp [runs, accepted, waitingBehind, payload?]
      | call c answer =>
          rcases answer with _ | _ | _
          · simp [runs, accepted, waitingBehind]
          · simp [runs, accepted, waitingBehind]
          · cases change : c.change? with
            | none => simp [runs, accepted, waitingBehind, change]
            | some f =>
                have grows : Appends f := appends f (by simp [accepted, change])
                simp only [runs, accepted, waitingBehind, change, Option.toList, payload?_append,
                  Option.getD_some, List.append_nil, List.flatMap_cons, List.flatMap_nil,
                  List.append_assoc]
                rw [grows (payload? (waiting events))]

end Lists

/-- **Every accepted change is delivered once and in order, until the slot is closed.**  In
every interleaving of handles and worker, for every quiet window: each run has the payload
that the changes accepted since the run before it make of an empty slot, and so has an open
slot; in particular, when every change appends to a list, the payloads of the runs so far
and the one that waits are together what was accepted.  Once the slot is closed nothing
waits in it, every further payload is refused without a trace, and no run begins. -/
theorem accepted_delivered_once (quiet : Nat) :
    (∀ {α : Type} {events : List (Happening α)} {s : System α}, System.Steps quiet .start events s →
      (∀ before a after, events = before ++ .run a :: after → payload? (waiting before) = some a) ∧
      (s.slot.closed = false → s.slot.pending = payload? (waiting events))) ∧
    (∀ {β : Type} {events : List (Happening (List β))} {s : System (List β)},
      System.Steps quiet .start events s → (∀ f ∈ accepted events, Appends f) →
      s.slot.closed = false →
      (runs events).flatten ++ s.slot.pending.getD [] = (accepted events).flatMap fun f => f none) ∧
    (∀ {α : Type} {before after : List (Happening α)} {s s' : System α},
      System.Steps quiet .start before s → s.slot.closed = true → System.Steps quiet s after s' →
      s'.slot.pending = none ∧ s'.slot.closed = true ∧ accepted after = [] ∧ runs after = [] ∧
      ∀ (c : Call α) (f : Option α → α), c.change? = some f → c.perform s'.slot = (some false, s'.slot)) := by
  refine ⟨fun steps => ?_, fun steps appends isOpen => ?_, fun steps closed later => ?_⟩
  · exact ⟨steps.faithful.runs, steps.faithful.pending⟩
  · rw [steps.faithful.pending isOpen]
    exact conserved appends steps.faithful.runs
  · obtain ⟨isClosed, noneAccepted, noRun⟩ := later.of_closed closed
    exact ⟨(steps.append later).faithful.closed isClosed, isClosed, noneAccepted, noRun,
      fun c f change => Call.perform_of_closed isClosed change⟩

/-! ## Pole -/

/-- Append a number. -/
def addNumber (n : Nat) : Call (List Nat) := .update fun pending => pending.getD [] ++ [n]

theorem System.Steps.work {α : Type} {quiet : Nat} {s s' : System α} {events : List (Happening α)}
    (steps : Steps quiet s events s') (now : Nat) (phase : Phase α) (slot : Slot α)
    (work : Coalescer.step quiet now s'.phase s'.slot = some (phase, slot)) :
    Steps quiet s (events ++ (begun? s'.phase phase).toList) ⟨slot, phase⟩ :=
  .tail steps (@Step.work α quiet s' ⟨slot, phase⟩ now work)

/-- The end of `burst`, where a number waits and the run goes on. -/
def behindBurst : System (List Nat) := ⟨⟨some [3], 3, false, true⟩, .running [1, 2]⟩

/-- What happens in `delivered_burst` before the slot is closed. -/
def burst : List (Happening (List Nat)) :=
  [.call (addNumber 1) (some true), .call (addNumber 2) (some true), .run [1, 2],
    .call (addNumber 3) (some true)]

/-- Two numbers in one window, a third one during the run; then the slot is closed. -/
theorem delivered_burst : ∃ s' : System (List Nat),
    System.Steps 150 .start burst behindBurst ∧ behindBurst.slot.closed = false ∧
    (runs burst).flatten ++ behindBurst.slot.pending.getD [] =
      (accepted burst).flatMap (fun f => f none) ∧
    behindBurst.slot.pending = payload? (waiting burst) ∧
    System.Steps 150 behindBurst [.call .close none, .call (addNumber 4) (some false)] s' ∧
    s'.slot.pending = none := by
  have first := (show System.Steps 150 .start [] .start from .refl _).tail (.call _ (addNumber 1))
  have settling := first.work 0 (.settling 1 150) ⟨some [1], 1, false, true⟩ rfl
  have second := settling.tail (.call _ (addNumber 2))
  have disturbed := second.work 150 (.settling 2 300) ⟨some [1, 2], 2, false, true⟩ rfl
  have elapsed := disturbed.work 300 .taking ⟨some [1, 2], 2, false, true⟩ rfl
  have began := elapsed.work 300 (.running [1, 2]) ⟨none, 2, false, true⟩ rfl
  have steps : System.Steps 150 .start burst behindBurst := began.tail (.call _ (addNumber 3))
  have still : System.Steps 150 behindBurst [] behindBurst := .refl _
  have later := (still.tail (.call _ .close)).tail (.call _ (addNumber 4))
  have appends : ∀ f ∈ accepted burst, Appends f := by
    simp [burst, accepted, addNumber, Call.change?, Appends]
  obtain ⟨each, lists, closed⟩ := accepted_delivered_once 150
  exact ⟨_, steps, rfl, lists steps appends rfl, (each steps).2 rfl, later,
    (closed (steps.append later) rfl (.refl _)).1⟩

end LiveMarkup.Coalescer
