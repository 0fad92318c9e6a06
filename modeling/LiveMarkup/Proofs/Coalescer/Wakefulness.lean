import LiveMarkup.Proofs.Coalescer.Interleaving
import Mathlib.Logic.Relation
/-
# LiveMarkup.Proofs.Coalescer.Wakefulness -- a worker that never sleeps through work

A worker that found nothing in the slot waits to be woken.  Looking and waiting are two
steps, and so are changing the slot and waking the worker, so anything may come between.
A `Vigil` tells apart what `Phase.parked` and `Slot.permit` have in one: a worker that has
looked and does not wait yet, one that waits, and one whose wait was ended; the permit that
a wake-up leaves behind when nobody waits; and the wake-ups that calls still owe.

`Alert` is what every step keeps: nobody waits while a permit lies there, and a worker that
nothing will wake has nothing to wake for.  So once calls cease, what was put into the slot
is taken and a closed slot stops the worker, in whatever order the remaining steps come
(`Inevitable`, by a measure that every step lowers).

Interleavings of whole calls are among those of their parts (`Vigil.runs_of_steps`).  Poles:
a worker that waits for nothing, and the race in which a payload comes between the look and
the wait, and its wake-up after both.
-/

namespace LiveMarkup.Coalescer

set_option autoImplicit false

/-- How far a parked worker has got. -/
inductive Rest where
  /-- It has looked at the slot, and does not wait yet. -/
  | drowsy
  /-- It waits. -/
  | asleep
  /-- Its wait was ended, and it has not gone on yet. -/
  | called
  deriving DecidableEq, Repr

/-- A slot and its worker, with the worker's wait and the calls told apart into their parts. -/
structure Vigil (α : Type) extends System α where
  rest : Rest
  /-- The calls that have changed the slot and have not woken the worker yet. -/
  owed : Nat

namespace Vigil

variable {α : Type} {quiet : Nat} {v v' : Vigil α}

def start : Vigil α := ⟨.start, .drowsy, 0⟩

/-- Does a call that was answered so wake the worker?  Only a refused one does not. -/
def wakes (answer : Option Bool) : Bool := answer != some false

/-- The first part of a call: the slot is changed, and a wake-up is owed. -/
def change (c : Call α) (v : Vigil α) : Vigil α :=
  { v with
    slot := { (c.perform v.slot).2 with permit := v.slot.permit }
    owed := v.owed + if wakes (c.perform v.slot).1 then 1 else 0 }

/-- The second part of a call: end the wait of the worker, or leave a permit. -/
def wake (v : Vigil α) : Vigil α :=
  match v.phase, v.rest with
  | .parked, .asleep => { v with rest := .called }
  | _, _ => { v with slot := { v.slot with permit := true } }

/-- What can be done without a new call. -/
inductive Move (quiet : Nat) : Vigil α → Vigil α → Prop
  | wake {v : Vigil α} (n : Nat) (owes : v.owed = n + 1) : Move quiet v (Vigil.wake { v with owed := n })
  | wait {v : Vigil α} (parked : v.phase = .parked) (drowsy : v.rest = .drowsy)
      (unpermitted : v.slot.permit = false) : Move quiet v { v with rest := .asleep }
  | rise {v : Vigil α} (parked : v.phase = .parked) (called : v.rest = .called) :
      Move quiet v { v with phase := .looking, rest := .drowsy }
  /-- A step of the worker, who uses up a permit in place of waiting when there is one. -/
  | work {v : Vigil α} (now : Nat) {phase : Phase α} {slot : Slot α} (drowsy : v.rest = .drowsy)
      (work : Coalescer.step quiet now v.phase v.slot = some (phase, slot)) :
      Move quiet v { v with slot, phase }

inductive Step (quiet : Nat) : Vigil α → Vigil α → Prop
  | call (v : Vigil α) (c : Call α) : Step quiet v (v.change c)
  | move {v v' : Vigil α} (move : Move quiet v v') : Step quiet v v'

/-- Any number of steps. -/
abbrev Steps (quiet : Nat) : Vigil α → Vigil α → Prop := Relation.ReflTransGen (Step quiet)

/-- Something will wake the worker, or keep it from waiting. -/
def Roused (v : Vigil α) : Prop := v.slot.permit = true ∨ v.rest = .called ∨ 0 < v.owed

/-- Is there something for the worker to do? -/
def Due (v : Vigil α) : Prop := v.slot.pending.isSome = true ∨ v.slot.closed = true

/-! ## What every step keeps -/

structure Alert (v : Vigil α) : Prop where
  /-- Only a parked worker waits. -/
  parked : v.rest ≠ .drowsy → v.phase = .parked
  /-- Nobody waits while a permit lies there. -/
  unpermitted : v.rest = .asleep → v.slot.permit = false
  roused : v.phase = .parked → v.Due → v.Roused
  /-- A worker only stops for good. -/
  stopped : v.phase = .stopped → v.slot.closed = true
  emptied : v.slot.closed = true → v.slot.pending = none

theorem alert_start : (start : Vigil α).Alert := by
  constructor <;> simp [start, System.start, Slot.empty]

/-- A call is refused and leaves no trace, or it owes a wake-up. -/
theorem change_cases (c : Call α) (v : Vigil α) :
    (v.slot.closed = true ∧ v.change c = v) ∨
    ((v.change c).owed = v.owed + 1 ∧ (v.change c).slot.permit = v.slot.permit ∧
      (v.slot.closed = true → (v.change c).slot.closed = true) ∧
      ((v.change c).slot.closed = true → (v.change c).slot.pending = none)) := by
  cases changes : c.change? with
  | none =>
      obtain rfl := Call.eq_close changes
      refine Or.inr ⟨rfl, rfl, ?_, ?_⟩
      · intro _
        rfl
      · intro _
        rfl
  | some f =>
      cases closed : v.slot.closed with
      | true =>
          have refused := Call.perform_of_closed closed changes
          refine Or.inl ⟨rfl, ?_⟩
          simp [change, refused, wakes]
      | false =>
          obtain ⟨answer, -, stillOpen⟩ := Call.perform_of_open closed changes
          refine Or.inr ⟨?_, rfl, ?_, ?_⟩
          · simp [change, answer, wakes]
          · simp
          · intro isClosed
            have isClosed : (c.perform v.slot).2.closed = true := isClosed
            rw [stillOpen] at isClosed
            cases isClosed

theorem Alert.change (alert : v.Alert) (c : Call α) : (v.change c).Alert := by
  rcases change_cases c v with ⟨-, same⟩ | ⟨owes, permit, closed, emptied⟩
  · rw [same]
    exact alert
  · constructor
    · exact alert.parked
    · intro asleep
      rw [permit]
      exact alert.unpermitted asleep
    · intro _ _
      have some_owed : 0 < (v.change c).owed := by omega
      exact Or.inr (Or.inr some_owed)
    · intro stopped
      exact closed (alert.stopped stopped)
    · exact emptied

theorem wake_cases (v : Vigil α) :
    (v.rest = .asleep ∧ v.wake = { v with rest := .called }) ∨
    ((v.phase = .parked → v.rest ≠ .asleep) ∧ v.wake = { v with slot := { v.slot with permit := true } }) := by
  unfold wake
  split
  · rename_i asleep
    exact Or.inl ⟨asleep, rfl⟩
  · rename_i elsewhere
    refine Or.inr ⟨?_, rfl⟩
    intro parked asleep
    exact elsewhere parked asleep

theorem Alert.wake (alert : v.Alert) (n : Nat) : (Vigil.wake { v with owed := n }).Alert := by
  rcases wake_cases { v with owed := n } with ⟨asleep, value⟩ | ⟨elsewhere, value⟩
  · rw [value]
    have asleep : v.rest = .asleep := asleep
    constructor
    · intro _
      exact alert.parked (by simp [asleep])
    · intro again
      cases again
    · intro _ _
      exact Or.inr (Or.inl rfl)
    · exact alert.stopped
    · exact alert.emptied
  · rw [value]
    constructor
    · exact alert.parked
    · intro asleep
      have asleep : v.rest = .asleep := asleep
      have parked : v.phase = .parked := alert.parked (by simp [asleep])
      exact absurd asleep (elsewhere parked)
    · intro _ _
      exact Or.inl rfl
    · exact alert.stopped
    · exact alert.emptied

theorem Alert.work (alert : v.Alert) (drowsy : v.rest = .drowsy) {now : Nat} {phase : Phase α}
    {slot : Slot α} (works : Works quiet now v.slot v.phase phase slot) :
    Alert { v with slot, phase } := by
  obtain ⟨⟨before, here⟩, rest, owed⟩ := v
  obtain rfl : rest = .drowsy := drowsy
  constructor
  · intro waits
    exact absurd rfl waits
  · intro asleep
    cases asleep
  · intro parked due
    -- the worker goes to rest only when it finds nothing to do
    cases works with
    | park isOpen empty =>
        have isOpen : before.closed = false := isOpen
        have empty : before.pending = none := empty
        simp [Due, isOpen, empty] at due
    | _ => cases parked
  · intro stopped
    cases works with
    | stop closed => exact closed
    | give closed => exact closed
    | _ => cases stopped
  · intro closed
    cases works with
    | take isOpen a waits => rfl
    | _ => exact alert.emptied closed

theorem Alert.move (alert : v.Alert) (move : Move quiet v v') : v'.Alert := by
  cases move with
  | wake n owes => exact alert.wake n
  | wait parked drowsy unpermitted =>
      constructor
      · intro _
        exact parked
      · intro _
        exact unpermitted
      · intro _ due
        -- it is neither the permit nor the end of a wait that it goes by
        have roused : v.Roused := alert.roused parked due
        simp only [Roused, unpermitted, drowsy, Bool.false_eq_true, reduceCtorEq, false_or] at roused
        exact Or.inr (Or.inr roused)
      · exact alert.stopped
      · exact alert.emptied
  | rise parked called =>
      constructor
      · intro waits
        exact absurd rfl waits
      · intro asleep
        cases asleep
      · intro looks
        cases looks
      · intro looks
        cases looks
      · exact alert.emptied
  | work now drowsy work => exact alert.work drowsy (works_of_step work)

theorem Alert.step (alert : v.Alert) (step : Step quiet v v') : v'.Alert := by
  cases step with
  | call c => exact alert.change c
  | move move => exact alert.move move

theorem Steps.alert (steps : Steps quiet start v) : v.Alert := by
  induction steps with
  | refl => exact alert_start
  | tail _ step ih => exact ih.step step

/-! ## What comes about by itself -/

/-- Whatever is done next, as long as it is no new call, something comes about. -/
inductive Inevitable (quiet : Nat) (P : Vigil α → Prop) : Vigil α → Prop
  | now {v : Vigil α} (here : P v) : Inevitable quiet P v
  | later {v : Vigil α} (some : ∃ v', Move quiet v v') (every : ∀ v', Move quiet v v' → Inevitable quiet P v') :
      Inevitable quiet P v

/-- What waited in the slot is being run with; or, if nothing did, the worker has stopped. -/
def Served : Option α → Vigil α → Prop
  | some a, v => v.phase = .running a ∧ v.slot.pending = none
  | none, v => v.phase = .stopped

/-- How far the worker is from taking what waits, or from stopping. -/
def stage (v : Vigil α) : Nat :=
  match v.phase, v.rest with
  | .parked, .drowsy => 8
  | .parked, .asleep => 7
  | .parked, .called => 6
  | .running _, _ => 6
  | .looking, _ => 5
  | .settling seen _, _ => if v.slot.closed || v.slot.generation == seen then 3 else 4
  | .taking, _ => 2
  | .stopped, _ => 0

/-- How many steps are left at most. -/
def distance (v : Vigil α) : Nat := v.stage + v.owed

theorem distance_work (due : v.Due) (drowsy : v.rest = .drowsy) {now : Nat} {phase : Phase α}
    {slot : Slot α} (works : Works quiet now v.slot v.phase phase slot) :
    (∃ a, v.slot.pending = some a ∧ Served (some a) { v with slot, phase }) ∨
    (slot.pending = v.slot.pending ∧ slot.closed = v.slot.closed ∧
      distance { v with slot, phase } < v.distance) := by
  obtain ⟨⟨before, here⟩, rest, owed⟩ := v
  obtain rfl : rest = .drowsy := drowsy
  cases works with
  | take isOpen a waits => exact Or.inl ⟨a, waits, rfl, rfl⟩
  | park isOpen empty =>
      have isOpen : before.closed = false := isOpen
      have empty : before.pending = none := empty
      simp [Due, isOpen, empty] at due
  | miss isOpen empty =>
      have isOpen : before.closed = false := isOpen
      have empty : before.pending = none := empty
      simp [Due, isOpen, empty] at due
  | elapse ended calm =>
      refine Or.inr ⟨rfl, rfl, ?_⟩
      simp only [distance, stage]
      split <;> omega
  | rearm ended isOpen disturbed =>
      have isOpen : before.closed = false := isOpen
      refine Or.inr ⟨rfl, rfl, ?_⟩
      simp [distance, stage, isOpen, disturbed]
  | _ =>
      refine Or.inr ⟨rfl, rfl, ?_⟩
      simp [distance, stage]

/-- While there is something to do, every step serves it or comes closer to that. -/
theorem Alert.progress (alert : v.Alert) (due : v.Due) (move : Move quiet v v') :
    (∃ a, v.slot.pending = some a ∧ Served (some a) v') ∨
    (v'.slot.pending = v.slot.pending ∧ v'.slot.closed = v.slot.closed ∧ v'.distance < v.distance) := by
  cases move with
  | wake n owes =>
      right
      rcases wake_cases { v with owed := n } with ⟨asleep, value⟩ | ⟨elsewhere, value⟩
      · have asleep : v.rest = .asleep := asleep
        have parked : v.phase = .parked := alert.parked (by simp [asleep])
        rw [value]
        refine ⟨rfl, rfl, ?_⟩
        simp only [distance, stage, parked, asleep, owes]
        omega
      · rw [value]
        refine ⟨rfl, rfl, ?_⟩
        show v.stage + n < v.stage + v.owed
        omega
  | wait parked drowsy unpermitted =>
      refine Or.inr ⟨rfl, rfl, ?_⟩
      simp [distance, stage, parked, drowsy]
  | rise parked called =>
      refine Or.inr ⟨rfl, rfl, ?_⟩
      simp [distance, stage, parked, called]
  | work now drowsy work => exact distance_work due drowsy (works_of_step work)

theorem Alert.drowsy (alert : v.Alert) (elsewhere : v.phase ≠ .parked) : v.rest = .drowsy := by
  by_cases drowsy : v.rest = .drowsy
  · exact drowsy
  · exact absurd (alert.parked drowsy) elsewhere

/-- While there is something to do, something can be done. -/
theorem Alert.enabled (alert : v.Alert) (due : v.Due) (going : v.phase ≠ .stopped) :
    ∃ v', Move quiet v v' := by
  have worker : ∀ now, v.rest = .drowsy → (Coalescer.step quiet now v.phase v.slot).isSome = true →
      ∃ v', Move quiet v v' := by
    intro now drowsy can
    obtain ⟨⟨phase, slot⟩, work⟩ := Option.isSome_iff_exists.mp can
    exact ⟨_, .work now drowsy work⟩
  cases here : v.phase with
  | parked =>
      have roused : v.Roused := alert.roused here due
      cases rest : v.rest with
      | called => exact ⟨_, .rise here rest⟩
      | drowsy =>
          cases permit : v.slot.permit with
          | true => exact worker 0 rest (by simp [here, Coalescer.step, permit])
          | false => exact ⟨_, .wait here rest permit⟩
      | asleep =>
          -- the permit is gone and the wait goes on, so a call still owes a wake-up
          have unpermitted : v.slot.permit = false := alert.unpermitted rest
          simp only [Roused, unpermitted, rest, Bool.false_eq_true, reduceCtorEq, false_or] at roused
          obtain ⟨n, owes⟩ := Nat.exists_eq_add_of_le' roused
          exact ⟨_, .wake n owes⟩
  | settling seen stop =>
      refine worker stop (alert.drowsy (by simp [here])) ?_
      simp [here, Coalescer.step]
  | stopped => exact absurd here going
  | looking => exact worker 0 (alert.drowsy (by simp [here])) (by simp [here, Coalescer.step])
  | taking => exact worker 0 (alert.drowsy (by simp [here])) (by simp [here, Coalescer.step])
  | running a => exact worker 0 (alert.drowsy (by simp [here])) (by simp [here, Coalescer.step])

/-- What there is to do is done. -/
theorem Alert.inevitable (alert : v.Alert) (due : v.Due) : Inevitable quiet (Served v.slot.pending) v := by
  induction left : v.distance using Nat.strongRecOn generalizing v with
  | ind n ih =>
      by_cases stopped : v.phase = .stopped
      · have empty : v.slot.pending = none := alert.emptied (alert.stopped stopped)
        rw [empty]
        exact .now stopped
      · refine .later (alert.enabled due stopped) ?_
        intro v' move
        rcases alert.progress due move with ⟨a, waits, served⟩ | ⟨pending, closed, closer⟩
        · rw [waits]
          exact .now served
        · have due' : v'.Due := by
            rw [Due, pending, closed]
            exact due
          have later := ih v'.distance (left ▸ closer) (alert.move move) due' rfl
          rw [pending] at later
          exact later

/-! ## Whole calls -/

/-- The state of a worker that does not wait in a system of whole calls. -/
def ofSystem (s : System α) : Vigil α := ⟨s, .drowsy, 0⟩

/-- A whole call is refused and leaves no trace, or it leaves a permit. -/
theorem perform_cases (c : Call α) (slot : Slot α) :
    c.perform slot = (some false, slot) ∨
    (wakes (c.perform slot).1 = true ∧ (c.perform slot).2.permit = true) := by
  cases c with
  | close => exact Or.inr ⟨rfl, rfl⟩
  | _ =>
      cases closed : slot.closed with
      | true => exact Or.inl (Call.perform_of_closed closed rfl)
      | false =>
          right
          simp [Call.perform, Slot.submit, Slot.update, closed, wakes]

/-- A whole call changes the slot and wakes at once. -/
theorem steps_call (s : System α) (c : Call α) :
    Steps quiet (ofSystem s) (ofSystem ⟨(c.perform s.slot).2, s.phase⟩) := by
  have changed : Step quiet (ofSystem s) ((ofSystem s).change c) := .call _ c
  rcases perform_cases c s.slot with refused | ⟨accepted, permit⟩
  · have same : (ofSystem s).change c = ofSystem ⟨(c.perform s.slot).2, s.phase⟩ := by
      simp [change, ofSystem, refused, wakes]
    rw [← same]
    exact .single changed
  · have owes : ((ofSystem s).change c).owed = 0 + 1 := by simp [change, ofSystem, accepted]
    have woken : Step quiet ((ofSystem s).change c) (Vigil.wake { (ofSystem s).change c with owed := 0 }) :=
      .move (.wake 0 owes)
    rcases wake_cases { (ofSystem s).change c with owed := 0 } with ⟨asleep, -⟩ | ⟨-, value⟩
    · cases asleep
    · have whole : Vigil.wake { (ofSystem s).change c with owed := 0 } =
          ofSystem ⟨(c.perform s.slot).2, s.phase⟩ := by
        rw [value]
        simp only [change, ofSystem, ← permit]
      rw [whole] at woken
      exact .tail (.single changed) woken

/-- Every interleaving of whole calls is one of their parts. -/
theorem steps_of_whole {s : System α} {events : List (Happening α)}
    (steps : System.Steps quiet .start events s) : Steps quiet start (ofSystem s) := by
  induction steps with
  | refl => exact .refl
  | tail _ step ih =>
      cases step with
      | call c => exact ih.trans (steps_call _ c)
      | work now work => exact ih.tail (.move (.work now rfl work))

end Vigil

/-- **A worker never sleeps while there is something to do.**  However the parts of the calls of
any number of handles and the steps of the worker come one after the other: a worker that is
parked and has neither a permit nor a wake-up to come has an empty slot that is open.  What waits
in the slot is run with once no more calls come, and the worker of a closed slot stops, whatever
is done first of what is still to be done.  Of whole calls it holds that a parked worker without a
permit has an empty slot that is open. -/
theorem parked_idle (quiet : Nat) {α : Type} :
    (∀ {v : Vigil α}, Vigil.Steps quiet .start v →
      (v.phase = .parked → ¬ v.Roused → v.slot.pending = none ∧ v.slot.closed = false) ∧
      (∀ a, v.slot.pending = some a →
        Vigil.Inevitable quiet (fun v' => v'.phase = .running a ∧ v'.slot.pending = none) v) ∧
      (v.slot.closed = true → Vigil.Inevitable quiet (fun v' => v'.phase = .stopped) v)) ∧
    (∀ {events : List (Happening α)} {s : System α}, System.Steps quiet .start events s →
      s.phase = .parked → s.slot.permit = false → s.slot.pending = none ∧ s.slot.closed = false) := by
  have idle : ∀ {v : Vigil α}, v.Alert → v.phase = .parked → ¬ v.Roused →
      v.slot.pending = none ∧ v.slot.closed = false := by
    intro v alert parked unroused
    have nothing : ¬ v.Due := fun due => unroused (alert.roused parked due)
    simpa [Vigil.Due] using nothing
  constructor
  · intro v steps
    have alert : v.Alert := steps.alert
    refine ⟨idle alert, ?_, ?_⟩
    · intro a waits
      have served : Vigil.Inevitable quiet (Vigil.Served v.slot.pending) v :=
        alert.inevitable (Or.inl (by simp [waits]))
      rw [waits] at served
      exact served
    · intro closed
      have served : Vigil.Inevitable quiet (Vigil.Served v.slot.pending) v :=
        alert.inevitable (Or.inr closed)
      rw [alert.emptied closed] at served
      exact served
  · intro events s steps parked unpermitted
    have alert : (Vigil.ofSystem s).Alert := (Vigil.steps_of_whole steps).alert
    refine idle alert parked ?_
    simp [Vigil.Roused, Vigil.ofSystem, unpermitted]

/-! ## Poles -/

/-- A worker that has found nothing and waits. -/
def resting : Vigil Nat := ⟨⟨.empty, .parked⟩, .asleep, 0⟩

/-- A worker that waits although there is a payload: it came behind the look and ahead of the
wait, and its wake-up is still to come. -/
def racing : Vigil Nat := ⟨⟨⟨some 7, 1, false, false⟩, .parked⟩, .asleep, 1⟩

theorem parked_idle_race :
    Vigil.Steps 150 .start resting ∧ resting.slot.pending = none ∧ resting.slot.closed = false ∧
    Vigil.Steps 150 .start racing ∧
    Vigil.Inevitable 150 (fun v => v.phase = .running 7 ∧ v.slot.pending = none) racing := by
  have looked : Vigil.Steps 150 (.start : Vigil Nat) ⟨⟨.empty, .parked⟩, .drowsy, 0⟩ :=
    .single (.move (.work 0 rfl rfl))
  have rested : Vigil.Steps 150 .start resting := looked.tail (.move (.wait rfl rfl rfl))
  have raced : Vigil.Steps 150 .start racing :=
    (looked.tail (.call _ (.submit 7))).tail (.move (.wait rfl rfl rfl))
  obtain ⟨vigils, -⟩ := parked_idle 150 (α := Nat)
  have unroused : ¬ resting.Roused := by simp [Vigil.Roused, resting, Slot.empty]
  obtain ⟨empty, isOpen⟩ := (vigils rested).1 rfl unroused
  exact ⟨rested, empty, isOpen, raced, (vigils raced).2.1 7 rfl⟩

end LiveMarkup.Coalescer
