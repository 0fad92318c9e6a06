import LiveMarkup.Proofs.Coalescer.Interleaving
import LiveMarkup.Proofs.Coalescer.Ledger
/-
# LiveMarkup.Proofs.Coalescer.Punctuality -- when runs happen

A window is armed again from the end of the one before, not from what disturbed it, so the
time of a run is bounded only by what is known of the window that is on.  `Placed` says it: a
window that is not disturbed ends one to two quiet windows behind what was accepted last, and
one that is disturbed ends less than one behind it, so that the next still ends in time.

`Agrees` ties slot, worker and ledger.  `Kept.work` is the step of the worker, `Agrees.later`
the passing of time and `Agrees.perform` what a producer does; the last asks for a window that
was not begun at that instant (`Calm`), which holds because producers come first.  Under
`Simulation` the three are put together along a schedule: the worker's fuel is enough because
`left` falls with each step, and the fuel of the alarms because each is later than the one
before.

What the ledger tells is carried along with what is still to come (`Timely`), so that nothing of the
schedule is left when it ends: every action was noted at its time, in its turn, and the script was
not given up before (`Schedule.ledger_told`).
-/

namespace LiveMarkup.Coalescer

set_option autoImplicit false

section Agreement

/-! ## The slot and the ledger -/

/-- A slot holds something exactly when something was accepted last, less than two quiet windows
ago. -/
structure Kept (quiet now : Nat) (entries : List Entry) (slot : Slot (List String)) : Prop where
  orderly : Orderly quiet entries
  closed : slot.closed = true → standing entries = none
  empty : standing entries = none → slot.pending = none
  waits : ∀ t i, standing entries = some (t, i) → t ≤ now ∧ now < t + 2 * quiet ∧
    ∃ payload, slot.pending = some payload ∧ payload.getLast? = some i

variable {quiet now : Nat} {entries : List Entry} {slot slot' : Slot (List String)}

theorem Kept.isOpen (kept : Kept quiet now entries slot) {last : Nat × String}
    (stands : standing entries = some last) : slot.closed = false := by
  rw [Bool.eq_false_iff]
  intro closed
  rw [kept.closed closed] at stands
  cases stands

theorem Kept.stands (kept : Kept quiet now entries slot) {payload : List String}
    (waits : slot.pending = some payload) :
    slot.closed = false ∧ ∃ t i, standing entries = some (t, i) ∧ t ≤ now ∧ now < t + 2 * quiet ∧
      payload.getLast? = some i := by
  cases stands : standing entries with
  | none =>
      rw [kept.empty stands] at waits
      cases waits
  | some last =>
      obtain ⟨t, i⟩ := last
      obtain ⟨early, soon, payload', held, delivered⟩ := kept.waits t i stands
      obtain rfl : payload = payload' := Option.some.inj (waits.symm.trans held)
      exact ⟨kept.isOpen stands, t, i, rfl, early, soon, delivered⟩

/-- An item that is accepted is the last one of what waits. -/
theorem Kept.accept (kept : Kept quiet now entries slot) (lasts : 0 < quiet)
    (isOpen : slot.closed = false) {item : String} {f : Option (List String) → List String}
    (delivers : (f slot.pending).getLast? = some item) :
    Kept quiet now (entries ++ [.accepted now item]) (slot.update f).2 := by
  have updated : (slot.update f).2 =
      { slot with pending := some (f slot.pending), generation := slot.generation + 1, permit := true } := by
    simp [Slot.update, isOpen]
  rw [updated]
  constructor
  · apply kept.orderly.snoc_other rfl
    intro t i stands
    exact (kept.waits t i stands).2.1
  · intro closed
    have closed : slot.closed = true := closed
    rw [isOpen] at closed
    cases closed
  · intro none
    simp at none
  · intro t i stands
    rw [standing_accepted] at stands
    obtain ⟨rfl, rfl⟩ := Prod.mk.inj (Option.some.inj stands)
    exact ⟨Nat.le_refl _, by omega, _, rfl, delivers⟩

theorem Kept.close (kept : Kept quiet now entries slot) :
    Kept quiet now (entries ++ [.closed now]) slot.close := by
  constructor
  · apply kept.orderly.snoc_other rfl
    intro t i stands
    exact (kept.waits t i stands).2.1
  · simp
  · intro _
    rfl
  · simp

/-- An action leaves no trace, has an item accepted as the last one of what waits, or closes the
slot. -/
theorem Action.perform_cases (a : Action) (slot : Slot (List String)) (now : Nat) :
    (a.noted now (a.perform slot).1 = [] ∧ (a.perform slot).2 = slot) ∨
    (∃ item f, a.noted now (a.perform slot).1 = [.accepted now item] ∧ slot.closed = false ∧
      (a.perform slot).2 = (slot.update f).2 ∧ ∀ pending, (f pending).getLast? = some item) ∨
    (a.noted now (a.perform slot).1 = [.closed now] ∧ (a.perform slot).2 = slot.close) := by
  cases a with
  | submit item =>
      cases closed : slot.closed with
      | true =>
          left
          simp [perform, Slot.submit, Slot.update, closed, noted]
      | false =>
          refine Or.inr (Or.inl ⟨item, fun _ => [item], ?_, rfl, rfl, by simp⟩)
          simp [perform, Slot.submit, Slot.update, closed, noted]
  | update item =>
      cases closed : slot.closed with
      | true =>
          left
          simp [perform, Slot.update, closed, noted]
      | false =>
          refine Or.inr (Or.inl ⟨item, append item, ?_, rfl, rfl, by simp [append]⟩)
          simp [perform, Slot.update, closed, noted]
  | close => exact Or.inr (Or.inr ⟨rfl, rfl⟩)
  | askClosed => exact Or.inl ⟨rfl, rfl⟩

/-- Whatever is done with the slot, it agrees with what is noted of it. -/
theorem Kept.perform (kept : Kept quiet now entries slot) (lasts : 0 < quiet) (a : Action) :
    Kept quiet now (entries ++ a.noted now (a.perform slot).1) (a.perform slot).2 := by
  rcases a.perform_cases slot now with ⟨noted, same⟩ | ⟨item, f, noted, isOpen, updated, delivers⟩ |
    ⟨noted, closes⟩
  · rw [noted, same, List.append_nil]
    exact kept
  · rw [noted, updated]
    exact kept.accept lasts isOpen (delivers slot.pending)
  · rw [noted, closes]
    exact kept.close

/-- What is noted of an action is what it makes of the slot as it stands. -/
theorem noted_perform (a : Action) (slot : Slot (List String)) (now : Nat) :
    a.noted now (a.perform slot).1 = a.entries now (!slot.closed) ∧
      (!(a.perform slot).2.closed) = a.leavesOpen (!slot.closed) := by
  cases a with
  | submit item =>
      cases closed : slot.closed <;>
        simp [Action.perform, Slot.submit, Slot.update, closed, Action.noted, Action.entries, Action.leavesOpen]
  | update item =>
      cases closed : slot.closed <;>
        simp [Action.perform, Slot.update, closed, Action.noted, Action.entries, Action.leavesOpen]
  | close => exact ⟨rfl, rfl⟩
  | askClosed => exact ⟨rfl, rfl⟩

theorem noted_performAll (as : List Action) (slot : Slot (List String)) (now : Nat) :
    notedAll now as (performAll slot as).1 = entriesAll now (!slot.closed) as ∧
      (!(performAll slot as).2.closed) = leaveOpen (!slot.closed) as := by
  induction as generalizing slot with
  | nil => exact ⟨rfl, rfl⟩
  | cons a as ih =>
      obtain ⟨noted, leaves⟩ := noted_perform a slot now
      obtain ⟨others, leave⟩ := ih (a.perform slot).2
      rw [leaves] at others leave
      constructor
      · simp only [performAll, notedAll, entriesAll, noted, others]
      · exact leave

theorem Kept.performAll (kept : Kept quiet now entries slot) (lasts : 0 < quiet) (as : List Action) :
    Kept quiet now (entries ++ notedAll now as (performAll slot as).1) (performAll slot as).2 := by
  induction as generalizing entries slot with
  | nil => simpa [Coalescer.performAll, notedAll] using kept
  | cons a as ih =>
      have rest := ih (kept.perform lasts a)
      rw [List.append_assoc] at rest
      exact rest

/-! ## The worker and the ledger -/

/-- Where the worker stands, by what was accepted last.  A worker that could go on at once sees
what was accepted at this instant; a quiet window ends in time for what was accepted last, which
it has seen or which has disturbed it. -/
def Placed (quiet now : Nat) (entries : List Entry) (slot : Slot (List String)) :
    Phase (List String) → Prop
  | .looking => ∀ t i, standing entries = some (t, i) → t = now
  | .parked => ∀ t i, standing entries = some (t, i) → t = now ∧ slot.permit = true
  | .settling seen stop => now ≤ stop ∧ stop ≤ now + quiet ∧ seen ≤ slot.generation ∧
      (slot.closed = false → ∃ t i, standing entries = some (t, i) ∧
        (slot.generation = seen → t + quiet ≤ stop ∧ stop < t + 2 * quiet) ∧
        (slot.generation ≠ seen → stop < t + quiet))
  | .taking => slot.closed = false → ∃ t i, standing entries = some (t, i) ∧ t + quiet ≤ now
  | .running _ => False
  | .stopped => slot.closed = true

/-- The slot and the worker agree with the ledger; of a run that is about to be made the ledger
would have the entry. -/
def Agrees (quiet now : Nat) (entries : List Entry) (slot : Slot (List String)) :
    Phase (List String) → Prop
  | .running payload => Kept quiet now (entries ++ [.run now payload]) slot
  | phase => Kept quiet now entries slot ∧ Placed quiet now entries slot phase

theorem agrees_iff {phase : Phase (List String)} (idle : ∀ payload, phase ≠ .running payload) :
    Agrees quiet now entries slot phase ↔
      Kept quiet now entries slot ∧ Placed quiet now entries slot phase := by
  cases phase with
  | running payload => exact absurd rfl (idle payload)
  | _ => exact Iff.rfl

/-- A step of the worker that is no run keeps the agreement. -/
theorem Kept.work (kept : Kept quiet now entries slot) (lasts : 0 < quiet) {phase phase' : Phase (List String)}
    (placed : Placed quiet now entries slot phase) (works : Works quiet now slot phase phase' slot') :
    Agrees quiet now entries slot' phase' := by
  cases works with
  | stop closed => exact ⟨kept, closed⟩
  | settle isOpen payload waits _ =>
      obtain ⟨-, t, i, stands, -⟩ := kept.stands waits
      obtain rfl : t = now := placed t i stands
      refine ⟨kept, by omega, by omega, Nat.le_refl _, ?_⟩
      intro _
      refine ⟨t, i, stands, ?_, ?_⟩
      · intro _
        omega
      · intro differs
        exact absurd rfl differs
  | hurry _ _ _ none => omega
  | park _ empty =>
      refine ⟨kept, ?_⟩
      intro t i stands
      obtain ⟨-, -, payload, held, -⟩ := kept.waits t i stands
      rw [empty] at held
      cases held
  | resume permit =>
      refine ⟨⟨kept.orderly, kept.closed, kept.empty, kept.waits⟩, ?_⟩
      intro t i stands
      exact (placed t i stands).1
  | elapse ended calm =>
      obtain ⟨-, -, -, window⟩ := placed
      refine ⟨kept, ?_⟩
      intro isOpen
      obtain ⟨t, i, stands, undisturbed, -⟩ := window isOpen
      rw [isOpen] at calm
      have same := calm.resolve_left (by decide)
      have due := (undisturbed same).1
      exact ⟨t, i, stands, by omega⟩
  | rearm ended isOpen disturbed =>
      obtain ⟨early, -, -, window⟩ := placed
      obtain ⟨t, i, stands, -, behind⟩ := window isOpen
      have late := behind disturbed
      obtain ⟨past, -, -⟩ := kept.waits t i stands
      refine ⟨kept, by omega, by omega, Nat.le_refl _, ?_⟩
      intro _
      refine ⟨t, i, stands, ?_, ?_⟩
      · intro _
        omega
      · intro differs
        exact absurd rfl differs
  | give closed => exact ⟨kept, closed⟩
  | take isOpen payload waits =>
      obtain ⟨-, t, i, stands, -, soon, delivered⟩ := kept.stands waits
      obtain ⟨t', i', stands', due⟩ := placed isOpen
      rw [stands] at stands'
      obtain ⟨rfl, rfl⟩ := Prod.mk.inj (Option.some.inj stands')
      show Kept quiet now (entries ++ [.run now payload]) { slot with pending := none }
      constructor
      · exact kept.orderly.snoc_run stands due soon delivered
      · simp
      · intro _
        rfl
      · simp
  | miss isOpen empty =>
      obtain ⟨t, i, stands, -⟩ := placed isOpen
      obtain ⟨-, -, payload, held, -⟩ := kept.waits t i stands
      rw [empty] at held
      cases held
  | finish payload => exact placed.elim

/-- Time passes while the worker waits, up to the end of its window. -/
theorem Agrees.later {phase : Phase (List String)} (agrees : Agrees quiet now entries slot phase)
    (waits : step quiet now phase slot = none) {now' : Nat} (onward : now ≤ now')
    (inTime : ∀ seen stop, phase = .settling seen stop → now' ≤ stop) :
    Agrees quiet now' entries slot phase := by
  cases phase with
  | looking => simp [step] at waits
  | taking => simp [step] at waits
  | running payload => simp [step] at waits
  | parked =>
      obtain ⟨kept, placed⟩ := agrees
      have unpermitted : slot.permit = false := by
        rw [Bool.eq_false_iff]
        intro permit
        simp [step, permit] at waits
      have none : ∀ t i, standing entries ≠ some (t, i) := by
        intro t i stands
        have permit := (placed t i stands).2
        rw [unpermitted] at permit
        cases permit
      exact ⟨⟨kept.orderly, kept.closed, kept.empty, fun t i stands => absurd stands (none t i)⟩,
        fun t i stands => absurd stands (none t i)⟩
  | settling seen stop =>
      obtain ⟨kept, early, short, seenBefore, window⟩ := agrees
      have inTime : now' ≤ stop := inTime seen stop rfl
      refine ⟨⟨kept.orderly, kept.closed, kept.empty, ?_⟩, inTime, by omega, seenBefore, window⟩
      intro t i stands
      obtain ⟨past, -, held⟩ := kept.waits t i stands
      refine ⟨by omega, ?_, held⟩
      obtain ⟨t', i', stands', undisturbed, disturbed⟩ := window (kept.isOpen stands)
      rw [stands] at stands'
      obtain ⟨rfl, rfl⟩ := Prod.mk.inj (Option.some.inj stands')
      by_cases same : slot.generation = seen
      · have := (undisturbed same).2
        omega
      · have := disturbed same
        omega
  | stopped =>
      obtain ⟨kept, closed⟩ := agrees
      refine ⟨⟨kept.orderly, kept.closed, kept.empty, ?_⟩, closed⟩
      intro t i stands
      rw [kept.closed closed] at stands
      cases stands

/-- The worker has not begun a window at this instant, nor is it about to run. -/
def Calm (quiet now : Nat) : Phase (List String) → Prop
  | .settling _ stop => stop < now + quiet
  | .taking | .running _ => False
  | _ => True

theorem Placed.perform {phase : Phase (List String)} (placed : Placed quiet now entries slot phase)
    (calm : Calm quiet now phase) (a : Action) :
    Placed quiet now (entries ++ a.noted now (a.perform slot).1) (a.perform slot).2 phase := by
  rcases a.perform_cases slot now with ⟨noted, same⟩ | ⟨item, f, noted, isOpen, updated, -⟩ | ⟨noted, closes⟩
  · rw [noted, same, List.append_nil]
    exact placed
  · have permit : (slot.update f).2.permit = true := by simp [Slot.update, isOpen]
    have generation : (slot.update f).2.generation = slot.generation + 1 := by simp [Slot.update, isOpen]
    have atOnce : ∀ t i, standing (entries ++ [.accepted now item]) = some (t, i) → t = now := by
      intro t i stands
      rw [standing_accepted] at stands
      obtain ⟨rfl, -⟩ := Prod.mk.inj (Option.some.inj stands)
      rfl
    rw [noted, updated]
    cases phase with
    | looking => exact atOnce
    | parked => exact fun t i stands => ⟨atOnce t i stands, permit⟩
    | settling seen stop =>
        obtain ⟨early, short, seenBefore, -⟩ := placed
        have begun : stop < now + quiet := calm
        refine ⟨early, short, by omega, ?_⟩
        intro _
        refine ⟨now, item, standing_accepted now item, ?_, ?_⟩
        · intro same
          omega
        · intro _
          exact begun
    | stopped =>
        have closed : slot.closed = true := placed
        rw [isOpen] at closed
        cases closed
    | taking => exact calm.elim
    | running payload => exact calm.elim
  · have none : ∀ t i, standing (entries ++ [.closed now]) ≠ some (t, i) := by
      intro t i stands
      rw [standing_closed] at stands
      cases stands
    rw [noted, closes]
    cases phase with
    | looking => exact fun t i stands => absurd stands (none t i)
    | parked => exact fun t i stands => absurd stands (none t i)
    | settling seen stop =>
        obtain ⟨early, short, seenBefore, -⟩ := placed
        refine ⟨early, short, seenBefore, ?_⟩
        intro isOpen
        cases isOpen
    | stopped => rfl
    | taking => exact calm.elim
    | running payload => exact calm.elim

/-- What producers do at an instant comes ahead of what the worker does then. -/
theorem Agrees.perform {phase : Phase (List String)} (agrees : Agrees quiet now entries slot phase)
    (lasts : 0 < quiet) (calm : Calm quiet now phase) (a : Action) :
    Agrees quiet now (entries ++ a.noted now (a.perform slot).1) (a.perform slot).2 phase := by
  have idle : ∀ payload, phase ≠ .running payload := by
    intro payload runs
    rw [runs] at calm
    exact calm
  rw [agrees_iff idle] at agrees ⊢
  exact ⟨agrees.1.perform lasts a, agrees.2.perform calm a⟩

end Agreement

/-! ## Simulations -/

namespace Simulation

variable {c : Schedule} {s s' : Simulation}

/-- How many actions have been done. -/
def done (s : Simulation) : Nat := s.events.countP (!·.isRun)

/-- What is still to come at some moment. -/
def outlook (c : Schedule) (s : Simulation) : Outlook :=
  ⟨c.outlook.actions.drop s.done, c.duringRuns.drop s.runs, !s.slot.closed⟩

/-- A simulation agrees with its ledger, which tells all that came to pass. -/
structure Timely (c : Schedule) (s : Simulation) : Prop where
  counted : s.runs = s.events.countP (·.isRun)
  agrees : Agrees c.quiet s.now (c.entries s.events) s.slot s.phase
  told : Told c.outlook (c.entries s.events) (s.outlook c)
  dated : Dated s.now (c.entries s.events)

/-- A step makes a run with what is done during it, or is one of the other steps of the worker. -/
theorem step?_cases (work : s.step? c = some s') :
    (∃ payload, s.phase = .running payload ∧
      s' = { s with
        slot := (performAll s.slot (c.duringRuns.getD s.runs [])).2
        phase := .looking
        runs := s.runs + 1
        events := s.events ++
          [.run payload s.now (performAll s.slot (c.duringRuns.getD s.runs [])).1] }) ∨
    ((∀ payload, s.phase ≠ .running payload) ∧
      Works c.quiet s.now s.slot s.phase s'.phase s'.slot ∧
      s' = { s with phase := s'.phase, slot := s'.slot }) := by
  unfold step? at work
  split at work
  · rename_i payload runs
    exact Or.inl ⟨payload, runs, (Option.some.inj work).symm⟩
  · rename_i idle
    obtain ⟨⟨phase, slot⟩, step, rfl⟩ := Option.map_eq_some_iff.mp work
    exact Or.inr ⟨idle, works_of_step step, rfl⟩

theorem step?_now (work : s.step? c = some s') : s'.now = s.now ∧ s'.done = s.done := by
  rcases step?_cases work with ⟨payload, -, rfl⟩ | ⟨-, -, same⟩
  · exact ⟨rfl, by simp [done, Event.isRun]⟩
  · rw [same]
    exact ⟨rfl, rfl⟩

/-- The actions of the run that is next. -/
theorem headD_duringRuns (c : Schedule) (s : Simulation) :
    (s.outlook c).duringRuns.headD [] = c.duringRuns.getD s.runs [] := by
  simp [outlook, List.headD_eq_head?_getD, List.getD_eq_getElem?_getD]

theorem closed_of_works {quiet now : Nat} {phase phase' : Phase (List String)} {slot slot' : Slot (List String)}
    (works : Works quiet now slot phase phase' slot') : slot'.closed = slot.closed := by
  cases works <;> rfl

theorem Timely.work (timely : Timely c s) (lasts : 0 < c.quiet) (work : s.step? c = some s') :
    Timely c s' := by
  rcases step?_cases work with ⟨payload, runs, rfl⟩ | ⟨idle, works, same⟩
  · have kept : Kept c.quiet s.now (c.entries s.events ++ [.run s.now payload]) s.slot := by
      have agrees := timely.agrees
      rw [runs] at agrees
      exact agrees
    have during := kept.performAll lasts (c.duringRuns.getD s.runs [])
    have longer : c.entries (s.events ++
          [.run payload s.now (performAll s.slot (c.duringRuns.getD s.runs [])).1]) =
        (c.entries s.events ++ [.run s.now payload]) ++
          notedAll s.now (c.duringRuns.getD s.runs []) (performAll s.slot (c.duringRuns.getD s.runs [])).1 := by
      unfold Schedule.entries
      rw [entriesOf_snoc, ← timely.counted]
      simp [entriesOf, List.headD_eq_head?_getD, List.getD_eq_getElem?_getD]
    obtain ⟨noted, leaves⟩ := noted_performAll (c.duringRuns.getD s.runs []) s.slot s.now
    have after : outlook c { s with
        slot := (performAll s.slot (c.duringRuns.getD s.runs [])).2
        phase := .looking
        runs := s.runs + 1
        events := s.events ++
          [.run payload s.now (performAll s.slot (c.duringRuns.getD s.runs [])).1] } =
        ⟨(s.outlook c).actions, (s.outlook c).duringRuns.tail,
          leaveOpen (s.outlook c).isOpen ((s.outlook c).duringRuns.headD [])⟩ := by
      have isOpen : (s.outlook c).isOpen = !s.slot.closed := rfl
      rw [headD_duringRuns, isOpen, ← leaves]
      simp [outlook, done, Event.isRun]
    refine ⟨by simp [timely.counted, Event.isRun], ⟨?_, ?_⟩, ?_, ?_⟩
    · exact longer ▸ during
    · intro t i stands
      exact standing_behind_run (fun e member => notedAll_time member) (longer ▸ stands)
    · rw [after, longer, noted, ← headD_duringRuns, List.append_assoc]
      exact timely.told.run s.now payload
    · rw [longer]
      exact (timely.dated.append (by simp [Entry.time])).append fun e member => notedAll_time member
  · obtain ⟨kept, placed⟩ := (agrees_iff idle).mp timely.agrees
    have told := timely.told
    rw [same]
    refine ⟨timely.counted, kept.work lasts placed works, ?_, timely.dated⟩
    unfold outlook at told ⊢
    rw [closed_of_works works]
    exact told

/-- How many steps are left to the worker at one instant, at most. -/
def left (s : Simulation) : Nat :=
  match s.phase with
  | .looking => if s.slot.permit then 4 else 2
  | .parked => if s.slot.permit then 3 else 0
  | .settling _ stop => if stop ≤ s.now then 7 else 0
  | .taking => 6
  | .running _ => 5
  | .stopped => 0

theorem left_le (s : Simulation) : s.left ≤ 7 := by
  unfold left
  split
  · split <;> omega
  · split <;> omega
  · split <;> omega
  · omega
  · omega
  · omega

theorem left_step (lasts : 0 < c.quiet) (work : s.step? c = some s') : s'.left < s.left := by
  rcases step?_cases work with ⟨payload, runs, rfl⟩ | ⟨-, works, same⟩
  · simp only [left, runs]
    split <;> omega
  · obtain ⟨slot, phase, now, runs, events⟩ := s
    obtain ⟨slot', phase', now', runs', events'⟩ := s'
    obtain ⟨-, -, rfl, -, -⟩ := Simulation.mk.inj same
    have ahead : ¬ now' + c.quiet ≤ now' := by omega
    cases works with
    | settle _ _ _ _ =>
        simp only [left, if_neg ahead]
        split <;> omega
    | hurry _ _ _ none => omega
    | park _ _ =>
        simp only [left]
        split <;> omega
    | resume permit =>
        have permit : slot.permit = true := permit
        simp [left, permit]
    | elapse ended _ =>
        have ended : _ ≤ now' := ended
        simp only [left, if_pos ended]
        omega
    | rearm ended _ _ =>
        have ended : _ ≤ now' := ended
        simp only [left, if_pos ended, if_neg ahead]
        omega
    | give _ => simp [left]
    | take _ _ _ => simp [left]
    | _ =>
        simp only [left]
        split <;> omega

/-- The worker goes on until it has to wait. -/
theorem settle_spec (lasts : 0 < c.quiet) (timely : Timely c s) (fuel : Nat) (enough : s.left ≤ fuel) :
    Timely c (settle c fuel s) ∧ (settle c fuel s).step? c = none ∧ (settle c fuel s).now = s.now ∧
      (settle c fuel s).done = s.done := by
  induction fuel generalizing s with
  | zero =>
      refine ⟨timely, ?_, rfl, rfl⟩
      cases work : s.step? c with
      | none => exact work
      | some s' =>
          have less := left_step lasts work
          omega
  | succ fuel ih =>
      cases work : s.step? c with
      | none =>
          have same : settle c (fuel + 1) s = s := by simp only [settle, work]
          rw [same]
          exact ⟨timely, work, rfl, rfl⟩
      | some s' =>
          have same : settle c (fuel + 1) s = settle c fuel s' := by simp only [settle, work]
          have less := left_step lasts work
          obtain ⟨now, done⟩ := step?_now work
          have rest := ih (timely.work lasts work) (by omega)
          rw [same, ← now, ← done]
          exact rest

theorem bound_enough (c : Schedule) (s : Simulation) : s.left ≤ stepBound c := by
  have few := left_le s
  unfold stepBound
  omega

/-- A worker that waits for the end of a window has it ahead. -/
theorem ahead_of_alarm (waits : s.step? c = none) {stop : Nat} (alarm : s.alarm? = some stop) :
    s.now < stop := by
  simp only [alarm?] at alarm
  split at alarm
  · rename_i settling
    obtain rfl := Option.some.inj alarm
    by_contra ended
    have ended : _ ≤ s.now := Nat.le_of_not_lt ended
    simp only [step?, settling, step, if_pos ended, Option.map_some] at waits
    cases waits
  · cases alarm

theorem idle_of_waits (waits : s.step? c = none) (payload : List String) : s.phase ≠ .running payload := by
  intro runs
  simp [step?, runs] at waits

theorem step_of_waits (waits : s.step? c = none) : step c.quiet s.now s.phase s.slot = none := by
  cases here : s.phase with
  | running payload => exact absurd here (idle_of_waits waits payload)
  | _ => simpa [step?, here] using waits

/-- The clock may go on to any time up to the end of the window. -/
theorem Timely.later (timely : Timely c s) (waits : s.step? c = none) {now : Nat} (onward : s.now ≤ now)
    (inTime : ∀ stop, s.alarm? = some stop → now ≤ stop) : Timely c { s with now } := by
  refine ⟨timely.counted, timely.agrees.later (step_of_waits waits) onward ?_, timely.told,
    timely.dated.later onward⟩
  intro seen stop settling
  apply inTime
  simp only [alarm?, settling]

/-- Time passes up to an instant, and all windows that end earlier are dealt with. -/
theorem passUntil_spec (lasts : 0 < c.quiet) (timely : Timely c s) (waits : s.step? c = none)
    (time fuel : Nat) (enough : time ≤ s.now + fuel) :
    Timely c (passUntil c time fuel s) ∧ (passUntil c time fuel s).step? c = none ∧
      (∀ stop, (passUntil c time fuel s).alarm? = some stop → time ≤ stop) ∧
      (passUntil c time fuel s).now ≤ max s.now (time - 1) ∧
      (passUntil c time fuel s).done = s.done := by
  induction fuel generalizing s with
  | zero =>
      refine ⟨timely, waits, ?_, Nat.le_max_left _ _, rfl⟩
      intro stop alarm
      have ahead := ahead_of_alarm waits alarm
      omega
  | succ fuel ih =>
      cases alarm : s.alarm? with
      | none =>
          have same : passUntil c time (fuel + 1) s = s := by simp only [passUntil, alarm]
          rw [same]
          refine ⟨timely, waits, ?_, Nat.le_max_left _ _, rfl⟩
          intro stop other
          rw [alarm] at other
          cases other
      | some stop =>
          by_cases early : stop < time
          · have same : passUntil c time (fuel + 1) s =
                passUntil c time fuel (settle c (stepBound c) { s with now := stop }) := by
              simp only [passUntil, alarm, if_pos early]
            have ahead : s.now < stop := ahead_of_alarm waits alarm
            have awoken : Timely c { s with now := stop } := by
              apply timely.later waits (Nat.le_of_lt ahead)
              intro stop' alarm'
              rw [alarm] at alarm'
              exact Nat.le_of_eq (Option.some.inj alarm')
            obtain ⟨timely', waits', now, done⟩ :=
              settle_spec lasts awoken (stepBound c) (bound_enough c _)
            have now : (settle c (stepBound c) { s with now := stop }).now = stop := now
            obtain ⟨timely'', waits'', inTime, bounded, kept⟩ := ih timely' waits' (by omega)
            rw [same]
            refine ⟨timely'', waits'', inTime, by omega, ?_⟩
            rw [kept, done]
            rfl
          · have same : passUntil c time (fuel + 1) s = s := by
              simp only [passUntil, alarm, if_neg early]
            rw [same]
            refine ⟨timely, waits, ?_, Nat.le_max_left _ _, rfl⟩
            intro stop' alarm'
            rw [alarm] at alarm'
            obtain rfl := Option.some.inj alarm'
            omega

/-- Behind the passing of time no window has begun at this instant. -/
theorem Timely.advance (timely : Timely c s) (waits : s.step? c = none) {time : Nat} (onward : s.now < time)
    (inTime : ∀ stop, s.alarm? = some stop → time ≤ stop) :
    Timely c { s with now := time } ∧ Calm c.quiet time s.phase := by
  refine ⟨timely.later waits (Nat.le_of_lt onward) inTime, ?_⟩
  have still := step_of_waits waits
  have agrees := timely.agrees
  cases here : s.phase with
  | settling seen stop =>
      rw [here] at agrees
      obtain ⟨-, -, short, -⟩ := agrees
      show stop < time + c.quiet
      omega
  | looking => trivial
  | parked => trivial
  | stopped => trivial
  | taking => simp [here, step] at still
  | running payload => simp [here, step] at still

/-- The simulation when its worker has done all that it does before an instant. -/
def before (c : Schedule) (time : Nat) (s : Simulation) : Simulation :=
  if s.now < time then passUntil c time (time + 1) (settle c (stepBound c) s) else s

/-- The simulation at an instant, ahead of what producers do then. -/
def reach (c : Schedule) (time : Nat) (s : Simulation) : Simulation :=
  { s.before c time with now := max (s.before c time).now time }

theorem reach_spec (lasts : 0 < c.quiet) (timely : Timely c s) (calm : Calm c.quiet s.now s.phase)
    (time : Nat) :
    Timely c (s.reach c time) ∧ Calm c.quiet (s.reach c time).now (s.reach c time).phase ∧
      (s.reach c time).now = max s.now time ∧ (s.reach c time).done = s.done := by
  by_cases early : s.now < time
  · have earlier : s.before c time = passUntil c time (time + 1) (settle c (stepBound c) s) := if_pos early
    obtain ⟨settled, still, now, done⟩ := settle_spec lasts timely (stepBound c) (bound_enough c s)
    obtain ⟨passed, waits, inTime, bounded, kept⟩ :=
      passUntil_spec lasts settled still time (time + 1) (by omega)
    rw [← earlier] at passed waits inTime bounded kept
    have onward : (s.before c time).now < time := by omega
    have reached : s.reach c time = { s.before c time with now := time } := by
      unfold reach
      rw [Nat.max_eq_right (Nat.le_of_lt onward)]
    obtain ⟨advanced, fresh⟩ := passed.advance waits onward inTime
    rw [reached]
    refine ⟨advanced, fresh, ?_, kept.trans done⟩
    show time = max s.now time
    omega
  · have late : s.before c time = s := if_neg early
    have reached : s.reach c time = s := by
      unfold reach
      rw [late, Nat.max_eq_left (by omega)]
    rw [reached]
    exact ⟨timely, calm, by omega, rfl⟩

/-- What a producer does is noted with the time of its place in the schedule. -/
theorem Timely.perform (timely : Timely c s) (lasts : 0 < c.quiet) (calm : Calm c.quiet s.now s.phase)
    {a : Action} {rest : List (Nat × Action)} (next : (s.outlook c).actions = (s.now, a) :: rest) :
    Timely c { s with
      slot := (a.perform s.slot).2
      events := s.events ++ [.action a (a.perform s.slot).1] } := by
  have moment : ((clock 0 (c.actions.map (·.1))).drop s.done).headD 0 = s.now := by
    have next : c.outlook.actions.drop s.done = (s.now, a) :: rest := next
    rw [← outlook_times, ← List.map_drop, next]
    rfl
  have longer : c.entries (s.events ++ [.action a (a.perform s.slot).1]) =
      c.entries s.events ++ a.noted s.now (a.perform s.slot).1 := by
    unfold Schedule.entries
    rw [entriesOf_snoc]
    simp only [entriesOf, List.append_nil]
    rw [show s.events.countP (!·.isRun) = s.done from rfl, moment]
  obtain ⟨noted, leaves⟩ := noted_perform a s.slot s.now
  refine ⟨by simp [timely.counted, Event.isRun], ?_, ?_, ?_⟩
  · show Agrees c.quiet s.now (c.entries (s.events ++ [_])) _ s.phase
    rw [longer]
    exact timely.agrees.perform lasts calm a
  · have told : Told c.outlook (c.entries s.events)
        ⟨(s.now, a) :: rest, c.duringRuns.drop s.runs, !s.slot.closed⟩ := next ▸ timely.told
    have behind : c.outlook.actions.drop (s.done + 1) = rest := by
      have next : c.outlook.actions.drop s.done = (s.now, a) :: rest := next
      rw [← List.drop_drop, next]
      rfl
    have after : outlook c { s with
        slot := (a.perform s.slot).2
        events := s.events ++ [.action a (a.perform s.slot).1] } =
        ⟨rest, c.duringRuns.drop s.runs, a.leavesOpen (!s.slot.closed)⟩ := by
      rw [← behind, ← leaves]
      simp [outlook, done, Event.isRun]
    rw [after, longer, noted]
    exact told.action
  · exact longer ▸ timely.dated.append fun e member => noted_time member

theorem act_eq (time : Nat) (a : Action) (s : Simulation) :
    act c time a s = { s.reach c time with
      slot := (a.perform (s.reach c time).slot).2
      events := (s.reach c time).events ++ [.action a (a.perform (s.reach c time).slot).1] } := rfl

theorem done_act (time : Nat) (a : Action) (s : Simulation) :
    (act c time a s).done = (s.reach c time).done + 1 := by
  rw [act_eq]
  simp [done, Event.isRun]

/-- All actions are done in time, and none is left. -/
theorem actAll_spec (lasts : 0 < c.quiet) (actions : List (Nat × Action)) (timely : Timely c s)
    (calm : Calm c.quiet s.now s.phase)
    (ahead : (s.outlook c).actions = (clock s.now (actions.map (·.1))).zip (actions.map (·.2))) :
    Timely c (actAll c actions s) ∧ ((actAll c actions s).outlook c).actions = [] := by
  induction actions generalizing s with
  | nil => exact ⟨timely, ahead⟩
  | cons first actions ih =>
      obtain ⟨time, a⟩ := first
      obtain ⟨reached, fresh, now, kept⟩ := reach_spec lasts timely calm time
      have next : ((s.reach c time).outlook c).actions = ((s.reach c time).now, a) ::
          (clock (s.reach c time).now (actions.map (·.1))).zip (actions.map (·.2)) := by
        have same : ((s.reach c time).outlook c).actions = (s.outlook c).actions := by
          simp only [outlook, kept]
        rw [same, ahead, now]
        rfl
      have noted := reached.perform lasts fresh next
      rw [← act_eq] at noted
      apply ih noted fresh
      have next : c.outlook.actions.drop (s.reach c time).done = _ := next
      show c.outlook.actions.drop (act c time a s).done = _
      rw [done_act, ← List.drop_drop, next]
      rfl

theorem timely_start (c : Schedule) : Timely c start := by
  refine ⟨rfl, ⟨⟨orderly_nil, ?_, ?_, ?_⟩, ?_⟩, .start, dated_nil 0⟩
  · intro _
    rfl
  · intro _
    rfl
  · intro t i stands
    cases stands
  · intro t i stands
    cases stands

theorem works_closed {quiet now : Nat} {phase phase' : Phase (List String)} {slot slot' : Slot (List String)}
    (works : Works quiet now slot phase phase' slot') (closed : slot.closed = true) :
    slot'.closed = true ∧ ∀ payload, phase' ≠ .running payload := by
  cases works with
  | take isOpen _ _ =>
      rw [closed] at isOpen
      cases isOpen
  | _ => exact ⟨closed, by intro _ runs; cases runs⟩

/-- Nothing is noted of a worker that finds the slot closed. -/
theorem settle_closed (closed : s.slot.closed = true) (idle : ∀ payload, s.phase ≠ .running payload)
    (fuel : Nat) : (settle c fuel s).events = s.events ∧ (settle c fuel s).now = s.now := by
  induction fuel generalizing s with
  | zero => exact ⟨rfl, rfl⟩
  | succ fuel ih =>
      cases work : s.step? c with
      | none => simp [settle, work]
      | some s' =>
          have same : settle c (fuel + 1) s = settle c fuel s' := by simp only [settle, work]
          rcases step?_cases work with ⟨payload, runs, -⟩ | ⟨-, works, kept⟩
          · exact absurd runs (idle payload)
          · obtain ⟨closed', idle'⟩ := works_closed works closed
            have rest := ih closed' idle'
            rw [same, rest.1, rest.2, kept]
            exact ⟨rfl, rfl⟩

/-- The simulation of a schedule when it ends, but for the closing. -/
def atEnd (c : Schedule) : Simulation :=
  let s := passUntil c c.stop (c.stop + 1) (settle c (stepBound c) (actAll c c.actions start))
  { s with now := max s.now c.stop }

theorem simulate_eq (c : Schedule) :
    simulate c = settle c (stepBound c) { atEnd c with slot := (atEnd c).slot.close } := rfl

theorem atEnd_spec (lasts : 0 < c.quiet) :
    Timely c (atEnd c) ∧ ((atEnd c).outlook c).actions = [] ∧ ∀ payload, (atEnd c).phase ≠ .running payload := by
  obtain ⟨acted, none⟩ := actAll_spec (s := start) lasts c.actions (timely_start c) trivial rfl
  obtain ⟨settled, still, -, done⟩ := settle_spec lasts acted (stepBound c) (bound_enough c _)
  obtain ⟨passed, waits, inTime, -, done'⟩ :=
    passUntil_spec lasts settled still c.stop (c.stop + 1) (by omega)
  refine ⟨?_, ?_, fun payload runs => idle_of_waits waits payload runs⟩
  · apply passed.later waits (Nat.le_max_left _ _)
    intro stop alarm
    have early := inTime stop alarm
    have ahead := ahead_of_alarm waits alarm
    omega
  · have none : c.outlook.actions.drop (actAll c c.actions start).done = [] := none
    rw [← done, ← done'] at none
    exact none

end Simulation

/-- The ledger of a schedule is that of its simulation, and the closing at the end. -/
theorem Schedule.ledger_eq {c : Schedule} (lasts : 0 < c.quiet) :
    c.ledger = c.entries (Simulation.atEnd c).events ++ [.closed (Simulation.atEnd c).now] := by
  obtain ⟨-, -, idle⟩ := Simulation.atEnd_spec lasts
  obtain ⟨events, now⟩ := Simulation.settle_closed (c := c)
    (s := { Simulation.atEnd c with slot := (Simulation.atEnd c).slot.close }) rfl idle
    (Simulation.stepBound c)
  unfold Schedule.ledger
  rw [Simulation.simulate_eq, events, now]

theorem Schedule.ledger_orderly {c : Schedule} (lasts : 0 < c.quiet) : Orderly c.quiet c.ledger := by
  obtain ⟨timely, -, idle⟩ := Simulation.atEnd_spec lasts
  obtain ⟨kept, -⟩ := (agrees_iff idle).mp timely.agrees
  rw [Schedule.ledger_eq lasts]
  exact kept.close.orderly

/-- A ledger leaves nothing out: behind all that is in a schedule comes only the closing. -/
theorem Schedule.ledger_told {c : Schedule} (lasts : 0 < c.quiet) :
    ∃ entries stop unused isOpen, c.ledger = entries ++ [.closed stop] ∧ c.stop ≤ stop ∧
      Told c.outlook entries ⟨[], unused, isOpen⟩ := by
  obtain ⟨timely, none, -⟩ := Simulation.atEnd_spec lasts
  have told : Told c.outlook (c.entries (Simulation.atEnd c).events)
      ⟨((Simulation.atEnd c).outlook c).actions, _, _⟩ := timely.told
  rw [none] at told
  exact ⟨_, _, _, _, Schedule.ledger_eq lasts, Nat.le_max_right _ _, told⟩

theorem Schedule.ledger_sorted {c : Schedule} (lasts : 0 < c.quiet) :
    c.ledger.Pairwise fun e e' => e.time ≤ e'.time := by
  obtain ⟨timely, -, -⟩ := Simulation.atEnd_spec lasts
  rw [Schedule.ledger_eq lasts]
  exact (timely.dated.append (by simp [Entry.time])).sorted

/-- A run follows a full quiet window, and soon: what was accepted last before it was accepted at
least one quiet window and less than two before it, and is what its payload ends with.  What is
accepted and then left alone, for two quiet windows, is run with in the second of them, and
nothing else is.  The ledger says so of all that is in the schedule: every action of producers
and every one that is done during a run stands in it, in its turn and at its time, and is
accepted as long as the slot is open.

An action that falls on the end of a window comes ahead of it here, so the bounds hold of ties
as well. -/
theorem runs_punctual (c : Schedule) (lasts : 0 < c.quiet) :
    (∀ before r payload after, c.ledger = before ++ .run r payload :: after →
      ∃ ahead s item, before = ahead ++ [.accepted s item] ∧ s + c.quiet ≤ r ∧ r < s + 2 * c.quiet ∧
        payload.getLast? = some item) ∧
    (∀ before s item after, c.ledger = before ++ .accepted s item :: after →
      (∀ e ∈ after, e.isRun = false → s + 2 * c.quiet ≤ e.time) →
      ∃ r payload, s + c.quiet ≤ r ∧ r < s + 2 * c.quiet ∧ payload.getLast? = some item ∧
        after.filter (fun e => e.isRun && e.time ≤ s + 2 * c.quiet) = [.run r payload]) ∧
    (∃ entries stop unused isOpen, c.ledger = entries ++ [.closed stop] ∧ c.stop ≤ stop ∧
      Told c.outlook entries ⟨[], unused, isOpen⟩) ∧
    c.ledger.Pairwise fun e e' => e.time ≤ e'.time := by
  have orderly := Schedule.ledger_orderly lasts
  refine ⟨?_, ?_, Schedule.ledger_told lasts, Schedule.ledger_sorted lasts⟩
  · intro before r payload after split
    rw [split] at orderly
    exact orderly.run_behind
  · intro before s item after split alone
    rw [split] at orderly
    apply orderly.run_ahead lasts _ alone
    rintro rfl
    -- the last entry is the closing
    have last := congrArg List.getLast? split
    rw [Schedule.ledger, List.getLast?_concat, List.getLast?_concat] at last
    cases last

/-- A burst that disturbs its window, and a submission from inside the run that comes of it. -/
def flurry : Schedule :=
  { quiet := 20
    actions := [(0, .submit "a"), (15, .update "b"), (100, .submit "d")]
    duringRuns := [[.update "c"]]
    stop := 200 }

theorem flurry_ledger : flurry.ledger =
    [.accepted 0 "a", .accepted 15 "b", .run 40 ["a", "b"], .accepted 40 "c", .run 60 ["c"],
      .accepted 100 "d", .run 120 ["d"], .closed 200] := by decide +kernel

theorem runs_punctual_flurry :
    (∃ before after, flurry.ledger = before ++ .run 40 ["a", "b"] :: after ∧
      ∃ ahead s item, before = ahead ++ [.accepted s item] ∧ s + 20 ≤ 40 ∧ 40 < s + 40 ∧
        ["a", "b"].getLast? = some item) ∧
    (∃ before after, flurry.ledger = before ++ .accepted 40 "c" :: after ∧
      ∃ r payload, 60 ≤ r ∧ r < 80 ∧ payload.getLast? = some "c" ∧
        after.filter (fun e => e.isRun && e.time ≤ 80) = [.run r payload]) ∧
    (∃ entries stop unused isOpen, flurry.ledger = entries ++ [.closed stop] ∧ 200 ≤ stop ∧
      Told flurry.outlook entries ⟨[], unused, isOpen⟩) ∧
    flurry.ledger.Pairwise fun e e' => e.time ≤ e'.time := by
  obtain ⟨behind, ahead, told, sorted⟩ := runs_punctual flurry (by decide)
  refine ⟨⟨[.accepted 0 "a", .accepted 15 "b"], _, flurry_ledger, ?_⟩,
    ⟨[.accepted 0 "a", .accepted 15 "b", .run 40 ["a", "b"]], _, flurry_ledger, ?_⟩, told, sorted⟩
  · exact behind [.accepted 0 "a", .accepted 15 "b"] 40 ["a", "b"] _ flurry_ledger
  · apply ahead [.accepted 0 "a", .accepted 15 "b", .run 40 ["a", "b"]] 40 "c" _ flurry_ledger
    decide

end LiveMarkup.Coalescer
