import LiveMarkup.Coalescer.Schedule
import Mathlib.Data.List.Chain
/-
# LiveMarkup.Proofs.Coalescer.Ledger -- what a schedule came to, with its times

A ledger lists what was accepted, when the slot was closed, and what was run with, in the
order in which it came to pass.  It is read off the events of a simulation: an action has
the time of its place in the schedule, or that of an earlier one which is later by the clock
(`clock`), and what is done during a run has the time of the run.  The closing that ends a
schedule is its last entry.

`Told` says that a ledger leaves nothing out.  Each action of a schedule, and each one that is
done during a run, stands in it in its turn and with its time: an item as accepted while the
slot is open, and not at all behind a closing.

`Orderly` says which entries may come next to each other, and nothing else: what is accepted
is followed by a run that is due to it, or by another entry, in less than two quiet windows,
and a run follows nothing else than what was accepted.  The two ways to read that are
`Orderly.run_behind` and `Orderly.run_ahead`.
-/

namespace LiveMarkup.Coalescer

set_option autoImplicit false

inductive Entry where
  | accepted (time : Nat) (item : String)
  | closed (time : Nat)
  | run (time : Nat) (payload : List String)
  deriving DecidableEq, Repr

namespace Entry

def time : Entry → Nat
  | accepted time _ => time
  | closed time => time
  | run time _ => time

def isRun : Entry → Bool
  | run _ _ => true
  | _ => false

end Entry

/-- What comes of an action that was answered so; what is refused leaves no entry. -/
def Action.noted (time : Nat) : Action → Option Bool → List Entry
  | submit item, some true => [.accepted time item]
  | update item, some true => [.accepted time item]
  | close, _ => [.closed time]
  | _, _ => []

def notedAll (time : Nat) : List Action → List (Option Bool) → List Entry
  | a :: as, answer :: answers => a.noted time answer ++ notedAll time as answers
  | _, _ => []

/-- What comes of events, when the actions among them have these times and the runs these
actions. -/
def entriesOf : List Nat → List (List Action) → List Event → List Entry
  | _, _, [] => []
  | times, during, .action a answer :: events =>
      a.noted (times.headD 0) answer ++ entriesOf times.tail during events
  | times, during, .run payload time answers :: events =>
      .run time payload :: (notedAll time (during.headD []) answers ++ entriesOf times during.tail events)

/-- The times at which actions are done.  The clock does not go back: what is late is done at
once. -/
def clock : Nat → List Nat → List Nat
  | _, [] => []
  | now, time :: times => max now time :: clock (max now time) times

namespace Schedule

def entries (c : Schedule) (events : List Event) : List Entry :=
  entriesOf (clock 0 (c.actions.map (·.1))) c.duringRuns events

/-- All that comes of a schedule, with the closing at its end. -/
def ledger (c : Schedule) : List Entry :=
  c.entries (simulate c).events ++ [.closed (simulate c).now]

end Schedule

/-! ## What a ledger tells -/

/-- The entries that an action makes at a time, when the slot is open or not. -/
def Action.entries (time : Nat) (isOpen : Bool) : Action → List Entry
  | submit item => if isOpen then [.accepted time item] else []
  | update item => if isOpen then [.accepted time item] else []
  | close => [.closed time]
  | askClosed => []

/-- Is the slot open behind an action? -/
def Action.leavesOpen (isOpen : Bool) : Action → Bool
  | close => false
  | _ => isOpen

/-- The entries that several actions make at a time. -/
def entriesAll (time : Nat) : Bool → List Action → List Entry
  | _, [] => []
  | isOpen, a :: as => a.entries time isOpen ++ entriesAll time (a.leavesOpen isOpen) as

/-- Is the slot open behind several actions? -/
def leaveOpen (isOpen : Bool) (as : List Action) : Bool := as.foldl Action.leavesOpen isOpen

/-- What is still to come of a schedule, and whether the slot is open for it. -/
structure Outlook where
  /-- Actions with the times at which they are done. -/
  actions : List (Nat × Action)
  /-- What is done during the runs that are to come. -/
  duringRuns : List (List Action)
  isOpen : Bool

def Schedule.outlook (c : Schedule) : Outlook :=
  ⟨(clock 0 (c.actions.map (·.1))).zip (c.actions.map (·.2)), c.duringRuns, true⟩

theorem length_clock (now : Nat) (times : List Nat) : (clock now times).length = times.length := by
  induction times generalizing now with
  | nil => rfl
  | cons time times ih => simp [clock, ih]

/-- The times at which the actions of a schedule are done. -/
theorem outlook_times (c : Schedule) : c.outlook.actions.map (·.1) = clock 0 (c.actions.map (·.1)) :=
  List.map_fst_zip (by simp [length_clock])

/-- Entries tell what came to pass from one outlook to another: the next action, or a run with
all that is done during it, again and again. -/
inductive Told (first : Outlook) : List Entry → Outlook → Prop
  | start : Told first [] first
  | action {entries : List Entry} {time : Nat} {a : Action} {actions : List (Nat × Action)}
      {during : List (List Action)} {isOpen : Bool}
      (before : Told first entries ⟨(time, a) :: actions, during, isOpen⟩) :
      Told first (entries ++ a.entries time isOpen) ⟨actions, during, a.leavesOpen isOpen⟩
  | run {entries : List Entry} {actions : List (Nat × Action)} {during : List (List Action)} {isOpen : Bool}
      (before : Told first entries ⟨actions, during, isOpen⟩) (time : Nat) (payload : List String) :
      Told first (entries ++ .run time payload :: entriesAll time isOpen (during.headD []))
        ⟨actions, during.tail, leaveOpen isOpen (during.headD [])⟩

/-- No entry is earlier than one in front of it, and none is later than now. -/
structure Dated (now : Nat) (entries : List Entry) : Prop where
  sorted : entries.Pairwise fun e e' => e.time ≤ e'.time
  past : ∀ e ∈ entries, e.time ≤ now

theorem dated_nil (now : Nat) : Dated now [] := ⟨.nil, nofun⟩

theorem Dated.later {now now' : Nat} {entries : List Entry} (dated : Dated now entries) (onward : now ≤ now') :
    Dated now' entries :=
  ⟨dated.sorted, fun e member => Nat.le_trans (dated.past e member) onward⟩

/-- What comes to pass now may be put behind all that came to pass. -/
theorem Dated.append {now : Nat} {entries more : List Entry} (dated : Dated now entries)
    (atOnce : ∀ e ∈ more, e.time = now) : Dated now (entries ++ more) := by
  constructor
  · rw [List.pairwise_append]
    refine ⟨dated.sorted, List.pairwise_of_forall_mem_list ?_, ?_⟩
    · intro e member e' member'
      exact Nat.le_of_eq ((atOnce e member).trans (atOnce e' member').symm)
    · intro e member e' member'
      rw [atOnce e' member']
      exact dated.past e member
  · intro e member
    rcases List.mem_append.mp member with old | new
    · exact dated.past e old
    · exact Nat.le_of_eq (atOnce e new)

/-! ## One event more -/

def Event.isRun : Event → Bool
  | run _ _ _ => true
  | _ => false

theorem entriesOf_snoc (times : List Nat) (during : List (List Action)) (events : List Event) (e : Event) :
    entriesOf times during (events ++ [e]) = entriesOf times during events ++
      entriesOf (times.drop (events.countP (!·.isRun))) (during.drop (events.countP (·.isRun))) [e] := by
  induction events generalizing times during with
  | nil => simp [entriesOf]
  | cons first events ih =>
      cases first with
      | action a answer => simp [entriesOf, ih, Event.isRun, List.append_assoc]
      | run payload time answers => simp [entriesOf, ih, Event.isRun, List.append_assoc]

theorem noted_time {time : Nat} {a : Action} {answer : Option Bool} {e : Entry}
    (member : e ∈ a.noted time answer) : e.time = time := by
  unfold Action.noted at member
  split at member <;> simp_all [Entry.time]

theorem notedAll_time {time : Nat} {as : List Action} {answers : List (Option Bool)} {e : Entry}
    (member : e ∈ notedAll time as answers) : e.time = time := by
  induction as generalizing answers with
  | nil => simp [notedAll] at member
  | cons a as ih =>
      cases answers with
      | nil => simp [notedAll] at member
      | cons answer answers =>
          rcases List.mem_append.mp member with here | later
          · exact noted_time here
          · exact ih later

/-! ## Orderly ledgers -/

/-- May an entry come next after another one? -/
def Follows (quiet : Nat) : Entry → Entry → Prop
  | .accepted s item, .run r payload =>
      s + quiet ≤ r ∧ r < s + 2 * quiet ∧ payload.getLast? = some item
  | .accepted s _, e => e.time < s + 2 * quiet
  | _, .run _ _ => False
  | _, _ => True

/-- At the start nothing waits, as behind a closing. -/
def Orderly (quiet : Nat) (entries : List Entry) : Prop :=
  (Entry.closed 0 :: entries).IsChain (Follows quiet)

/-- What was accepted last, unless something came behind it. -/
def standing (entries : List Entry) : Option (Nat × String) :=
  match entries.getLast? with
  | some (.accepted time item) => some (time, item)
  | _ => none

variable {quiet : Nat} {entries before after : List Entry}

theorem standing_eq_some {t : Nat} {i : String} :
    standing entries = some (t, i) ↔ entries.getLast? = some (.accepted t i) := by
  unfold standing
  split <;> simp_all

@[simp] theorem standing_accepted (t : Nat) (i : String) :
    standing (entries ++ [.accepted t i]) = some (t, i) := by simp [standing]

@[simp] theorem standing_closed (t : Nat) : standing (entries ++ [.closed t]) = none := by simp [standing]

@[simp] theorem standing_run (r : Nat) (payload : List String) :
    standing (entries ++ [.run r payload]) = none := by simp [standing]

/-- What was accepted last, during a run, was accepted then. -/
theorem standing_behind_run {r t : Nat} {payload : List String} {i : String} {notes : List Entry}
    (atOnce : ∀ e ∈ notes, e.time = r)
    (stands : standing (entries ++ [.run r payload] ++ notes) = some (t, i)) : t = r := by
  rw [standing_eq_some] at stands
  rcases List.eq_nil_or_concat' notes with rfl | ⟨notes', last, rfl⟩
  · simp at stands
  · rw [← List.append_assoc, List.getLast?_concat] at stands
    exact atOnce (.accepted t i) (by simp [Option.some.inj stands])

theorem orderly_nil : Orderly quiet [] := by simp [Orderly]

theorem Orderly.snoc (orderly : Orderly quiet entries) {e : Entry}
    (follows : ∀ last, (Entry.closed 0 :: entries).getLast? = some last → Follows quiet last e) :
    Orderly quiet (entries ++ [e]) := by
  unfold Orderly
  rw [← List.cons_append, List.isChain_append]
  refine ⟨orderly, by simp, ?_⟩
  intro last isLast e' isFirst
  obtain rfl : e = e' := by simpa using isFirst
  exact follows last isLast

/-- An entry that is no run may follow anything but what was accepted too long ago. -/
theorem Orderly.snoc_other (orderly : Orderly quiet entries) {e : Entry} (other : e.isRun = false)
    (soon : ∀ t i, standing entries = some (t, i) → e.time < t + 2 * quiet) :
    Orderly quiet (entries ++ [e]) := by
  apply orderly.snoc
  intro last isLast
  cases last with
  | accepted t i =>
      have stands : standing entries = some (t, i) := by
        rw [standing_eq_some]
        cases entries with
        | nil => simp at isLast
        | cons first entries => simpa using isLast
      have early := soon t i stands
      cases e with
      | run r payload => simp [Entry.isRun] at other
      | _ => exact early
  | _ =>
      cases e with
      | run r payload => simp [Entry.isRun] at other
      | _ => trivial

theorem Orderly.snoc_run (orderly : Orderly quiet entries) {t r : Nat} {i : String} {payload : List String}
    (stands : standing entries = some (t, i)) (due : t + quiet ≤ r) (soon : r < t + 2 * quiet)
    (delivered : payload.getLast? = some i) : Orderly quiet (entries ++ [.run r payload]) := by
  apply orderly.snoc
  intro last isLast
  rw [standing_eq_some] at stands
  have same : last = .accepted t i := by
    cases entries with
    | nil => simp at stands
    | cons first entries =>
        rw [List.getLast?_cons_cons, stands] at isLast
        exact (Option.some.inj isLast).symm
  rw [same]
  exact ⟨due, soon, delivered⟩

theorem getLast?_cons_snoc (first last : Entry) (entries : List Entry) :
    (first :: (entries ++ [last])).getLast? = some last := by
  rw [← List.cons_append]
  exact List.getLast?_concat

/-- A run comes next after what was accepted last. -/
theorem Orderly.run_behind {r : Nat} {payload : List String}
    (orderly : Orderly quiet (before ++ .run r payload :: after)) :
    ∃ ahead s item, before = ahead ++ [.accepted s item] ∧ s + quiet ≤ r ∧ r < s + 2 * quiet ∧
      payload.getLast? = some item := by
  unfold Orderly at orderly
  rw [← List.cons_append, List.isChain_append] at orderly
  obtain ⟨-, -, joint⟩ := orderly
  rcases List.eq_nil_or_concat' before with rfl | ⟨ahead, last, rfl⟩
  · have impossible := joint (.closed 0) (by simp) (.run r payload) (by simp)
    exact impossible.elim
  · have follows := joint last (getLast?_cons_snoc _ _ _) (.run r payload) (by simp)
    cases last with
    | accepted s item => exact ⟨ahead, s, item, rfl, follows⟩
    | _ => exact follows.elim

/-- A run that comes behind another one is due to something that was accepted between them. -/
theorem Orderly.run_later {limit r r' : Nat} {payload payload' : List String}
    (orderly : Orderly quiet (before ++ .run r payload :: after))
    (alone : ∀ e ∈ after, e.isRun = false → limit ≤ e.time) (member : Entry.run r' payload' ∈ after) :
    limit + quiet ≤ r' := by
  obtain ⟨between, behind, rfl⟩ := List.append_of_mem member
  have split : before ++ .run r payload :: (between ++ .run r' payload' :: behind) =
      (before ++ .run r payload :: between) ++ .run r' payload' :: behind := by
    simp
  rw [split] at orderly
  obtain ⟨ahead, s, item, last, due, -, -⟩ := orderly.run_behind
  have accepted : Entry.accepted s item ∈ between := by
    have same := congrArg List.getLast? last
    rcases List.eq_nil_or_concat' between with rfl | ⟨between', e, rfl⟩
    · simp at same
    · rw [List.getLast?_append_of_ne_nil _ (by simp), getLast?_cons_snoc, List.getLast?_concat] at same
      simp [Option.some.inj same]
  have late : limit ≤ s := alone (.accepted s item) (by simp [accepted]) rfl
  omega

/-- What was accepted, and is left alone for two quiet windows, is followed by a run, and by no
other one in that time. -/
theorem Orderly.run_ahead {s : Nat} {item : String} (lasts : 0 < quiet)
    (orderly : Orderly quiet (before ++ .accepted s item :: after)) (goesOn : after ≠ [])
    (alone : ∀ e ∈ after, e.isRun = false → s + 2 * quiet ≤ e.time) :
    ∃ r payload, s + quiet ≤ r ∧ r < s + 2 * quiet ∧ payload.getLast? = some item ∧
      after.filter (fun e => e.isRun && e.time ≤ s + 2 * quiet) = [.run r payload] := by
  cases after with
  | nil => exact absurd rfl goesOn
  | cons e rest =>
      have joint : Follows quiet (.accepted s item) e := by
        unfold Orderly at orderly
        rw [← List.cons_append, List.isChain_append] at orderly
        exact (List.isChain_cons_cons.mp orderly.2.1).1
      cases e with
      | accepted t i =>
          have late : s + 2 * quiet ≤ t := alone _ List.mem_cons_self rfl
          have early : t < s + 2 * quiet := joint
          omega
      | closed t =>
          have late : s + 2 * quiet ≤ t := alone _ List.mem_cons_self rfl
          have early : t < s + 2 * quiet := joint
          omega
      | run r payload =>
          obtain ⟨due, soon, delivered⟩ := joint
          refine ⟨r, payload, due, soon, delivered, ?_⟩
          have noOther : rest.filter (fun e => e.isRun && e.time ≤ s + 2 * quiet) = [] := by
            rw [List.filter_eq_nil_iff]
            intro e member again
            cases e with
            | run r' payload' =>
                have split : before ++ .accepted s item :: .run r payload :: rest =
                    (before ++ [.accepted s item]) ++ .run r payload :: rest := by
                  simp
                rw [split] at orderly
                have late : s + 2 * quiet + quiet ≤ r' :=
                  orderly.run_later (fun e later => alone e (List.mem_cons_of_mem _ later)) member
                rw [Bool.and_eq_true] at again
                have early : r' ≤ s + 2 * quiet := of_decide_eq_true again.2
                have longer : s + 2 * quiet < s + 2 * quiet + quiet := Nat.lt_add_of_pos_right lasts
                omega
            | _ => simp [Entry.isRun] at again
          have here : r ≤ s + 2 * quiet := by omega
          rw [List.filter_cons, noOther]
          simp [Entry.isRun, Entry.time, here]

end LiveMarkup.Coalescer
