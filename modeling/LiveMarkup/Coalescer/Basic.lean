/-
# LiveMarkup.Coalescer.Basic -- one slot between many producers and a worker

Producers put payloads into a slot through handles; a payload that still waits there is
given to the function that makes the new one.  A worker waits for a payload, then for a
quiet window in which nothing new comes, takes the payload and runs with it.  Closing
empties the slot for good.

The steps of both sides are atomic.  The worker sleeps on a wake-up: a producer leaves
one permit behind, however often it calls, and the worker uses it up when it wakes.
Between looking at the slot and falling asleep anything may happen; the permit is what
keeps a payload that comes then from being left behind.
-/

namespace LiveMarkup.Coalescer

set_option autoImplicit false

/-- What handles and worker share. -/
structure Slot (α : Type) where
  pending : Option α
  /-- Counts the accepted payloads. -/
  generation : Nat
  closed : Bool
  /-- A wake-up that was not used yet. -/
  permit : Bool
  deriving DecidableEq, Repr

namespace Slot

variable {α : Type}

def empty : Slot α := ⟨none, 0, false, false⟩

/-- Make the new payload from the one that waits; refused when closed. -/
def update (f : Option α → α) (s : Slot α) : Bool × Slot α :=
  if s.closed then (false, s)
  else (true, { s with pending := some (f s.pending), generation := s.generation + 1, permit := true })

/-- Put a payload in place of the one that waits. -/
def submit (a : α) (s : Slot α) : Bool × Slot α := s.update fun _ => a

/-- Drop what waits, for good. -/
def close (s : Slot α) : Slot α := { s with closed := true, pending := none, permit := true }

end Slot

/-- Where the worker stands. -/
inductive Phase (α : Type) where
  /-- About to look at the slot. -/
  | looking
  /-- About to fall asleep, or asleep. -/
  | parked
  /-- In a quiet window that ends at a time; `seen` is the generation at its start. -/
  | settling (seen stop : Nat)
  /-- About to take the payload. -/
  | taking
  /-- About to run with a payload. -/
  | running (payload : α)
  | stopped
  deriving DecidableEq, Repr

/-- One step of the worker at a time, by the clock in milliseconds; none when it has to
wait.  A run itself is a step that others may interleave with; it ends in `looking`. -/
def step {α : Type} (quiet now : Nat) : Phase α → Slot α → Option (Phase α × Slot α)
  | .looking, s =>
      some <|
        if s.closed then (.stopped, s)
        else match s.pending with
          | some _ => (if quiet = 0 then .taking else .settling s.generation (now + quiet), s)
          | none => (.parked, s)
  | .parked, s => if s.permit then some (.looking, { s with permit := false }) else none
  | .settling seen stop, s =>
      if stop ≤ now then
        some <|
          if s.closed || s.generation == seen then (.taking, s)
          else (.settling s.generation (now + quiet), s)
      else none
  | .taking, s =>
      some <|
        if s.closed then (.stopped, s)
        else match s.pending with
          | some a => (.running a, { s with pending := none })
          | none => (.looking, s)
  | .running _, s => some (.looking, s)
  | .stopped, _ => none

end LiveMarkup.Coalescer
