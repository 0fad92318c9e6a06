import LiveMarkup.Json.Decode
/-
# LiveMarkup.Proofs.Json.Fields -- the members of an object in any order

An object gives a field when exactly one of its members has the name (`Given`), wherever
it stands; other members may stand anywhere around it as long as the text goes on behind
them (`Passable`).  A decoder that collects fields in slots goes over the members once.
`Slot` says how far it is with one field: the slot is filled and no further member has
the name, or it is empty and the member is still to come.  One member keeps this for
every field, the one it has the name of included, so at the end all slots are filled,
whatever the order was (`foldMembers_run`).
-/

namespace LiveMarkup.Json

set_option autoImplicit false

variable {α σ : Type} {name : String} {fits : Json → Prop} {a : α} {slot : Option α}
variable {m : String × Json} {rest members : List (String × Json)}

/-! ## Fields -/

/-- Exactly one member has the name, and its value is fit. -/
def Given (name : String) (fits : Json → Prop) (members : List (String × Json)) : Prop :=
  ∃ v, members.filter (fun m => m.1 == name) = [(name, v)] ∧ fits v

/-- No member has the name. -/
def Absent (name : String) (members : List (String × Json)) : Prop := ∀ m ∈ members, m.1 ≠ name

/-- The text can be read on behind every member. -/
def Passable (members : List (String × Json)) : Prop := ∀ m ∈ members, m.2.skipFault? = none

theorem filter_eq_nil_iff_absent : members.filter (fun m => m.1 == name) = [] ↔ Absent name members := by
  simp [Absent, List.filter_eq_nil_iff]

theorem Given.of_other (given : Given name fits (m :: rest)) (other : m.1 ≠ name) :
    Given name fits rest := by
  obtain ⟨v, once, fit⟩ := given
  rw [List.filter_cons_of_neg (by simpa using other)] at once
  exact ⟨v, once, fit⟩

theorem Given.here (given : Given name fits (m :: rest)) (same : m.1 = name) :
    fits m.2 ∧ Absent name rest := by
  obtain ⟨v, once, fit⟩ := given
  rw [List.filter_cons_of_pos (by simpa using same)] at once
  obtain ⟨here, later⟩ := List.cons.inj once
  subst here
  exact ⟨fit, filter_eq_nil_iff_absent.mp later⟩

theorem Absent.tail (absent : Absent name (m :: rest)) : Absent name rest :=
  fun n mem => absent n (List.mem_cons_of_mem _ mem)

theorem Absent.head (absent : Absent name (m :: rest)) : m.1 ≠ name := absent m (List.mem_cons_self ..)

theorem Given.not_absent (given : Given name fits members) : ¬ Absent name members := by
  obtain ⟨v, once, -⟩ := given
  rw [← filter_eq_nil_iff_absent, once]
  exact List.cons_ne_nil _ _

/-- A field that is given stands somewhere. -/
theorem Given.mem (given : Given name fits members) : ∃ v, (name, v) ∈ members ∧ fits v := by
  obtain ⟨v, once, fit⟩ := given
  have found : (name, v) ∈ members.filter fun m => m.1 == name := once ▸ List.mem_singleton.mpr rfl
  exact ⟨v, (List.mem_filter.mp found).1, fit⟩

/-- The order of the members does not matter to what they give. -/
theorem Given.perm {others : List (String × Json)} (given : Given name fits members)
    (order : members.Perm others) : Given name fits others := by
  obtain ⟨v, once, fit⟩ := given
  refine ⟨v, ?_, fit⟩
  have same := order.filter fun m => m.1 == name
  rw [once] at same
  exact List.singleton_perm.mp same |>.symm ▸ rfl

/-- Members of other names can be left out. -/
theorem Given.filter {p : String × Json → Bool} (given : Given name fits members)
    (stays : ∀ v, p (name, v) = true) : Given name fits (members.filter p) := by
  obtain ⟨v, once, fit⟩ := given
  refine ⟨v, ?_, fit⟩
  have swapped : (members.filter p).filter (fun m => m.1 == name) =
      (members.filter fun m => m.1 == name).filter p := by
    simp only [List.filter_filter, Bool.and_comm]
  rw [swapped, once]
  simp [stays v]

theorem Passable.perm {others : List (String × Json)} (passable : Passable members)
    (order : members.Perm others) : Passable others :=
  fun m mem => passable m (order.mem_iff.mpr mem)

theorem Passable.filter (p : String × Json → Bool) (passable : Passable members) :
    Passable (members.filter p) :=
  fun m mem => passable m (List.mem_filter.mp mem).1

theorem Passable.tail (passable : Passable (m :: rest)) : Passable rest :=
  fun n mem => passable n (List.mem_cons_of_mem _ mem)

theorem Passable.head (passable : Passable (m :: rest)) : m.2.skipFault? = none :=
  passable m (List.mem_cons_self ..)

theorem passable_nil : Passable [] := fun _ mem => nomatch mem

theorem passable_cons (here : m.2.skipFault? = none) (later : Passable rest) : Passable (m :: rest) :=
  fun n mem => (List.mem_cons.mp mem).elim (fun same => same ▸ here) (later n)

/-! ## Slots -/

/-- How far a decoder is with a field when `rest` is left: its slot holds what the field
decodes to, or the field is still to come. -/
def Slot (name : String) (fits : Json → Prop) (a : α) (slot : Option α)
    (rest : List (String × Json)) : Prop :=
  (slot = some a ∧ Absent name rest) ∨ (slot = none ∧ Given name fits rest)

theorem Slot.start (given : Given name fits members) : Slot name fits a none members := .inr ⟨rfl, given⟩

theorem Slot.filled (done : Slot name fits a slot []) : slot = some a := by
  rcases done with ⟨full, -⟩ | ⟨-, v, once, -⟩
  · exact full
  · cases once

theorem Slot.other (now : Slot name fits a slot (m :: rest)) (other : m.1 ≠ name) :
    Slot name fits a slot rest := by
  rcases now with ⟨full, absent⟩ | ⟨empty, given⟩
  · exact .inl ⟨full, absent.tail⟩
  · exact .inr ⟨empty, given.of_other other⟩

theorem Slot.here (now : Slot name fits a slot (m :: rest)) (same : m.1 = name) :
    slot = none ∧ fits m.2 ∧ Slot name fits a (some a) rest := by
  rcases now with ⟨-, absent⟩ | ⟨empty, given⟩
  · exact absurd same absent.head
  · obtain ⟨fit, absent⟩ := given.here same
    exact ⟨empty, fit, .inl ⟨rfl, absent⟩⟩

/-- A member of the field is decoded into its slot. -/
theorem Slot.once {d : Json → Decoded α} (now : Slot name fits a slot (m :: rest))
    (same : m.1 = name) (decodes : ∀ v, fits v → d v = .ok a) : Json.once name slot d m.2 = .ok a := by
  obtain ⟨empty, fit, -⟩ := now.here same
  rw [empty]
  exact decodes _ fit

/-! ## A run over the members -/

/-- Every member is taken or passed over in a way that keeps `holds` for what is left. -/
def Keeps (step : σ → String → Json → Option (Decoded σ))
    (holds : σ → List (String × Json) → Prop) : Prop :=
  ∀ s k v rest, holds s ((k, v) :: rest) →
    (∃ s', step s k v = some (.ok s') ∧ holds s' rest) ∨ (step s k v = none ∧ holds s rest)

/-- What every member keeps, the run over all of them keeps. -/
theorem foldMembers_run {step : σ → String → Json → Option (Decoded σ)}
    {holds : σ → List (String × Json) → Prop} (keeps : Keeps step holds)
    (passable : Passable members) (i : Nat) {s : σ} (now : holds s members) :
    ∃ s', foldMembers step i s members = .ok s' ∧ holds s' [] := by
  induction members generalizing s i with
  | nil => exact ⟨s, rfl, now⟩
  | cons m rest ih =>
      obtain ⟨k, v⟩ := m
      have passes : v.skipFault? = none := passable.head
      have sound (f : Fault) : v ≠ .fault f := by
        rintro rfl
        cases passes
      rcases keeps s k v rest now with ⟨s', taken, later⟩ | ⟨unknown, later⟩
      · obtain ⟨stop, run, done⟩ := ih passable.tail (i + 1) later
        refine ⟨stop, ?_, done⟩
        rw [foldMembers, taken]
        · exact run
        · exact sound
      · obtain ⟨stop, run, done⟩ := ih passable.tail (i + 1) later
        refine ⟨stop, ?_, done⟩
        rw [foldMembers, unknown, passes]
        · exact run
        · exact sound

/-- What a record of one field takes from a member. -/
def takeOne (field : String) (d : Json → Decoded α) (slot : Option α) (k : String) (v : Json) :
    Option (Decoded (Option α)) :=
  if k = field then some ((once field slot d v).map some) else none

theorem takeOne_keeps {d : Json → Decoded α} (decodes : ∀ v, fits v → d v = .ok a) :
    Keeps (takeOne name d) (Slot name fits a) := by
  intro slot k v rest now
  by_cases same : k = name
  · have decoded : once name slot d v = .ok a := now.once same decodes
    exact .inl ⟨some a, by rw [takeOne, if_pos same, decoded]; rfl, (now.here same).2.2⟩
  · exact .inr ⟨if_neg same, now.other same⟩

/-- A record of one field is decoded from the only member with its name. -/
theorem takeOne_run {d : Json → Decoded α} (decodes : ∀ v, fits v → d v = .ok a)
    (given : Given name fits members) (passable : Passable members) :
    foldMembers (takeOne name d) 0 none members >>= required name = .ok a := by
  obtain ⟨slot, run, done⟩ := foldMembers_run (takeOne_keeps decodes) passable 0 (.start given)
  rw [run, done.filled]
  rfl

end LiveMarkup.Json
