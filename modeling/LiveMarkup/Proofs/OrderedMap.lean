import LiveMarkup.OrderedMap
/-
# LiveMarkup.Proofs.OrderedMap -- ordered maps as finite functions

A look-up does not tell two spellings of one key apart (`get?_congr`), and in a map
whose keys increase (`Ordered`, kept by `insert` and `erase`) it finds every entry there
is (`get?_of_mem`), and no two entries are of one key (`get?_split`).
-/

namespace LiveMarkup.OrderedMap

set_option autoImplicit false

variable {κ α : Type} [Ord κ]

/-- The keys increase, so no two of them are the same. -/
def Ordered (m : OrderedMap κ α) : Prop := m.entries.Pairwise fun a b => compare a.1 b.1 = .lt

@[simp] theorem get?_empty (k : κ) : (empty : OrderedMap κ α).get? k = none := rfl

theorem ordered_empty : (empty : OrderedMap κ α).Ordered := List.Pairwise.nil

theorem find_mem {k : κ} {v : α} {es : List (κ × α)} (found : find k es = some v) :
    ∃ k', (k', v) ∈ es ∧ compare k k' = .eq := by
  induction es with
  | nil => simp [find] at found
  | cons e es ih =>
      obtain ⟨k₁, v₁⟩ := e
      simp only [find] at found
      split at found
      · rename_i same
        obtain rfl := Option.some.inj found
        exact ⟨k₁, by simp, same⟩
      · obtain ⟨k', member, same⟩ := ih found
        exact ⟨k', List.mem_cons_of_mem _ member, same⟩

theorem mem_of_get? {m : OrderedMap κ α} {k : κ} {v : α} (found : m.get? k = some v) :
    ∃ k', (k', v) ∈ m.entries ∧ compare k k' = .eq := find_mem found

theorem find_isSome_of_mem {k k' : κ} {v : α} {es : List (κ × α)} (member : (k', v) ∈ es)
    (same : compare k k' = .eq) : (find k es).isSome = true := by
  induction es with
  | nil => simp at member
  | cons e es ih =>
      obtain ⟨k₁, v₁⟩ := e
      by_cases here : compare k k₁ = .eq
      · simp [find, here]
      · rcases List.mem_cons.mp member with first | later
        · cases first
          exact absurd same here
        · simpa [find, here] using ih later

/-- A key that is listed is found, with one value or another. -/
theorem get?_isSome_of_mem {m : OrderedMap κ α} {k k' : κ} (member : k' ∈ m.keys)
    (same : compare k k' = .eq) : (m.get? k).isSome = true := by
  obtain ⟨⟨k', v⟩, listed, rfl⟩ := List.mem_map.mp member
  exact find_isSome_of_mem listed same

/-- A key that is found is listed, in one spelling or another. -/
theorem mem_keys_of_get? {m : OrderedMap κ α} {k : κ} {v : α} (found : m.get? k = some v) :
    ∃ k' ∈ m.keys, compare k k' = .eq := by
  obtain ⟨k', member, same⟩ := mem_of_get? found
  exact ⟨k', List.mem_map.mpr ⟨(k', v), member, rfl⟩, same⟩

/-- An entry behind an insertion is the new one or was there before. -/
theorem mem_insertIn {k : κ} {v : α} {a : κ × α} {es : List (κ × α)} (member : a ∈ insertIn k v es) :
    ((a.1 = k ∨ compare k a.1 = .eq) ∧ a.2 = v) ∨ a ∈ es := by
  induction es with
  | nil =>
      simp only [insertIn, List.mem_singleton] at member
      exact Or.inl (member ▸ ⟨Or.inl rfl, rfl⟩)
  | cons e es ih =>
      obtain ⟨k₁, v₁⟩ := e
      simp only [insertIn] at member
      split at member
      · rcases List.mem_cons.mp member with rfl | old
        · exact Or.inl ⟨Or.inl rfl, rfl⟩
        · exact Or.inr old
      · rename_i same
        rcases List.mem_cons.mp member with rfl | old
        · exact Or.inl ⟨Or.inr same, rfl⟩
        · exact Or.inr (List.mem_cons_of_mem _ old)
      · rcases List.mem_cons.mp member with rfl | later
        · exact Or.inr (by simp)
        · exact (ih later).imp id (List.mem_cons_of_mem _)

/-- A key behind an insertion is spelled as the one that was inserted, or as it was before. -/
theorem mem_keys_insert {m : OrderedMap κ α} {k k' : κ} {v : α} (member : k' ∈ (m.insert k v).keys) :
    k' = k ∨ k' ∈ m.keys := by
  obtain ⟨es⟩ := m
  simp only [keys, insert] at member ⊢
  induction es with
  | nil => exact Or.inl (by simpa [insertIn] using member)
  | cons e es ih =>
      obtain ⟨k₁, v₁⟩ := e
      simp only [insertIn] at member
      split at member
      · exact List.mem_cons.mp member
      · exact Or.inr member
      · rcases List.mem_cons.mp member with rfl | later
        · exact Or.inr List.mem_cons_self
        · exact (ih later).imp id (List.mem_cons_of_mem _)

theorem mem_erase {m : OrderedMap κ α} {k : κ} {a : κ × α} (member : a ∈ (m.erase k).entries) :
    a ∈ m.entries ∧ compare k a.1 ≠ .eq := by
  simpa [erase] using member

theorem Ordered.erase {m : OrderedMap κ α} (ordered : m.Ordered) (k : κ) : (m.erase k).Ordered :=
  ordered.filter _

variable [Std.TransOrd κ]

theorem find_congr {k k' : κ} (same : compare k k' = .eq) (es : List (κ × α)) :
    find k es = find k' es := by
  induction es with
  | nil => rfl
  | cons e es ih => simp only [find, ih, Std.TransCmp.congr_left same]

/-- Two spellings of one key find the same value. -/
theorem get?_congr {k k' : κ} (same : compare k k' = .eq) (m : OrderedMap κ α) :
    m.get? k = m.get? k' := find_congr same m.entries

theorem mem_insert {m : OrderedMap κ α} {k : κ} {v : α} {a : κ × α}
    (member : a ∈ (m.insert k v).entries) :
    (compare k a.1 = .eq ∧ a.2 = v) ∨ a ∈ m.entries := by
  rcases mem_insertIn member with ⟨same | same, value⟩ | old
  · exact Or.inl ⟨same ▸ Std.ReflCmp.compare_self, value⟩
  · exact Or.inl ⟨same, value⟩
  · exact Or.inr old

theorem insertIn_ordered (k : κ) (v : α) {es : List (κ × α)}
    (ordered : es.Pairwise fun a b => compare a.1 b.1 = .lt) :
    (insertIn k v es).Pairwise fun a b => compare a.1 b.1 = .lt := by
  induction es with
  | nil => simp [insertIn]
  | cons e es ih =>
      obtain ⟨k₁, v₁⟩ := e
      obtain ⟨first, rest⟩ := List.pairwise_cons.mp ordered
      simp only [insertIn]
      split
      · rename_i before
        refine List.pairwise_cons.mpr ⟨fun a member => ?_, ordered⟩
        rcases List.mem_cons.mp member with rfl | later
        · exact before
        · exact Std.TransCmp.lt_trans before (first a later)
      · exact List.pairwise_cons.mpr ⟨first, rest⟩
      · rename_i behind
        refine List.pairwise_cons.mpr ⟨fun a member => ?_, ih rest⟩
        have after : compare k₁ k = .lt := Std.OrientedCmp.lt_of_gt behind
        rcases mem_insertIn member with ⟨same | same, -⟩ | old
        · exact same ▸ after
        · exact Std.TransCmp.lt_of_lt_of_eq after same
        · exact first a old

theorem Ordered.insert {m : OrderedMap κ α} (ordered : m.Ordered) (k : κ) (v : α) :
    (m.insert k v).Ordered := insertIn_ordered k v ordered

theorem find_of_mem {k k' : κ} {v : α} {es : List (κ × α)}
    (ordered : es.Pairwise fun a b => compare a.1 b.1 = .lt) (member : (k', v) ∈ es)
    (same : compare k k' = .eq) : find k es = some v := by
  induction es with
  | nil => simp at member
  | cons e es ih =>
      obtain ⟨k₁, v₁⟩ := e
      obtain ⟨first, rest⟩ := List.pairwise_cons.mp ordered
      rcases List.mem_cons.mp member with here | later
      · cases here
        simp [find, same]
      · have before : compare k₁ k = .lt :=
          Std.TransCmp.lt_of_lt_of_eq (first _ later) (Std.OrientedCmp.eq_symm same)
        have other : compare k k₁ ≠ .eq := fun equal => by
          rw [Std.OrientedCmp.eq_symm equal] at before
          cases before
        simpa [find, other] using ih rest later

/-- In an ordered map every entry is found. -/
theorem Ordered.get?_of_mem {m : OrderedMap κ α} (ordered : m.Ordered) {k k' : κ} {v : α}
    (member : (k', v) ∈ m.entries) (same : compare k k' = .eq) : m.get? k = some v :=
  find_of_mem ordered member same

/-- In an ordered map the entry of a key stands alone. -/
theorem Ordered.get?_split {m : OrderedMap κ α} (ordered : m.Ordered) {k : κ} {v : α}
    (found : m.get? k = some v) : ∃ before k' after,
      m.entries = before ++ (k', v) :: after ∧ compare k k' = .eq ∧
        (∀ e ∈ before, compare k e.1 ≠ .eq) ∧ ∀ e ∈ after, compare k e.1 ≠ .eq := by
  obtain ⟨k', member, same⟩ := mem_of_get? found
  obtain ⟨before, after, split⟩ := List.append_of_mem member
  have pairs : (before ++ (k', v) :: after).Pairwise fun a b => compare a.1 b.1 = .lt := split ▸ ordered
  obtain ⟨-, rest, across⟩ := List.pairwise_append.mp pairs
  refine ⟨before, k', after, split, same, fun e early equal => ?_, fun e late equal => ?_⟩
  · have apart : compare e.1 k' = .lt := across e early (k', v) List.mem_cons_self
    rw [Std.TransCmp.congr_left (Std.OrientedCmp.eq_symm equal), same] at apart
    cases apart
  · have apart : compare k' e.1 = .lt := List.rel_of_pairwise_cons rest late
    rw [Std.TransCmp.congr_left (Std.OrientedCmp.eq_symm same), equal] at apart
    cases apart

omit [Std.TransOrd κ] in
theorem insertIn_append {k k' : κ} {v v' : α} {before after : List (κ × α)}
    (early : ∀ e ∈ before, compare k e.1 = .gt) (same : compare k k' = .eq) :
    insertIn k v' (before ++ (k', v) :: after) = before ++ (k', v') :: after := by
  induction before with
  | nil => simp only [List.nil_append, insertIn, same]
  | cons e before ih =>
      obtain ⟨first, rest⟩ := List.forall_mem_cons.mp early
      simp only [List.cons_append, insertIn, first, ih rest]

/-- A value that is inserted for a key that is there takes the place of the old one. -/
theorem Ordered.insert_split {m : OrderedMap κ α} (ordered : m.Ordered) {k : κ} {v : α}
    (found : m.get? k = some v) (v' : α) : ∃ before k' after,
      m.entries = before ++ (k', v) :: after ∧ (m.insert k v').entries = before ++ (k', v') :: after := by
  obtain ⟨before, k', after, split, same, -⟩ := ordered.get?_split found
  refine ⟨before, k', after, split, ?_⟩
  rw [Ordered, split] at ordered
  have early : ∀ e ∈ before, compare k e.1 = .gt := by
    intro e member
    have first : compare e.1 k' = .lt := (List.pairwise_append.mp ordered).2.2 e member _ List.mem_cons_self
    rw [Std.TransCmp.congr_left same]
    exact Std.OrientedCmp.gt_of_lt first
  rw [OrderedMap.insert, split, insertIn_append early same]

omit [Std.TransOrd κ] in
theorem length_insertIn {k : κ} (v : α) {es : List (κ × α)} (absent : find k es = none) :
    (insertIn k v es).length = es.length + 1 := by
  induction es with
  | nil => rfl
  | cons e es ih =>
      obtain ⟨k₁, v₁⟩ := e
      simp only [find] at absent
      split at absent
      · cases absent
      · rename_i other
        simp only [insertIn]
        split
        · rfl
        · rename_i same
          exact absurd same other
        · simp only [List.length_cons, ih absent]

omit [Std.TransOrd κ] in
theorem size_insert_new {m : OrderedMap κ α} {k : κ} (absent : m.get? k = none) (v : α) :
    (m.insert k v).size = m.size + 1 := length_insertIn v absent

theorem Ordered.size_insert_old {m : OrderedMap κ α} (ordered : m.Ordered) {k : κ} {v : α}
    (found : m.get? k = some v) (v' : α) : (m.insert k v').size = m.size := by
  obtain ⟨before, k', after, split, inserted⟩ := ordered.insert_split found v'
  rw [size, size, split, inserted]
  simp

end LiveMarkup.OrderedMap
