/-
# LiveMarkup.OrderedMap -- maps in the order of their keys

An ordered map is the list of its entries by increasing key.  Two keys are the same
when they compare as equal; `insert` on a key that is there replaces the value and
keeps the key as it was first given.  `get?_insert` and `get?_erase` say what the
operations do to look-ups.
-/

namespace LiveMarkup

set_option autoImplicit false

/-- Entries by increasing key. -/
structure OrderedMap (κ α : Type) where
  entries : List (κ × α)
  deriving Repr

namespace OrderedMap

variable {κ α β : Type}

def empty : OrderedMap κ α := ⟨[]⟩

instance : Inhabited (OrderedMap κ α) := ⟨empty⟩

def size (m : OrderedMap κ α) : Nat := m.entries.length

def isEmpty (m : OrderedMap κ α) : Bool := m.entries.isEmpty

def keys (m : OrderedMap κ α) : List κ := m.entries.map (·.1)

def values (m : OrderedMap κ α) : List α := m.entries.map (·.2)

variable [Ord κ]

def find (k : κ) : List (κ × α) → Option α
  | [] => none
  | (k', v) :: rest => if compare k k' = .eq then some v else find k rest

/-- The value of a key. -/
def get? (m : OrderedMap κ α) (k : κ) : Option α := find k m.entries

def contains (m : OrderedMap κ α) (k : κ) : Bool := (m.get? k).isSome

def insertIn (k : κ) (v : α) : List (κ × α) → List (κ × α)
  | [] => [(k, v)]
  | (k', v') :: rest =>
      match compare k k' with
      | .lt => (k, v) :: (k', v') :: rest
      | .eq => (k', v) :: rest
      | .gt => (k', v') :: insertIn k v rest

/-- Give a key a value. -/
def insert (m : OrderedMap κ α) (k : κ) (v : α) : OrderedMap κ α := ⟨insertIn k v m.entries⟩

/-- Remove a key. -/
def erase (m : OrderedMap κ α) (k : κ) : OrderedMap κ α :=
  ⟨m.entries.filter fun e => compare k e.1 != .eq⟩

/-- The map that arises by inserting one entry after the other. -/
def ofList (entries : List (κ × α)) : OrderedMap κ α :=
  entries.foldl (fun m e => m.insert e.1 e.2) empty

theorem find_insertIn [Std.TransOrd κ] (k k' : κ) (v : α) (es : List (κ × α)) :
    find k (insertIn k' v es) = if compare k k' = .eq then some v else find k es := by
  induction es with
  | nil => simp [insertIn, find]
  | cons e es ih =>
    obtain ⟨k₁, v₁⟩ := e
    simp only [insertIn]
    cases h : compare k' k₁ with
    | lt => simp [find]
    | eq =>
      have : compare k k₁ = compare k k' := (Std.TransCmp.congr_right h).symm
      simp [find, this]
      split <;> simp_all
    | gt =>
      simp only [find, ih]
      by_cases h₁ : compare k k₁ = .eq
      · have : compare k k' ≠ .eq := fun h₂ => by
          have h₃ : compare k' k₁ = compare k k₁ := (Std.TransCmp.congr_left h₂).symm
          rw [h, h₁] at h₃
          cases h₃
        simp [h₁, this]
      · simp [h₁]

/-- A look-up after an insertion. -/
theorem get?_insert [Std.TransOrd κ] (m : OrderedMap κ α) (k k' : κ) (v : α) :
    (m.insert k' v).get? k = if compare k k' = .eq then some v else m.get? k :=
  find_insertIn k k' v m.entries

theorem find_filter [Std.TransOrd κ] (k k' : κ) (es : List (κ × α)) :
    find k (es.filter fun e => compare k' e.1 != .eq) =
      if compare k k' = .eq then none else find k es := by
  induction es with
  | nil => simp [find]
  | cons e es ih =>
    obtain ⟨k₁, v₁⟩ := e
    by_cases h : compare k' k₁ = .eq
    · have : compare k k₁ = compare k k' := (Std.TransCmp.congr_right h).symm
      simp only [List.filter_cons, h, bne_self_eq_false, Bool.false_eq_true, if_false, ih, find, this]
      split <;> simp_all
    · have hb : (compare k' k₁ != .eq) = true := by simpa using h
      simp only [List.filter_cons, hb, if_true, find, ih]
      by_cases h₁ : compare k k₁ = .eq
      · have : compare k k' ≠ .eq := fun h₂ => h (by
          rw [← h₁]
          exact (Std.TransCmp.congr_left h₂).symm)
        simp [h₁, this]
      · simp [h₁]

/-- A look-up after a removal. -/
theorem get?_erase [Std.TransOrd κ] (m : OrderedMap κ α) (k k' : κ) :
    (m.erase k').get? k = if compare k k' = .eq then none else m.get? k :=
  find_filter k k' m.entries

end OrderedMap

end LiveMarkup
