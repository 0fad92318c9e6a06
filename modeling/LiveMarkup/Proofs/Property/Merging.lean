import LiveMarkup.Property.Style
/-
# LiveMarkup.Proofs.Property.Merging -- what is lost when entries are merged

A style that is built entry by entry keeps one entry of each key, at the place of the first
and with the value of the last (`setIn_cases`).  Entries with distinct keys stay as they
are (`ofEntries_of_nodup`).

As a list of bindings, in which the last one of a key counts, merged entries mean what they
meant before as long as no key is repeated across a spread (`Orderly`): a spread may bind any
key, so a binding that moves to the other side of it may lose or win (`lastValue_ofEntries`).
-/

namespace LiveMarkup

set_option autoImplicit false

/-- The value that a key has in the end. -/
def lastValue {V : Type} (key : String) : List (String × V) → Option V
  | [] => none
  | b :: bs => (lastValue key bs).or (if b.1 = key then some b.2 else none)

/-- Is the entry written as its code alone? -/
def StyleEntry.isPasted (e : StyleEntry) : Bool :=
  match e.value with
  | .code _ => e.isSpread
  | _ => false

theorem isSpread_of_isPasted {e : StyleEntry} (pasted : e.isPasted = true) : e.isSpread = true := by
  unfold StyleEntry.isPasted at pasted
  split at pasted
  · exact pasted
  · cases pasted

/-- What matters of an entry for the order of entries. -/
def StyleEntry.label (e : StyleEntry) : String × Bool := (e.key, e.isPasted)

/-- No key is repeated across a spread. -/
structure Orderly (labels : List (String × Bool)) : Prop where
  ends : ∀ x y, [x, y].Sublist labels → x.1 = y.1 → x.2 = false ∧ y.2 = false
  between : ∀ x z y, [x, z, y].Sublist labels → x.1 = y.1 → z.2 = false

theorem Orderly.sublist {labels labels' : List (String × Bool)} (orderly : Orderly labels)
    (fewer : labels'.Sublist labels) : Orderly labels' :=
  ⟨fun x y sub => orderly.ends x y (sub.trans fewer),
    fun x z y sub => orderly.between x z y (sub.trans fewer)⟩

/-! ## Setting one entry -/

section Entries

variable {key : String} {value : StyleValue} {es : List StyleEntry}

/-- A key is set where it stands, or behind all others. -/
theorem setIn_cases (key : String) (value : StyleValue) (es : List StyleEntry) :
    (key ∉ es.map (·.key) ∧ Style.setIn key value es = es ++ [⟨key, value⟩]) ∨
      ∃ xs a ys, es = xs ++ a :: ys ∧ a.key = key ∧
        Style.setIn key value es = xs ++ ⟨key, value⟩ :: ys := by
  induction es with
  | nil => exact .inl ⟨nofun, rfl⟩
  | cons e es ih =>
      by_cases same : e.key = key
      · exact .inr ⟨[], e, es, rfl, same, by simp [Style.setIn, same]⟩
      · rcases ih with ⟨absent, appended⟩ | ⟨xs, a, ys, rfl, found, replaced⟩
        · refine .inl ⟨?_, by simp [Style.setIn, same, appended]⟩
          simpa [Ne.symm same] using absent
        · exact .inr ⟨e :: xs, a, ys, rfl, found, by simp [Style.setIn, same, replaced]⟩

/-- Setting one entry after the other. -/
def settle (settled es : List StyleEntry) : List StyleEntry :=
  es.foldl (fun es e => Style.setIn e.key e.value es) settled

theorem entries_ofEntries (es : List StyleEntry) : (Style.ofEntries es).entries = settle [] es := by
  suffices general : ∀ s : Style,
      (es.foldl (fun s e => s.set e.key e.value) s).entries = settle s.entries es from
    general Style.empty
  induction es with
  | nil => exact fun s => rfl
  | cons e es ih => exact fun s => ih (s.set e.key e.value)

theorem settle_of_nodup (settled : List StyleEntry) (distinct : ((settled ++ es).map (·.key)).Nodup) :
    settle settled es = settled ++ es := by
  induction es generalizing settled with
  | nil => simp [settle]
  | cons e es ih =>
      have appended : Style.setIn e.key e.value settled = settled ++ [e] := by
        rcases setIn_cases e.key e.value settled with ⟨-, appended⟩ | ⟨xs, a, ys, rfl, found, -⟩
        · exact appended
        · simp only [List.map_append, List.map_cons, List.nodup_append] at distinct
          exact absurd found (distinct.2.2 a.key (by simp) e.key (by simp))
      have after := ih (settled ++ [e]) (by simpa using distinct)
      simpa [settle, appended] using after

/-- Entries with distinct keys are not merged. -/
theorem ofEntries_of_nodup (distinct : (es.map (·.key)).Nodup) : (Style.ofEntries es).entries = es := by
  rw [entries_ofEntries, settle_of_nodup [] (by simpa using distinct), List.nil_append]

theorem mem_settle (settled : List StyleEntry) {e : StyleEntry} (member : e ∈ settle settled es) :
    e ∈ settled ∨ e ∈ es := by
  induction es generalizing settled with
  | nil => exact .inl member
  | cons b es ih =>
      rcases ih (Style.setIn b.key b.value settled) member with early | late
      · rcases setIn_cases b.key b.value settled with ⟨-, appended⟩ | ⟨xs, a, ys, rfl, -, replaced⟩
        · rw [appended] at early
          rcases List.mem_append.mp early with old | new
          · exact .inl old
          · exact .inr (List.mem_cons.mpr (.inl (List.mem_singleton.mp new)))
        · rw [replaced] at early
          simp only [List.mem_append, List.mem_cons] at early ⊢
          rcases early with old | new | old
          · exact .inl (.inl old)
          · exact .inr (.inl new)
          · exact .inl (.inr (.inr old))
      · exact .inr (List.mem_cons_of_mem _ late)

/-- Merging makes no entries. -/
theorem mem_of_mem_ofEntries {e : StyleEntry} (member : e ∈ (Style.ofEntries es).entries) : e ∈ es := by
  rw [entries_ofEntries] at member
  exact (mem_settle [] member).resolve_left nofun

end Entries

/-! ## Bindings -/

section Bindings

variable {V : Type} {key : String}

theorem lastValue_append (as bs : List (String × V)) :
    lastValue key (as ++ bs) = (lastValue key bs).or (lastValue key as) := by
  induction as with
  | nil => simp [lastValue]
  | cons a as ih => simp only [List.cons_append, lastValue, ih, Option.or_assoc]

theorem lastValue_eq_none {bs : List (String × V)} (others : ∀ b ∈ bs, b.1 ≠ key) :
    lastValue key bs = none := by
  induction bs with
  | nil => rfl
  | cons b bs ih =>
      obtain ⟨other, rest⟩ := List.forall_mem_cons.mp others
      simp [lastValue, ih rest, other]

/-- Bindings of one key may be joined where the last of them counts: at the place of the first,
when nothing between them binds that key. -/
theorem lastValue_join {bs : List (String × V)} {name : String} (others : ∀ b ∈ bs, b.1 ≠ name) (old new : V) :
    lastValue key ((name, new) :: bs) = lastValue key ((name, old) :: (bs ++ [(name, new)])) := by
  by_cases same : name = key
  · subst same
    have none := lastValue_eq_none others
    simp [lastValue, lastValue_append, none]
  · simp [lastValue, lastValue_append, same]

variable {f : StyleEntry → List (String × V)}

/-- An entry that is no spread binds its key alone. -/
def BindsKeys (f : StyleEntry → List (String × V)) (es : List StyleEntry) : Prop :=
  ∀ e ∈ es, e.isPasted = false → ∃ v, f e = [(e.key, v)]

/-- One entry is set where its key stood: what it passes on the way binds other keys. -/
theorem lastValue_replaced {xs ys zs : List StyleEntry} {a e : StyleEntry} (same : a.key = e.key)
    (binds : BindsKeys f (xs ++ a :: ys ++ e :: zs)) (distinct : ((xs ++ a :: ys).map (·.key)).Nodup)
    (orderly : Orderly ((xs ++ a :: ys ++ e :: zs).map (·.label))) :
    lastValue key ((xs ++ e :: ys ++ zs).flatMap f) = lastValue key ((xs ++ a :: ys ++ e :: zs).flatMap f) := by
  have ends : [a, e].Sublist (xs ++ a :: ys ++ e :: zs) := by simp
  obtain ⟨plainA, plainE⟩ := orderly.ends a.label e.label (ends.map _) same
  obtain ⟨old, boundA⟩ := binds a (by simp) plainA
  obtain ⟨new, boundE⟩ := binds e (by simp) plainE
  -- no spread stands between two entries of one key, and no third entry of it does either
  have others : ∀ b ∈ ys.flatMap f, b.1 ≠ e.key := by
    intro b bound
    obtain ⟨y, member, bound⟩ := List.mem_flatMap.mp bound
    have between : [a, y, e].Sublist (xs ++ a :: ys ++ e :: zs) := by
      have passed : [y, e].Sublist (ys ++ e :: zs) :=
        (List.singleton_sublist.mpr member).append ((List.nil_sublist zs).cons_cons e)
      rw [List.append_assoc]
      exact (passed.cons_cons a).trans (List.sublist_append_right xs _)
    have plainY : y.isPasted = false := orderly.between a.label y.label e.label (between.map _) same
    obtain ⟨v, boundY⟩ := binds y (by simp [member]) plainY
    rw [List.map_append, List.map_cons] at distinct
    have apart := (List.nodup_cons.mp (List.nodup_append.mp distinct).2.1).1
    rw [boundY] at bound
    obtain rfl := List.mem_singleton.mp bound
    intro equal
    exact apart (List.mem_map.mpr ⟨y, member, equal.trans same.symm⟩)
  have before : (xs ++ a :: ys ++ e :: zs).flatMap f =
      xs.flatMap f ++ (((e.key, old) :: (ys.flatMap f ++ [(e.key, new)])) ++ zs.flatMap f) := by
    simp [boundA, boundE, same]
  have after : (xs ++ e :: ys ++ zs).flatMap f =
      xs.flatMap f ++ (((e.key, new) :: ys.flatMap f) ++ zs.flatMap f) := by
    simp [boundE]
  rw [before, after, lastValue_append, lastValue_append, lastValue_join others old new,
    ← lastValue_append, ← lastValue_append]

theorem keys_replaced {xs ys : List StyleEntry} {a e : StyleEntry} (same : a.key = e.key) :
    (xs ++ e :: ys).map (·.key) = (xs ++ a :: ys).map (·.key) := by
  simp [same]

/-- Setting entries one after the other keeps what they bind: what is settled has each key once,
so an entry replaces one earlier entry at most. -/
theorem settle_spec (settled : List StyleEntry) {es : List StyleEntry} (binds : BindsKeys f (settled ++ es))
    (distinct : (settled.map (·.key)).Nodup) (orderly : Orderly ((settled ++ es).map (·.label))) :
    lastValue key ((settle settled es).flatMap f) = lastValue key ((settled ++ es).flatMap f) := by
  induction es generalizing settled with
  | nil => simp [settle]
  | cons e es ih =>
      rcases setIn_cases e.key e.value settled with ⟨absent, appended⟩ | ⟨xs, a, ys, rfl, found, replaced⟩
      · have appended : Style.setIn e.key e.value settled = settled ++ [e] := appended
        have distinct' : ((settled ++ [e]).map (·.key)).Nodup := by
          rw [List.map_append, List.nodup_append]
          refine ⟨distinct, by simp, fun k member k' last => ?_⟩
          obtain rfl := List.mem_singleton.mp last
          rintro rfl
          exact absent member
        have after := ih (settled ++ [e]) (by simpa using binds) distinct' (by simpa using orderly)
        simpa [settle, appended] using after
      · have replaced : Style.setIn e.key e.value (xs ++ a :: ys) = xs ++ e :: ys := replaced
        have ends : [a, e].Sublist (xs ++ a :: ys ++ e :: es) := by simp
        obtain ⟨plainA, plainE⟩ := orderly.ends a.label e.label (ends.map _) found
        have label : a.label = e.label := Prod.ext found (plainA.trans plainE.symm)
        have fewer :
            ((xs ++ e :: ys ++ es).map (·.label)).Sublist ((xs ++ a :: ys ++ e :: es).map (·.label)) := by
          simp [label]
        have bindsFewer : BindsKeys f (xs ++ e :: ys ++ es) := by
          intro b member
          refine binds b ?_
          simp only [List.mem_append, List.mem_cons] at member ⊢
          rcases member with (early | rfl | late) | rest
          · exact .inl (.inl early)
          · exact .inr (.inl rfl)
          · exact .inl (.inr (.inr late))
          · exact .inr (.inr rest)
        have after := ih (xs ++ e :: ys) bindsFewer (by rwa [keys_replaced found])
          (orderly.sublist fewer)
        rw [← lastValue_replaced found binds distinct orderly]
        simpa [settle, replaced] using after

/-- Merged entries bind what the entries bound. -/
theorem lastValue_ofEntries {es : List StyleEntry} (binds : BindsKeys f es)
    (orderly : Orderly (es.map (·.label))) :
    lastValue key ((Style.ofEntries es).entries.flatMap f) = lastValue key (es.flatMap f) := by
  rw [entries_ofEntries]
  exact settle_spec [] (by simpa using binds) List.nodup_nil (by simpa using orderly)

end Bindings

end LiveMarkup
