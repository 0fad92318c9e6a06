import LiveMarkup.Proofs.Project.Coherence
import LiveMarkup.Proofs.Project.Currency
import Mathlib.Tactic.ByContra
/-
# LiveMarkup.Proofs.Project.Load -- what is known of a store that was read as a whole

Behind `loadAll` there is an entry, of the text that the store holds, for every file that
is read and can be read, and a diagnostic for every file that is read and cannot.  Of other
paths there is no entry.  But a diagnostic of such a path stays: only the paths of entries
are compared with the listing.  So the registry describes exactly the store if and only if
no path off the listing had a diagnostic before (`loadAll_describes_iff`).

The paths that are forgotten may be found by halving the listing, since a store lists in
the order of paths (`loadAll_eq_halving`).

Poles: a file that is mended, and a file that cannot be read and then is deleted
(`diagnostic_outlives_file`).
-/

namespace LiveMarkup

set_option autoImplicit false

open LiveMarkup.Syntax

namespace Registry

variable {w : Workshop} {r : Registry} {p : Path} {store : MemoryStore}

/-- The files of a store in memory that a registry reads. -/
def listed (r : Registry) (store : MemoryStore) : List Path :=
  (store.files.keys.filter Path.isSource).filter r.tracks

theorem contains_listed :
    (r.listed store).contains p = true ↔ r.tracks p = true ∧ ∃ text, store.get? p = some text := by
  rw [Path.contains_iff]
  constructor
  · rintro ⟨q, member, same⟩
    obtain ⟨there, tracked⟩ := List.mem_filter.mp member
    exact ⟨(tracks_congr same r).trans tracked,
      MemoryStore.mem_keys.mp ⟨q, (List.mem_filter.mp there).1, same⟩⟩
  · rintro ⟨tracked, held⟩
    obtain ⟨q, there, same⟩ := MemoryStore.mem_keys.mpr held
    have trackedQ : r.tracks q = true := (tracks_congr same r).symm.trans tracked
    exact ⟨q, List.mem_filter.mpr ⟨List.mem_filter.mpr ⟨there, source_of_tracks trackedQ⟩, trackedQ⟩, same⟩

/-- No file is listed twice. -/
theorem listed_distinct (ordered : store.files.Ordered) :
    (r.listed store).Pairwise fun p q => p.components ≠ q.components := by
  have keys : store.files.keys.Pairwise fun p q => compare p q = .lt := List.pairwise_map.mpr ordered
  refine ((keys.filter _).filter _).imp fun before same => ?_
  rw [Path.compare_eq_iff.mpr same] at before
  cases before

/-! ## Files off the listing -/

/-- Reading files again does not matter to another one. -/
theorem refreshAll_known {ps : List Path} (off : ps.contains p = false) (n : LoadSummary) (r : Registry) :
    (refreshAll w store ps n r).value.2.known p = r.known p := by
  induction ps generalizing n r with
  | nil => rfl
  | cons q ps ih =>
      have other : p.components ≠ q.components := by
        intro same
        rw [Path.contains_cons_self same] at off
        cases off
      rw [Path.contains_cons other] at off
      exact (ih off _ _).trans ((refresh_differs w r store q).known p other)

/-- Of a path off the listing there is no entry any more, and the diagnostic that was. -/
theorem loadAll_off (coherent : r.Coherent w) (off : (r.listed store).contains p = false) :
    (r.loadAll w store).value.2.entries.get? p = none ∧
      (r.loadAll w store).value.2.diagnostics.get? p = r.diagnostics.get? p := by
  have known : (r.loadAll w store).value.2.known p =
      ((r.entries.keys.filter fun q => !(r.listed store).contains q).foldl remove r).known p :=
    refreshAll_known off _ _
  rw [← known_entry, ← known_diagnostic, known, foldl_remove_known]
  cases entry : r.entries.get? p with
  | none =>
      split
      · rename_i stale
        obtain ⟨q, member, same⟩ := Path.contains_iff.mp stale
        have found := OrderedMap.get?_isSome_of_mem (List.mem_filter.mp member).1
          (Path.compare_eq_iff.mpr same)
        rw [entry] at found
        cases found
      · exact ⟨entry, rfl⟩
  | some e =>
      obtain ⟨q, member, same⟩ := OrderedMap.mem_keys_of_get? entry
      have key : p.components = q.components := Path.compare_eq_iff.mp same
      have offQ : (r.listed store).contains q = false := (Path.contains_congr key _).symm.trans off
      have stale : (r.entries.keys.filter fun q => !(r.listed store).contains q).contains p = true :=
        Path.contains_iff.mpr ⟨q, List.mem_filter.mpr ⟨member, by rw [offQ]; rfl⟩, key⟩
      have clear : r.diagnostics.get? p = none := coherent.exclusive p (by rw [entry]; rfl)
      rw [if_pos stale, clear]
      exact ⟨rfl, rfl⟩

/-! ## Counts -/

/-- Is there a text for a path, and can it be read? -/
def holdsReadable (l : Language) (store : MemoryStore) (p : Path) : Bool :=
  match store.get? p with
  | some text => decide (Readable l p text)
  | none => false

/-- Reading a file again succeeds when its text can be read. -/
theorem refresh_succeeds (tracked : r.tracks p = true) {text : String} (held : store.get? p = some text) :
    ((∃ u, (r.refresh w store p).value.1 = .ok u) ↔ holdsReadable w.language store p = true) := by
  have source := source_of_tracks tracked
  simp only [refresh, tracked, MemoryStore.ignores_eq_false, Bool.not_true, Bool.or_self,
    Bool.false_eq_true, if_false, MemoryStore.read_eq_ok held, Logged.bind_value, Logged.pure_value,
    holdsReadable, held, decide_eq_true_eq]
  rcases ingest_cases w r p text with ⟨d, read, value⟩ | ⟨shown, other, -⟩ | ⟨f, unreadable, value⟩
  · rw [value]
    exact ⟨fun _ => ⟨d, read⟩, fun _ => ⟨(), rfl⟩⟩
  · rw [source] at other
    cases other
  · rw [value]
    exact ⟨fun ⟨u, failed⟩ => (by cases failed), fun readable => absurd readable unreadable⟩

theorem refreshAll_counts {ps : List Path}
    (here : ∀ p ∈ ps, r.tracks p = true ∧ ∃ text, store.get? p = some text) (n : LoadSummary) :
    (refreshAll w store ps n r).value.1 =
      ⟨n.loaded + ps.countP (holdsReadable w.language store),
        n.failed + ps.countP fun p => !holdsReadable w.language store p⟩ := by
  induction ps generalizing n r with
  | nil => rfl
  | cons q ps ih =>
      obtain ⟨tracked, text, held⟩ := here q List.mem_cons_self
      have rest : ∀ p ∈ ps, (r.refresh w store q).value.2.tracks p = true ∧
          ∃ text, store.get? p = some text := by
        intro p member
        obtain ⟨trackedP, heldP⟩ := here p (List.mem_cons_of_mem _ member)
        exact ⟨((refresh_differs w r store q).tracks p).trans trackedP, heldP⟩
      have succeeds := refresh_succeeds (w := w) tracked held
      simp only [refreshAll, Logged.bind_value]
      rw [ih rest]
      cases result : (r.refresh w store q).value.1 with
      | ok u =>
          have readable : holdsReadable w.language store q = true := succeeds.mp ⟨u, result⟩
          simp only [List.countP_cons, readable, if_true, Bool.not_true, Bool.false_eq_true, if_false,
            Nat.add_zero, LoadSummary.mk.injEq, and_true]
          omega
      | error f =>
          have unreadable : holdsReadable w.language store q = false := by
            rw [Bool.eq_false_iff]
            intro readable
            obtain ⟨u, fine⟩ := succeeds.mpr readable
            rw [result] at fine
            cases fine
          simp only [List.countP_cons, unreadable, Bool.false_eq_true, if_false, Bool.not_false, if_true,
            Nat.add_zero, LoadSummary.mk.injEq, true_and]
          omega

/-! ## The whole store -/

/-- What is known behind a load of a file that is read. -/
theorem loadAll_here (arises : r.Arises w) (here : (r.listed store).contains p = true) :
    ∃ text, store.get? p = some text ∧
      (Readable w.language p text →
        (∃ e, (r.loadAll w store).value.2.entries.get? p = some e ∧ e.source = text) ∧
        (r.loadAll w store).value.2.diagnostics.get? p = none) ∧
      (¬ Readable w.language p text →
        (r.loadAll w store).value.2.entries.get? p = none ∧
        ((r.loadAll w store).value.2.diagnostics.get? p).isSome = true) := by
  obtain ⟨tracked, text, held⟩ := contains_listed.mp here
  have current : ((r.loadAll w store).value.2.known p).Current w.language p (store.get? p) none :=
    loadAll_current w tracked
  refine ⟨text, held, fun readable => ?_, current.unreadable text held⟩
  obtain ⟨e, entry, source | own⟩ := current.readable text held readable
  · rw [known_entry] at entry
    refine ⟨⟨e, entry, source⟩, (Arises.loadAll arises store).coherent.exclusive p ?_⟩
    rw [entry]
    rfl
  · cases own

/-- A file that is read has an entry when its text can be read, and else a diagnostic. -/
theorem loadAll_isSome (arises : r.Arises w) (here : (r.listed store).contains p = true) :
    ((r.loadAll w store).value.2.entries.get? p).isSome = holdsReadable w.language store p ∧
      ((r.loadAll w store).value.2.diagnostics.get? p).isSome = !holdsReadable w.language store p := by
  obtain ⟨text, held, readable, unreadable⟩ := loadAll_here arises here
  simp only [holdsReadable, held]
  by_cases can : Readable w.language p text
  · obtain ⟨⟨e, entry, -⟩, clear⟩ := readable can
    rw [entry, clear, decide_eq_true can]
    exact ⟨rfl, rfl⟩
  · obtain ⟨gone, diagnostic⟩ := unreadable can
    rw [gone, diagnostic, decide_eq_false can]
    exact ⟨rfl, rfl⟩

theorem loadAll_counts (r : Registry) (store : MemoryStore) :
    (r.loadAll w store).value.1 = .ok
      ⟨(r.listed store).countP (holdsReadable w.language store),
        (r.listed store).countP fun p => !holdsReadable w.language store p⟩ := by
  have tracked : ∀ p ∈ r.listed store,
      ((r.entries.keys.filter fun q => !(r.listed store).contains q).foldl remove r).tracks p = true ∧
        ∃ text, store.get? p = some text := by
    intro p member
    obtain ⟨trackedP, held⟩ := contains_listed.mp (Path.contains_iff.mpr ⟨p, member, rfl⟩)
    exact ⟨((foldl_remove_moves w _ r).tracks p).trans trackedP, held⟩
  have summary := refreshAll_counts (w := w) tracked ⟨0, 0⟩
  rw [Nat.zero_add, Nat.zero_add] at summary
  exact congrArg Except.ok summary

/-- There is an entry or a diagnostic of a path when it is listed, or had a diagnostic. -/
theorem loadAll_known_iff (arises : r.Arises w) (store : MemoryStore) (p : Path) :
    (((r.loadAll w store).value.2.entries.get? p).isSome = true ∨
        ((r.loadAll w store).value.2.diagnostics.get? p).isSome = true) ↔
      (r.listed store).contains p = true ∨ (r.diagnostics.get? p).isSome = true := by
  cases listed : (r.listed store).contains p with
  | true =>
      obtain ⟨entry, diagnostic⟩ := loadAll_isSome arises listed
      rw [entry, diagnostic]
      cases holdsReadable w.language store p <;> simp
  | false =>
      obtain ⟨gone, stays⟩ := loadAll_off arises.coherent listed
      rw [gone, stays]
      simp

/-- **A load describes the store, but for diagnostics of files that are gone.**  Reading a
store in memory as a whole succeeds.  Of every file that is listed and read there is an entry
of the text that is held, and no diagnostic, when the text can be read, and else a diagnostic
and no entry; the summary counts the former and the latter, no file twice.  Of any other path
there is no entry, and the diagnostic there was.  So there is an entry or a diagnostic of the
listed files and of no others if and only if no other path had a diagnostic before. -/
theorem loadAll_describes_iff (arises : r.Arises w) (store : MemoryStore) :
    ∃ n r', (r.loadAll w store).value = (.ok n, r') ∧
      (∀ p, (r.listed store).contains p = true → ∃ text, store.get? p = some text ∧
        (Readable w.language p text →
          (∃ e, r'.entries.get? p = some e ∧ e.source = text) ∧ r'.diagnostics.get? p = none) ∧
        (¬ Readable w.language p text →
          r'.entries.get? p = none ∧ (r'.diagnostics.get? p).isSome = true)) ∧
      (∀ p, (r.listed store).contains p = false →
        r'.entries.get? p = none ∧ r'.diagnostics.get? p = r.diagnostics.get? p) ∧
      n.loaded = (r.listed store).countP (fun p => (r'.entries.get? p).isSome) ∧
      n.failed = (r.listed store).countP (fun p => (r'.diagnostics.get? p).isSome) ∧
      (store.files.Ordered → (r.listed store).Pairwise fun p q => p.components ≠ q.components) ∧
      ((∀ p, (r'.entries.get? p).isSome = true ∨ (r'.diagnostics.get? p).isSome = true ↔
          (r.listed store).contains p = true) ↔
        ∀ p, (r.diagnostics.get? p).isSome = true → (r.listed store).contains p = true) := by
  have each : ∀ p ∈ r.listed store,
      ((r.loadAll w store).value.2.entries.get? p).isSome = holdsReadable w.language store p ∧
        ((r.loadAll w store).value.2.diagnostics.get? p).isSome = !holdsReadable w.language store p :=
    fun p member => loadAll_isSome arises (Path.contains_iff.mpr ⟨p, member, rfl⟩)
  refine ⟨_, (r.loadAll w store).value.2, Prod.ext (loadAll_counts r store) rfl,
    fun p => loadAll_here arises, fun p => loadAll_off arises.coherent, ?_, ?_, listed_distinct, ?_⟩
  · exact List.countP_congr fun p member => by rw [(each p member).1]
  · exact List.countP_congr fun p member => by rw [(each p member).2]
  · simp only [loadAll_known_iff arises]
    exact ⟨fun exact p known => (exact p).mp (Or.inr known), fun clean p =>
      ⟨fun known => known.elim id (clean p), Or.inl⟩⟩

/-! ## Forgetting by halving -/

/-- Is a path in a list that is in order?  The list is halved as long as it has two paths. -/
def halving (p : Path) (ps : List Path) : Bool :=
  if _h : ps.length ≤ 1 then ps.any fun q => compare q p == .eq
  else if compare ps[ps.length / 2] p = .gt then halving p (ps.take (ps.length - ps.length / 2))
  else halving p (ps.drop (ps.length / 2))
  termination_by ps.length
  decreasing_by all_goals simp; omega

/-- In a list that is in order, halving finds what is there. -/
theorem halving_eq_contains {ps : List Path} (ordered : ps.Pairwise fun p q => compare p q = .lt) :
    halving p ps = ps.contains p := by
  -- a half without the path may be left out
  have leave : ∀ {kept left : List Path}, (∀ q ∈ left, compare p q ≠ .eq) →
      (kept ++ left).contains p = kept.contains p ∧ (left ++ kept).contains p = kept.contains p := by
    intro kept left other
    have none : left.contains p = false := by
      rw [Bool.eq_false_iff]
      intro there
      obtain ⟨q, member, same⟩ := Path.contains_iff.mp there
      exact other q member (Path.compare_eq_iff.mpr same)
    simp only [List.contains_append, none, Bool.or_false, Bool.false_or, and_self]
  induction ps using halving.induct p with
  | case1 ps short =>
      rw [halving, dif_pos short, Bool.eq_iff_iff, List.any_eq_true, Path.contains_iff]
      simp only [beq_iff_eq, Path.compare_eq_iff, @eq_comm _ p.components]
  | case2 ps long above ih =>
      have middle : ps.length / 2 < ps.length := by omega
      have later : (ps.drop (ps.length / 2)).Pairwise fun p q => compare p q = .lt :=
        ordered.sublist (List.drop_sublist _ _)
      rw [List.drop_eq_getElem_cons middle] at later
      have other : ∀ q ∈ ps.drop (ps.length - ps.length / 2), compare p q ≠ .eq := by
        intro q member
        have half : q ∈ ps.drop (ps.length / 2) :=
          (List.drop_sublist_drop_left ps (by omega)).mem member
        rw [List.drop_eq_getElem_cons middle] at half
        have before : compare p ps[ps.length / 2] = .lt := Std.OrientedCmp.lt_of_gt above
        rcases List.mem_cons.mp half with rfl | behind
        · rw [before]
          decide
        · rw [Std.TransCmp.lt_trans before (List.rel_of_pairwise_cons later behind)]
          decide
      rw [halving, dif_neg long, if_pos above, ih (ordered.sublist (List.take_sublist _ _)),
        ← (leave other).1, List.take_append_drop]
  | case3 ps long notAbove ih =>
      have middle : ps.length / 2 < ps.length := by omega
      have across : ∀ q ∈ ps.take (ps.length / 2), ∀ q' ∈ ps.drop (ps.length / 2), compare q q' = .lt := by
        rw [← List.take_append_drop (ps.length / 2) ps] at ordered
        exact (List.pairwise_append.mp ordered).2.2
      have other : ∀ q ∈ ps.take (ps.length / 2), compare p q ≠ .eq := by
        intro q member same
        have before : compare q ps[ps.length / 2] = .lt := by
          apply across q member
          rw [List.drop_eq_getElem_cons middle]
          exact List.mem_cons_self
        rw [Std.TransCmp.congr_left (Std.OrientedCmp.eq_symm same)] at before
        exact notAbove (Std.OrientedCmp.gt_of_lt before)
      rw [halving, dif_neg long, if_neg notAbove, ih (ordered.sublist (List.drop_sublist _ _)),
        ← (leave other).2, List.take_append_drop]

/-- Over a store in order it does not matter that the listing is halved. -/
theorem loadAll_eq_halving (w : Workshop) (r : Registry) (ordered : store.files.Ordered) :
    r.loadAll w store = (do
      let stale := r.entries.keys.filter fun q => !halving q (r.listed store)
      let result ← refreshAll w store (r.listed store) ⟨0, 0⟩ (stale.foldl remove r)
      return (.ok result.1, result.2)) := by
  have keys : store.files.keys.Pairwise fun p q => compare p q = .lt := List.pairwise_map.mpr ordered
  have listing : (r.listed store).Pairwise fun p q => compare p q = .lt := (keys.filter _).filter _
  simp only [halving_eq_contains listing]
  rfl

/-! ## Poles -/

open Session (deskWorkshop deskPath deskText deskStore)

/-- A registry that has read a store whose script is cut off. -/
def strayed : Registry :=
  ((Registry.new "data-uid" 0).loadAll deskWorkshop (deskStore "<b>;")).value.2

theorem strayed_arises : strayed.Arises deskWorkshop := .loadAll (.new "data-uid" 0) _

/-- The script has been mended when the store is read again. -/
theorem loadAll_describes_mended : ∃ n r',
    (strayed.loadAll deskWorkshop (deskStore deskText)).value = (.ok n, r') ∧
    (strayed.diagnostics.get? deskPath).isSome = true ∧
    (∃ e, r'.entries.get? deskPath = some e ∧ e.source = deskText) ∧
    r'.diagnostics.get? deskPath = none := by
  have facts : (strayed.diagnostics.get? deskPath).isSome = true ∧
      (strayed.listed (deskStore deskText)).contains deskPath = true ∧
      (deskStore deskText).get? deskPath = some deskText ∧
      Readable deskWorkshop.language deskPath deskText := by decide +kernel
  obtain ⟨known, here, held, readable⟩ := facts
  obtain ⟨n, r', value, describes, -⟩ := loadAll_describes_iff strayed_arises (deskStore deskText)
  obtain ⟨text, same, taken, -⟩ := describes deskPath here
  obtain rfl : deskText = text := Option.some.inj (held.symm.trans same)
  exact ⟨n, r', value, known, taken readable⟩

/-- Refuting pole: the script has been deleted when the store is read again, and the failure
is kept for it. -/
theorem diagnostic_outlives_file :
    strayed.Arises deskWorkshop ∧ ∃ n r',
      (strayed.loadAll deskWorkshop ((deskStore "<b>;").delete deskPath)).value = (.ok n, r') ∧
      strayed.listed ((deskStore "<b>;").delete deskPath) = [] ∧
      (r'.diagnostics.get? deskPath).isSome = true := by
  refine ⟨strayed_arises, _, _, Prod.ext (loadAll_counts _ _) rfl, by decide +kernel⟩

end Registry

end LiveMarkup
