import LiveMarkup.Proofs.Markup.Forest
import LiveMarkup.Proofs.Markup.Reidentification
import LiveMarkup.Proofs.Project.Coherence
import Mathlib.Data.List.Nodup
/-
# LiveMarkup.Proofs.Project.Lookup -- what an identifier resolves to

Looking an identifier up gives an entry, a position in its arena, and by way of the tree
with identifiers an element.  `Registry.Resolves` says that all of these belong together.

In a coherent registry an identifier resolves to an element that has it if and only if no
entry before, in the order of paths, has an element with it (`Coherent.resolves_iff`).  So
an entry that takes the place of another one takes over its identifiers, as far as it has
elements for them (`Coherent.resolves_accept_iff`).
-/

namespace LiveMarkup

set_option autoImplicit false

open LiveMarkup.Syntax

namespace FileEntry

/-- The element with an identifier in one entry. -/
def find? (e : FileEntry) (uid : String) : Option FoundElement := do
  let position ← e.arena.lookup? uid
  return ⟨e, position, ← e.arena.get? position⟩

/-- Has an entry an element with an identifier? -/
def Holds (name : String) (e : FileEntry) (uid : String) : Prop :=
  ∃ x ∈ e.instrumented.elements, x.identifier? name = some uid

variable {w : Workshop} {name uid : String} {e : FileEntry} {x : Markup}

/-- The arena of an entry is the forest of its elements. -/
theorem Genuine.forest (genuine : e.Genuine w name) : IsForestOf name e.instrumented.elements e.arena := by
  obtain ⟨next, instrumented, arena⟩ := genuine.identified
  rw [instrumented, arena]
  exact (identifyOf_visits w.supply name e.parsed.items none ⟨.empty, [], next⟩).forest

theorem Genuine.identifiers (genuine : e.Genuine w name) :
    (e.instrumented.elements.map (Markup.identifier? name)).Nodup ∧
      e.instrumented.elements.map (Markup.identifier? name) = e.arena.uids.map some := by
  obtain ⟨next, instrumented, arena⟩ := genuine.identified
  obtain ⟨listed, distinct, -⟩ :=
    (identifyOf_visits w.supply name e.parsed.items none ⟨.empty, [], next⟩).identifiers
  rw [instrumented, arena]
  exact ⟨distinct, listed⟩

theorem Genuine.settled (genuine : e.Genuine w name) : ∀ x ∈ e.instrumented.elements, x.Settled name := by
  obtain ⟨next, instrumented, -⟩ := genuine.identified
  rw [instrumented]
  exact e.parsed.identify_settled w.supply name next

/-- No two elements of an entry have the same identifier. -/
theorem Genuine.unique (genuine : e.Genuine w name) {y : Markup} (here : x ∈ e.instrumented.elements)
    (there : y ∈ e.instrumented.elements) (same : x.identifier? name = y.identifier? name) : x = y :=
  List.inj_on_of_nodup_map genuine.identifiers.1 here there same

/-- What an entry finds by an identifier is an element that has it, at the same place in the
arena and in the tree. -/
theorem Genuine.find?_spec (genuine : e.Genuine w name) {found : FoundElement}
    (find : e.find? uid = some found) :
    found.entry = e ∧ found.node.uid = uid ∧ ∃ x, e.instrumented.elements[found.position]? = some x ∧
      Shows name x found.node ∧ e.instrumented.find? name found.node.uid = some x := by
  simp only [FileEntry.find?, Option.bind_eq_bind, Option.pure_def, Option.bind_eq_some_iff,
    Option.some.injEq] at find
  obtain ⟨position, listed, node, placed, rfl⟩ := find
  obtain ⟨node', placed', node_uid⟩ := (genuine.forest.lookup uid position).mp listed
  obtain rfl : node' = node := Option.some.inj (placed'.symm.trans placed)
  have inside : position < e.instrumented.elements.length :=
    genuine.forest.size ▸ Arena.lt_size_of_get? placed
  obtain ⟨x, here⟩ : ∃ x, e.instrumented.elements[position]? = some x := ⟨_, List.getElem?_eq_getElem inside⟩
  have shows : Shows name x node' := by
    obtain ⟨n, there, shows⟩ := genuine.forest.node position x here
    obtain rfl : n = node' := Option.some.inj (there.symm.trans placed)
    exact shows
  have carries : x.identifier? name = some uid := node_uid ▸ shows.uid
  refine ⟨rfl, node_uid, x, here, shows, ?_⟩
  have first : (e.instrumented.elements.find? (·.carries name uid)).isSome = true :=
    List.find?_isSome.mpr ⟨x, List.mem_of_getElem? here, beq_iff_eq.mpr carries⟩
  obtain ⟨y, foundY⟩ := Option.isSome_iff_exists.mp first
  have carriesY : y.identifier? name = some uid := by
    simpa [Markup.carries] using List.find?_some foundY
  have itself := genuine.unique (List.mem_of_find?_eq_some foundY) (List.mem_of_getElem? here)
    (carriesY.trans carries.symm)
  simp only [Module.find?, node_uid, foundY, itself]

/-- An entry finds something by an identifier when one of its elements has it. -/
theorem Genuine.find?_isSome_iff (genuine : e.Genuine w name) :
    (e.find? uid).isSome = true ↔ e.Holds name uid := by
  constructor
  · intro some
    obtain ⟨found, find⟩ := Option.isSome_iff_exists.mp some
    obtain ⟨-, node, x, here, shows, -⟩ := genuine.find?_spec find
    exact ⟨x, List.mem_of_getElem? here, node ▸ shows.uid⟩
  · rintro ⟨x, here, carries⟩
    obtain ⟨position, there⟩ := List.mem_iff_getElem?.mp here
    obtain ⟨n, placed, shows⟩ := genuine.forest.node position x there
    have uid' : n.uid = uid := Option.some.inj (shows.uid.symm.trans carries)
    have lookup : e.arena.lookup? uid = some position :=
      (genuine.forest.lookup uid position).mpr ⟨n, placed, uid'⟩
    simp [FileEntry.find?, lookup, placed]

end FileEntry

namespace Registry

variable {w : Workshop} {r : Registry} {uid : String} {e : FileEntry} {x : Markup}

/-- Looking an identifier up gives an element of an entry, at the same place in the arena
and in the tree with identifiers. -/
def Resolves (r : Registry) (uid : String) (e : FileEntry) (x : Markup) : Prop :=
  ∃ found, r.find? uid = some found ∧ found.entry = e ∧ found.element? r = some x ∧
    e.instrumented.elements[found.position]? = some x

/-- An identifier resolves to an element when no entry before has one for it. -/
theorem Coherent.resolves_iff (coherent : r.Coherent w) {before after : List (Path × FileEntry)} {k : Path}
    (split : r.entries.entries = before ++ (k, e) :: after) (here : x ∈ e.instrumented.elements)
    (carries : x.identifier? r.identifierName = some uid) :
    r.Resolves uid e x ↔ ∀ a ∈ before, ¬ a.2.Holds r.identifierName uid := by
  have genuine : ∀ a ∈ r.entries.entries, a.2.Genuine w r.identifierName :=
    fun a member => coherent.genuine a.2 (List.mem_map_of_mem member)
  have early : ∀ a ∈ before, a ∈ r.entries.entries := fun a member => by
    rw [split]
    exact List.mem_append_left _ member
  have itself : (k, e) ∈ r.entries.entries := by simp [split]
  have find : r.find? uid = (before.findSome? fun a => a.2.find? uid).or
      (((k, e) :: after).findSome? fun a => a.2.find? uid) := by
    rw [← List.findSome?_append, ← split]
    exact List.findSome?_map
  constructor
  · rintro ⟨found, look, entry, -⟩ a member holds
    -- an entry before has the identifier, so that one is found
    have some : (before.findSome? fun a => a.2.find? uid).isSome = true :=
      List.findSome?_isSome_iff.mpr ⟨a, member, (genuine a (early a member)).find?_isSome_iff.mpr holds⟩
    obtain ⟨found', first⟩ := Option.isSome_iff_exists.mp some
    rw [find, first, Option.some_or] at look
    obtain rfl := Option.some.inj look
    obtain ⟨a', member', found'⟩ := List.exists_of_findSome?_eq_some first
    have same : a'.2 = e := ((genuine a' (early a' member')).find?_spec found').1.symm.trans entry
    have before : compare a'.1 k = .lt := by
      have ordered := coherent.sound.ordered
      rw [OrderedMap.Ordered, split] at ordered
      exact (List.pairwise_append.mp ordered).2.2 a' member' (k, e) List.mem_cons_self
    obtain ⟨path, -⟩ := coherent.sound.entry a'.1 a'.2 (early a' member')
    obtain ⟨path', -⟩ := coherent.sound.entry k e itself
    rw [Path.compare_eq_iff.mpr (path.trans (same ▸ path'.symm))] at before
    cases before
  · intro none
    have skipped : (before.findSome? fun a => a.2.find? uid) = .none := by
      rw [List.findSome?_eq_none_iff]
      intro a member
      rw [← Option.not_isSome_iff_eq_none, (genuine a (early a member)).find?_isSome_iff]
      exact none a member
    obtain ⟨found, look⟩ := Option.isSome_iff_exists.mp
      ((genuine (k, e) itself).find?_isSome_iff.mpr ⟨x, here, carries⟩)
    obtain ⟨entry, node, y, place, shows, element⟩ := (genuine (k, e) itself).find?_spec look
    have same : y = x := (genuine (k, e) itself).unique (List.mem_of_getElem? place) here
      (shows.uid.trans (node ▸ carries.symm))
    subst same
    refine ⟨found, ?_, entry, ?_, place⟩
    · rw [find, skipped, Option.none_or, List.findSome?_cons, look]
    · rw [FoundElement.element?, entry]
      exact element

/-- An entry that takes the place of another one takes over the identifiers for which it has
elements, too. -/
theorem Coherent.resolves_accept_iff (coherent : r.Coherent w) {p : Path} {made : FileEntry × Nat}
    (coherent' : (r.accept p made).Coherent w) {old : FileEntry} (entry : r.entries.get? p = some old)
    {x x' : Markup} (here : x ∈ old.instrumented.elements) (there : x' ∈ made.1.instrumented.elements)
    (carries : x.identifier? r.identifierName = some uid)
    (carries' : x'.identifier? r.identifierName = some uid) :
    (r.accept p made).Resolves uid made.1 x' ↔ r.Resolves uid old x := by
  obtain ⟨before, k, after, split, replaced⟩ := coherent.sound.ordered.insert_split entry made.1
  rw [coherent.resolves_iff split here carries, coherent'.resolves_iff replaced there carries']
  rfl

end Registry

end LiveMarkup
