import LiveMarkup.Proofs.Path
import LiveMarkup.Store.Basic
/-
# LiveMarkup.Proofs.Store.Memory -- a store in memory as a finite function

A store in memory is known by what `get?` finds: writing and deleting change that for one
path (`get?_put`, `get?_delete`), reading answers with it, and what is found is listed
(`mem_keys`).
-/

namespace LiveMarkup.MemoryStore

set_option autoImplicit false

variable {s : MemoryStore} {p q : Path} {text : String}

theorem get?_put : (s.put p text).get? q =
    if q.components = p.components then some text else s.get? q := by
  simp only [put, get?, OrderedMap.get?_insert, Path.compare_eq_iff]

theorem get?_delete : (s.delete p).get? q =
    if q.components = p.components then none else s.get? q := by
  simp only [delete, get?, OrderedMap.get?_erase, Path.compare_eq_iff]

theorem get?_congr (same : p.components = q.components) : s.get? p = s.get? q :=
  OrderedMap.get?_congr (Path.compare_eq_iff.mpr same) s.files

theorem read_eq_ok (held : s.get? p = some text) : SourceStore.read s p = .ok text := by
  simp only [SourceStore.read, held]

theorem read_eq_notFound (missing : s.get? p = none) : SourceStore.read s p = .error (.notFound p) := by
  simp only [SourceStore.read, missing]

theorem ignores_eq_false (s : MemoryStore) (p : Path) : SourceStore.ignores s p = false := rfl

/-- What is found is listed, and what is listed is found. -/
theorem mem_keys : (∃ q ∈ s.files.keys, p.components = q.components) ↔ ∃ text, s.get? p = some text := by
  constructor
  · rintro ⟨q, listed, same⟩
    exact Option.isSome_iff_exists.mp
      (OrderedMap.get?_isSome_of_mem listed (Path.compare_eq_iff.mpr same))
  · rintro ⟨text, held⟩
    obtain ⟨q, listed, same⟩ := OrderedMap.mem_keys_of_get? held
    exact ⟨q, listed, Path.compare_eq_iff.mp same⟩

end LiveMarkup.MemoryStore
