import LiveMarkup.Proofs.OrderedMap
import LiveMarkup.Source.Document
/-
# LiveMarkup.Proofs.Path -- what does not depend on the spelling of a path

Two paths with the same components are one file.  They compare as equal
(`Path.compare_eq_iff`), have the same variant, and the same texts are readable under
them (`readable_congr`).
-/

namespace LiveMarkup

set_option autoImplicit false

open LiveMarkup.Syntax

instance : Std.LawfulEqOrd PathStep where
  eq_of_compare {a b} same := by
    have ranks : compare a.rank b.rank = .eq ∧ compare a.text b.text = .eq :=
      Ordering.then_eq_eq.mp same
    have rank : a.rank = b.rank := Std.LawfulEqCmp.eq_of_compare ranks.1
    have text : a.text = b.text := Std.LawfulEqCmp.eq_of_compare ranks.2
    cases a <;> cases b <;> simp_all [PathStep.rank, PathStep.text]

namespace Path

@[simp] theorem compare_eq_iff {p q : Path} : compare p q = .eq ↔ p.components = q.components :=
  Std.LawfulEqOrd.compare_eq_iff_eq (a := p.components) (b := q.components)

theorem beq_iff {p q : Path} : (p == q) = true ↔ p.components = q.components :=
  beq_iff_eq (a := p.components) (b := q.components)

theorem contains_iff {paths : List Path} {p : Path} :
    paths.contains p = true ↔ ∃ q ∈ paths, p.components = q.components := by
  simp only [List.contains_iff_exists_mem_beq, beq_iff]

theorem contains_congr {p q : Path} (same : p.components = q.components) (paths : List Path) :
    paths.contains p = paths.contains q := by
  rw [Bool.eq_iff_iff, contains_iff, contains_iff, same]

theorem contains_cons {paths : List Path} {p q : Path} (other : p.components ≠ q.components) :
    (q :: paths).contains p = paths.contains p := by
  have differs : (p == q) = false := by
    rw [Bool.eq_false_iff]
    exact fun same => other (beq_iff.mp same)
  rw [List.contains_cons, differs, Bool.false_or]

theorem contains_cons_self {paths : List Path} {p q : Path} (same : p.components = q.components) :
    (q :: paths).contains p = true := by
  rw [List.contains_cons, beq_iff.mpr same, Bool.true_or]

theorem contains_filter {paths : List Path} {p q : Path} (other : p.components ≠ q.components) :
    (paths.filter (· != q)).contains p = paths.contains p := by
  rw [Bool.eq_iff_iff, contains_iff, contains_iff]
  constructor
  · rintro ⟨q', listed, same⟩
    exact ⟨q', (List.mem_filter.mp listed).1, same⟩
  · rintro ⟨q', listed, same⟩
    refine ⟨q', List.mem_filter.mpr ⟨listed, ?_⟩, same⟩
    rw [bne, Bool.not_eq_true', Bool.eq_false_iff]
    exact fun equal => other (same.trans (beq_iff.mp equal))

theorem extension?_congr {p q : Path} (same : p.components = q.components) :
    p.extension? = q.extension? := by
  simp only [extension?, fileName?, same]

end Path

theorem Variant.ofPath?_congr {p q : Path} (same : p.components = q.components) :
    Variant.ofPath? p = Variant.ofPath? q := by
  simp only [Variant.ofPath?, Path.extension?_congr same]

theorem Path.isSource_congr {p q : Path} (same : p.components = q.components) :
    p.isSource = q.isSource := by
  simp only [Path.isSource, Variant.ofPath?_congr same]

/-! ## Readable texts -/

/-- A text can be read as the content of a file. -/
def Readable (l : Language) (path : Path) (text : String) : Prop :=
  ∃ d, (Document.read l path text).value = .ok d

instance (l : Language) (path : Path) (text : String) : Decidable (Readable l path text) :=
  match read : (Document.read l path text).value with
  | .ok d => isTrue ⟨d, read⟩
  | .error _ => isFalse fun ⟨_, readable⟩ => by cases read.symm.trans readable

namespace Document

variable {l : Language} {path : Path} {text : String}

/-- What is read is a document of that path, in the variant of its extension. -/
theorem read_eq_ok {d : Document} (read : (Document.read l path text).value = .ok d) :
    d.path = path ∧ Variant.ofPath? path = some d.variant ∧
      (l.readModule d.variant.dialect text).outcome = .ok d.content := by
  unfold Document.read at read
  split at read
  · simp at read
  · rename_i v variant
    simp only at read
    split at read
    · rename_i m outcome
      obtain rfl := Except.ok.inj read
      exact ⟨rfl, variant, outcome⟩
    · simp at read

/-- A file of no variant is the only one that is refused unread. -/
theorem read_eq_unsupported {shown : String}
    (read : (Document.read l path text).value = .error (.unsupported shown)) :
    path.isSource = false := by
  unfold Document.read at read
  split at read
  · rename_i variant
    simp [Path.isSource, variant]
  · simp only at read
    split at read <;> simp at read

end Document

theorem readable_iff {l : Language} {path : Path} {text : String} :
    Readable l path text ↔ ∃ v m, Variant.ofPath? path = some v ∧
      (l.readModule v.dialect text).outcome = .ok m := by
  constructor
  · rintro ⟨d, read⟩
    obtain ⟨-, variant, outcome⟩ := Document.read_eq_ok read
    exact ⟨d.variant, d.content, variant, outcome⟩
  · rintro ⟨v, m, variant, outcome⟩
    exact ⟨⟨path, v, m⟩, by simp [Document.read, variant, outcome]⟩

theorem readable_congr {l : Language} {p q : Path} (same : p.components = q.components)
    (text : String) : Readable l p text ↔ Readable l q text := by
  rw [readable_iff, readable_iff, Variant.ofPath?_congr same]

end LiveMarkup
