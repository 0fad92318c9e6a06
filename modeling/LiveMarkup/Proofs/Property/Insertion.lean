import LiveMarkup.Proofs.Property.Merging
import Mathlib.Data.List.Induction
import Mathlib.Data.List.Nodup
import Mathlib.Logic.Function.Basic
/-
# LiveMarkup.Proofs.Property.Insertion -- a style keeps its keys in the order they came in

A style is built by setting and removing keys (`Step`).  The same steps on plain bindings say
what each key is bound to (`bindings`), and the position of the step at which a key last came
in, not being bound, is its rank (`LastInserted`).

After any steps from the empty style the keys are distinct and stand by rank, looking a key up
finds its binding, and taking a key gives what looking it up finds (`insertion_ordered`).  A
list of entries is collected by such steps.

Looking up stops at the first entry of a key and removing takes only that one away, so with
repeated keys a removed key would be found again.  What removing does to look-ups is said for
distinct keys alone, and every step keeps them distinct.
-/

namespace LiveMarkup.Style

set_option autoImplicit false

variable {s : Style} {key name : String} {value : StyleValue}

def keys (s : Style) : List String := s.entries.map (·.key)

theorem get?_cons (e : StyleEntry) (es : List StyleEntry) (key : String) :
    get? ⟨e :: es⟩ key = if e.key = key then some e.value else get? ⟨es⟩ key := by
  by_cases same : e.key = key <;> simp [get?, same]

theorem get?_eq_none_iff : s.get? key = none ↔ key ∉ s.keys := by
  obtain ⟨es⟩ := s
  induction es with
  | nil => simp [get?, keys]
  | cons e es ih =>
      rw [get?_cons]
      by_cases same : e.key = key
      · simp [keys, same]
      · simpa [keys, same, Ne.symm same] using ih

/-! ## Setting a key -/

/-- A key is bound where it is set, and nothing else changes. -/
theorem get?_set (s : Style) (key : String) (value : StyleValue) (name : String) :
    (s.set key value).get? name = if name = key then some value else s.get? name := by
  obtain ⟨es⟩ := s
  induction es with
  | nil =>
      show get? ⟨[⟨key, value⟩]⟩ name = _
      rw [get?_cons]
      simp only [eq_comm]
  | cons e es ih =>
      rw [set, setIn]
      by_cases same : e.key = key
      · rw [if_pos same, get?_cons, get?_cons]
        by_cases asked : name = key
        · simp [asked]
        · simp [asked, Ne.symm asked, same]
      · rw [if_neg same, get?_cons, get?_cons]
        by_cases here : e.key = name
        · rw [if_pos here, if_pos here, if_neg fun asked => same (here.trans asked)]
        · rw [if_neg here, if_neg here]
          exact ih

/-- A key that is there keeps its place; a new one goes behind all others. -/
theorem keys_set (s : Style) (key : String) (value : StyleValue) :
    (s.set key value).keys = if key ∈ s.keys then s.keys else s.keys ++ [key] := by
  obtain ⟨es⟩ := s
  rcases setIn_cases key value es with ⟨absent, appended⟩ | ⟨xs, a, ys, rfl, rfl, replaced⟩
  · have new : key ∉ keys ⟨es⟩ := absent
    rw [if_neg new, keys, set, appended, List.map_append]
    rfl
  · rw [if_pos (by simp [keys]), keys, set, replaced]
    simp [keys]

theorem nodup_set (distinct : s.keys.Nodup) (key : String) (value : StyleValue) :
    (s.set key value).keys.Nodup := by
  rw [keys_set]
  split
  · exact distinct
  · rename_i absent
    simpa only [List.concat_eq_append] using distinct.concat absent

/-! ## Taking a key -/

theorem take_cons (e : StyleEntry) (es : List StyleEntry) (key : String) :
    take ⟨e :: es⟩ key =
      if e.key = key then (some e.value, ⟨es⟩)
      else ((take ⟨es⟩ key).1, ⟨e :: (take ⟨es⟩ key).2.entries⟩) := by
  by_cases same : e.key = key
  · simp [take, List.findIdx?_cons, same]
  · rw [if_neg same]
    unfold take
    rw [List.findIdx?_cons, if_neg (by simpa using same)]
    cases es.findIdx? fun e => e.key == key <;> rfl

/-- Taking a key gives what looking it up finds. -/
theorem take_value (s : Style) (key : String) : (s.take key).1 = s.get? key := by
  obtain ⟨es⟩ := s
  induction es with
  | nil => rfl
  | cons e es ih =>
      rw [take_cons, get?_cons]
      split
      · rfl
      · exact ih

/-- The key that is removed leaves its place, and all others keep theirs. -/
theorem keys_remove (s : Style) (key : String) : (s.remove key).keys = s.keys.erase key := by
  obtain ⟨es⟩ := s
  induction es with
  | nil => rfl
  | cons e es ih =>
      rw [remove, take_cons]
      by_cases same : e.key = key
      · rw [if_pos same]
        simp [keys, same]
      · rw [if_neg same]
        have later : (take ⟨es⟩ key).2.entries.map (·.key) = (es.map (·.key)).erase key := ih
        simp [keys, same, later]

/-- A key that is there once is unbound where it is removed, and nothing else changes. -/
theorem get?_remove (distinct : s.keys.Nodup) (key name : String) :
    (s.remove key).get? name = if name = key then none else s.get? name := by
  obtain ⟨es⟩ := s
  induction es with
  | nil => simp [remove, take, get?]
  | cons e es ih =>
      obtain ⟨apart, distinct⟩ := List.nodup_cons.mp distinct
      rw [remove, take_cons]
      by_cases same : e.key = key
      · rw [if_pos same, get?_cons]
        by_cases asked : name = key
        · rw [if_pos asked, get?_eq_none_iff, asked, ← same]
          exact apart
        · rw [if_neg asked, if_neg fun here => asked (here.symm.trans same)]
      · rw [if_neg same, get?_cons, get?_cons]
        by_cases here : e.key = name
        · rw [if_pos here, if_pos here, if_neg fun asked => same (here.trans asked)]
        · rw [if_neg here, if_neg here]
          exact ih distinct

/-! ## Steps -/

/-- A step by which a style is built. -/
inductive Step where
  | set (key : String) (value : StyleValue)
  | remove (key : String)

namespace Step

def apply (s : Style) : Step → Style
  | set key value => s.set key value
  | remove key => s.remove key

/-- The step on bindings of keys. -/
def bind (bound : String → Option StyleValue) : Step → String → Option StyleValue
  | set key value => Function.update bound key (some value)
  | remove key => Function.update bound key none

end Step

/-- The style that steps build from nothing. -/
def run (steps : List Step) : Style := steps.foldl Step.apply empty

/-- What keys are bound to after steps. -/
def bindings (steps : List Step) : String → Option StyleValue := steps.foldl Step.bind fun _ => none

/-- A step at which a key comes in: it is set there and was not bound before. -/
def Inserts (steps : List Step) (key : String) (i : Nat) : Prop :=
  (∃ value, steps[i]? = some (.set key value)) ∧ bindings (steps.take i) key = none

/-- The step at which a key last came in. -/
def LastInserted (steps : List Step) (key : String) (i : Nat) : Prop :=
  Inserts steps key i ∧ ∀ j, Inserts steps key j → j ≤ i

variable {steps : List Step} {x : Step} {i : Nat}

theorem run_append (steps : List Step) (x : Step) : run (steps ++ [x]) = x.apply (run steps) := by
  rw [run, List.foldl_append]
  rfl

theorem bindings_append (steps : List Step) (x : Step) :
    bindings (steps ++ [x]) = x.bind (bindings steps) := by
  rw [bindings, List.foldl_append]
  rfl

theorem run_spec (steps : List Step) : (run steps).keys.Nodup ∧ ∀ key, (run steps).get? key = bindings steps key := by
  induction steps using List.reverseRecOn with
  | nil => exact ⟨List.nodup_nil, fun _ => rfl⟩
  | append_singleton steps x ih =>
      obtain ⟨distinct, agrees⟩ := ih
      rw [run_append, bindings_append]
      cases x with
      | set key value =>
          refine ⟨nodup_set distinct key value, fun name => ?_⟩
          rw [Step.apply, get?_set, agrees, Step.bind, Function.update_apply]
      | remove key =>
          refine ⟨?_, fun name => ?_⟩
          · rw [Step.apply, keys_remove]
            exact distinct.erase key
          · rw [Step.apply, get?_remove distinct, agrees, Step.bind, Function.update_apply]

/-! ## Ranks -/

theorem Inserts.lt (inserts : Inserts steps key i) : i < steps.length := by
  obtain ⟨⟨value, here⟩, -⟩ := inserts
  exact (List.getElem?_eq_some_iff.mp here).1

theorem inserts_append : Inserts (steps ++ [x]) key i ↔
    Inserts steps key i ∨ (i = steps.length ∧ (∃ value, x = .set key value) ∧ bindings steps key = none) := by
  rcases Nat.lt_trichotomy i steps.length with before | rfl | behind
  · rw [Inserts, Inserts, List.getElem?_append_left before, List.take_append_of_le_length (Nat.le_of_lt before)]
    simp [Nat.ne_of_lt before]
  · simp [Inserts]
  · have early : ¬ Inserts steps key i := fun inserts => Nat.lt_asymm behind inserts.lt
    have beyond : ¬ Inserts (steps ++ [x]) key i := by
      intro inserts
      have bound := inserts.lt
      rw [List.length_append, List.length_singleton] at bound
      omega
    simp [early, beyond, Nat.ne_of_gt behind]

/-- A step that does not bring a key in leaves its rank. -/
theorem lastInserted_append (old : ¬ ((∃ value, x = .set key value) ∧ bindings steps key = none)) :
    LastInserted (steps ++ [x]) key i ↔ LastInserted steps key i := by
  have same : ∀ j, Inserts (steps ++ [x]) key j ↔ Inserts steps key j := by
    intro j
    rw [inserts_append]
    exact or_iff_left fun new => old new.2
  simp only [LastInserted, same]

/-- A key that comes in comes in last. -/
theorem lastInserted_new (absent : bindings steps key = none) (value : StyleValue) :
    LastInserted (steps ++ [.set key value]) key steps.length := by
  refine ⟨inserts_append.mpr (.inr ⟨rfl, ⟨value, rfl⟩, absent⟩), fun j inserts => ?_⟩
  have bound := inserts.lt
  rw [List.length_append, List.length_singleton] at bound
  omega

/-- Keys stand by the ranks that steps give them. -/
structure Ranked (steps : List Step) (keys : List String) : Prop where
  ranks : ∀ key ∈ keys, ∃ i, LastInserted steps key i
  increasing : keys.Pairwise fun a b => ∀ i j, LastInserted steps a i → LastInserted steps b j → i < j

/-- Fewer keys with the same ranks stand by them. -/
theorem Ranked.sublist {steps steps' : List Step} {keys keys' : List String} (ranked : Ranked steps keys)
    (fewer : keys'.Sublist keys)
    (same : ∀ key ∈ keys', ∀ i, LastInserted steps' key i ↔ LastInserted steps key i) :
    Ranked steps' keys' := by
  constructor
  · intro key member
    obtain ⟨i, last⟩ := ranked.ranks key (fewer.subset member)
    exact ⟨i, (same key member i).mpr last⟩
  · refine (ranked.increasing.sublist fewer).imp_of_mem fun a_in b_in increasing i j first second => ?_
    exact increasing i j ((same _ a_in i).mp first) ((same _ b_in j).mp second)

/-- A key that comes in ranks behind all others. -/
theorem Ranked.concat {keys : List String} (ranked : Ranked steps keys) (new : key ∉ keys)
    (absent : bindings steps key = none) (value : StyleValue) :
    Ranked (steps ++ [.set key value]) (keys ++ [key]) := by
  have last := lastInserted_new absent value
  have old : ∀ other ∈ keys, ∀ i,
      LastInserted (steps ++ [.set key value]) other i ↔ LastInserted steps other i := by
    intro other member i
    refine lastInserted_append ?_
    rintro ⟨⟨value', same⟩, -⟩
    cases same
    exact new member
  have kept : Ranked (steps ++ [.set key value]) keys := ranked.sublist (List.Sublist.refl keys) old
  constructor
  · intro other member
    rcases List.mem_append.mp member with before | here
    · exact kept.ranks other before
    · obtain rfl := List.mem_singleton.mp here
      exact ⟨_, last⟩
  · rw [List.pairwise_append]
    refine ⟨kept.increasing, List.pairwise_singleton .., fun a before b here i j first second => ?_⟩
    obtain rfl := List.mem_singleton.mp here
    exact Nat.lt_of_lt_of_le ((old a before i).mp first).1.lt (second.2 _ last.1)

theorem run_ranked (steps : List Step) : Ranked steps (run steps).keys := by
  induction steps using List.reverseRecOn with
  | nil => exact ⟨nofun, List.Pairwise.nil⟩
  | append_singleton steps x ih =>
      have bound : ∀ key, bindings steps key = none ↔ key ∉ (run steps).keys := by
        intro key
        rw [← (run_spec steps).2, get?_eq_none_iff]
      rw [run_append]
      cases x with
      | set key value =>
          rw [Step.apply, keys_set]
          split
          · rename_i present
            refine ih.sublist (List.Sublist.refl _) fun other _ i => lastInserted_append ?_
            rintro ⟨⟨value', same⟩, absent⟩
            cases same
            exact (bound key).mp absent present
          · rename_i absent
            exact ih.concat absent ((bound key).mpr absent) value
      | remove key =>
          rw [Step.apply, keys_remove]
          refine ih.sublist List.erase_sublist fun other _ i => lastInserted_append ?_
          rintro ⟨⟨value', same⟩, -⟩
          cases same

/-- **A style is a map that keeps its keys in the order they came in.**  After any steps its keys are
distinct and stand by the steps at which they last came in; looking up agrees with the bindings,
taking a key gives what looking it up finds, setting a key that is there moves none and another
one comes behind all, and entries are collected by setting them in turn. -/
theorem insertion_ordered (steps : List Step) :
    (run steps).keys.Nodup ∧
    (∀ key, (run steps).get? key = bindings steps key) ∧
    (∀ key, (run steps).take key = ((run steps).get? key, run (steps ++ [.remove key]))) ∧
    Ranked steps (run steps).keys ∧
    (∀ key value, ((run steps).set key value).keys =
      if ((run steps).get? key).isSome then (run steps).keys else (run steps).keys ++ [key]) ∧
    ∀ es : List StyleEntry, ofEntries es = run (es.map fun e => .set e.key e.value) := by
  obtain ⟨distinct, agrees⟩ := run_spec steps
  refine ⟨distinct, agrees, fun key => ?_, run_ranked steps, fun key value => ?_, fun es => ?_⟩
  · rw [run_append]
    exact Prod.ext (take_value _ key) rfl
  · rw [keys_set]
    by_cases present : key ∈ (run steps).keys
    · have found : ((run steps).get? key).isSome = true :=
        Option.isSome_iff_ne_none.mpr fun absent => get?_eq_none_iff.mp absent present
      rw [if_pos present, if_pos found]
    · rw [if_neg present, get?_eq_none_iff.mpr present]
      rfl
  · rw [ofEntries, run, List.foldl_map]
    rfl

/-- A key that was removed comes in again behind the others. -/
example : (run [.set "a" (.string "1"), .set "b" (.string "2"), .remove "a", .set "b" (.string "3"),
    .set "a" (.string "4")]).entries = [⟨"b", .string "3"⟩, ⟨"a", .string "4"⟩] := by decide

end LiveMarkup.Style
