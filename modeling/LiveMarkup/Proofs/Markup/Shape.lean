import LiveMarkup.Proofs.Markup.Stripping
import LiveMarkup.Property.Patch
/-
# LiveMarkup.Proofs.Markup.Shape -- trees by their bare trees

A tree is its bare tree up to lines and the spelling of strings and numbers.  So where the
bare tree is a literal, a name or a container, the tree is one, too, with some spelling,
and it shows the same number (`literalNumber?_of_bare`).
-/

namespace LiveMarkup.Syntax

set_option autoImplicit false

open LiveMarkup.Property (stringTree containerTree literalNumber?)

theorem kind_of_bare {kind kind' : Kind} (same : kind.bare = kind') :
    kind = kind' ∨ (∃ value raw, kind = .string value raw ∧ kind' = .string value none) ∨
      ∃ value raw, kind = .number value raw ∧ kind' = .number value none := by
  unfold Kind.bare at same
  split at same
  · exact .inr (.inl ⟨_, _, rfl, same.symm⟩)
  · exact .inr (.inr ⟨_, _, rfl, same.symm⟩)
  · exact .inl same

theorem eq_nil_of_bareOf {ts : List Tree} (same : bareOf ts = []) : ts = [] := by
  cases ts with
  | nil => rfl
  | cons t ts => cases same

theorem eq_singleton_of_bareOf {ts : List Tree} {u : Tree} (same : bareOf ts = [u]) :
    ∃ t, ts = [t] ∧ t.bare = u := by
  match ts with
  | [] => cases same
  | [t] => exact ⟨t, rfl, (List.cons.inj same).1⟩
  | _ :: _ :: _ => cases same

theorem eq_node_of_bare {t : Tree} {kind : Kind} {parts : List Tree} (same : t.bare = .node kind parts) :
    ∃ kind' parts', t = .node kind' parts' ∧ kind'.bare = kind ∧ bareOf parts' = parts := by
  cases t with
  | node kind' parts' =>
      obtain ⟨kinds, partss⟩ := Tree.node.inj same
      exact ⟨kind', parts', rfl, kinds, partss⟩
  | element e => cases same

theorem eq_string_of_bare {t : Tree} {s : String} (same : t.bare = stringTree s) :
    ∃ raw, t = .node (.string s raw) [] := by
  obtain ⟨kind, parts, rfl, kinds, none⟩ := eq_node_of_bare same
  obtain rfl := eq_nil_of_bareOf none
  rcases kind_of_bare kinds with rfl | ⟨value, raw, rfl, string⟩ | ⟨_, _, _, string⟩
  · exact ⟨_, rfl⟩
  · cases string
    exact ⟨raw, rfl⟩
  · cases string

theorem eq_container_of_bare {t u : Tree} (same : t.bare = containerTree u) :
    ∃ t', t = containerTree t' ∧ t'.bare = u := by
  obtain ⟨kind, parts, rfl, kinds, only⟩ := eq_node_of_bare same
  obtain ⟨t', rfl, inner⟩ := eq_singleton_of_bareOf only
  rcases kind_of_bare kinds with rfl | ⟨_, _, _, container⟩ | ⟨_, _, _, container⟩
  · exact ⟨t', rfl, inner⟩
  · cases container
  · cases container

theorem eq_markupText_of_bare {t : Tree} {value raw : String} (same : t.bare = .leaf (.markupText value raw)) :
    t = .leaf (.markupText value raw) := by
  obtain ⟨kind, parts, rfl, kinds, none⟩ := eq_node_of_bare same
  obtain rfl := eq_nil_of_bareOf none
  rcases kind_of_bare kinds with rfl | ⟨_, _, _, text⟩ | ⟨_, _, _, text⟩
  · rfl
  · cases text
  · cases text

/-! ## Literals -/

theorem eq_number_of_bare {t : Tree} {x : Double} {parts : List Tree}
    (same : t.bare = .node (.number x none) parts) : ∃ raw parts', t = .node (.number x raw) parts' := by
  obtain ⟨kind, parts', rfl, kinds, -⟩ := eq_node_of_bare same
  rcases kind_of_bare kinds with rfl | ⟨_, _, _, number⟩ | ⟨value, raw, rfl, number⟩
  · exact ⟨none, parts', rfl⟩
  · cases number
  · cases number
    exact ⟨raw, parts', rfl⟩

theorem eq_text_of_bare {t : Tree} {s : String} {parts : List Tree}
    (same : t.bare = .node (.string s none) parts) : ∃ raw parts', t = .node (.string s raw) parts' := by
  obtain ⟨kind, parts', rfl, kinds, -⟩ := eq_node_of_bare same
  rcases kind_of_bare kinds with rfl | ⟨value, raw, rfl, text⟩ | ⟨_, _, _, text⟩
  · exact ⟨none, parts', rfl⟩
  · cases text
    exact ⟨raw, parts', rfl⟩
  · cases text

theorem eq_identifier_of_bare {t : Tree} {name : String} (same : t.bare = .leaf (.identifier name)) :
    t = .leaf (.identifier name) := by
  obtain ⟨kind, parts, rfl, kinds, none⟩ := eq_node_of_bare same
  obtain rfl := eq_nil_of_bareOf none
  rcases kind_of_bare kinds with rfl | ⟨_, _, _, name⟩ | ⟨_, _, _, name⟩
  · rfl
  · cases name
  · cases name

theorem literalNumber?_cases {t : Tree} {x : Double} (literal : literalNumber? t = some x) :
    (∃ raw parts, t = .node (.number x raw) parts) ∨
      ∃ y raw parts, t = .node (.unary "-") [.node (.number y raw) parts] ∧ x = y.neg := by
  unfold literalNumber? at literal
  split at literal
  · cases literal
    exact .inl ⟨_, _, rfl⟩
  · cases literal
    exact .inr ⟨_, _, _, rfl, rfl⟩
  · cases literal

theorem literalNumber?_eq_some_of_bare {t u : Tree} (same : t.bare = u.bare) {x : Double}
    (literal : literalNumber? u = some x) : literalNumber? t = some x := by
  rcases literalNumber?_cases literal with ⟨raw, parts, rfl⟩ | ⟨y, raw, parts, rfl, rfl⟩
  · obtain ⟨raw', parts', rfl⟩ := eq_number_of_bare same
    rfl
  · obtain ⟨kind, parts', rfl, kinds, only⟩ := eq_node_of_bare same
    obtain ⟨t', rfl, inner⟩ := eq_singleton_of_bareOf only
    obtain ⟨raw', parts', rfl⟩ := eq_number_of_bare inner
    rcases kind_of_bare kinds with rfl | ⟨_, _, _, minus⟩ | ⟨_, _, _, minus⟩
    · rfl
    · cases minus
    · cases minus

theorem literalNumber?_of_bare {t u : Tree} (same : t.bare = u.bare) :
    literalNumber? t = literalNumber? u :=
  Option.ext fun _ => ⟨literalNumber?_eq_some_of_bare same.symm, literalNumber?_eq_some_of_bare same⟩

end LiveMarkup.Syntax
