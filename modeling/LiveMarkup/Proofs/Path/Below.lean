import LiveMarkup.Path.Basic
/-
# LiveMarkup.Proofs.Path.Below -- a path continued by names, and what is left of it below a base

A path is text, and its components are read off the pieces between slashes.  A name put behind
a path is one more component (`components_child`), however the path is spelled: with a slash at
its end, without one, or empty.  Below a base that has a component the components of the base
are gone and the others stay (`components_below`), whatever stands between them.
-/

namespace LiveMarkup.Text

set_option autoImplicit false

variable {sep : Char}

theorem split_append (as bs : List Char) : split sep (as ++ sep :: bs) = split sep as ++ split sep bs := by
  induction as with
  | nil => simp [split]
  | cons a as ih =>
      rw [List.cons_append, split, split, ih]
      split
      · rfl
      · cases pieces : split sep as with
        | nil => exact absurd pieces (split_ne_nil sep as)
        | cons piece pieces => rfl

theorem split_of_not_mem {cs : List Char} (whole : sep ∉ cs) : split sep cs = [cs] := by
  induction cs with
  | nil => rfl
  | cons c cs ih =>
      rw [List.mem_cons, not_or] at whole
      rw [split, if_neg (Ne.symm whole.1), ih whole.2]

theorem not_mem_of_mem_split {cs piece : List Char} (member : piece ∈ split sep cs) : sep ∉ piece := by
  induction cs generalizing piece with
  | nil =>
      obtain rfl := List.mem_singleton.mp member
      nofun
  | cons c cs ih =>
      rw [split] at member
      split at member
      · rcases List.mem_cons.mp member with rfl | later
        · nofun
        · exact ih later
      · rename_i other
        cases pieces : split sep cs with
        | nil => exact absurd pieces (split_ne_nil sep cs)
        | cons first rest =>
            rw [pieces] at member ih
            rcases List.mem_cons.mp member with rfl | later
            · rw [List.mem_cons, not_or]
              exact ⟨Ne.symm other, ih List.mem_cons_self⟩
            · exact ih (List.mem_cons_of_mem _ later)

/-- Pieces without separators are found again. -/
theorem split_join {pieces : List (List Char)} (some : pieces ≠ []) (whole : ∀ piece ∈ pieces, sep ∉ piece) :
    split sep (join sep pieces) = pieces := by
  induction pieces with
  | nil => exact absurd rfl some
  | cons piece pieces ih =>
      obtain ⟨here, rest⟩ := List.forall_mem_cons.mp whole
      cases pieces with
      | nil => exact split_of_not_mem here
      | cons next more =>
          rw [join, split_append, split_of_not_mem here, ih (List.cons_ne_nil _ _) rest,
            List.singleton_append]
          exact List.cons_ne_nil _ _

end LiveMarkup.Text

namespace LiveMarkup.Path

set_option autoImplicit false

open LiveMarkup.Text

/-- A name that a file or a directory may have. -/
structure IsName (name : String) : Prop where
  whole : '/' ∉ name.toList
  some : name ≠ ""
  notCurrent : name ≠ "."
  notParent : name ≠ ".."

variable {p base : Path} {name : String}

theorem IsName.toList_ne (named : IsName name) :
    name.toList ≠ [] ∧ name.toList ≠ ['.'] ∧ name.toList ≠ ['.', '.'] := by
  refine ⟨fun same => named.some ?_, fun same => named.notCurrent ?_, fun same => named.notParent ?_⟩ <;>
    exact String.toList_inj.mp same

/-- A piece away from the start, with its component. -/
def piece (cs : List Char) : List Char × Option PathStep := (cs, PathStep.ofPiece? cs)

theorem IsName.piece_eq (named : IsName name) : piece name.toList = (name.toList, .some (.name name)) := by
  obtain ⟨some, current, parent⟩ := named.toList_ne
  rw [piece, PathStep.ofPiece?, if_neg some, if_neg current, if_neg parent, String.ofList_toList]

/-- Every text but the empty one is a path with a component. -/
theorem components_ne_nil (some : p.text ≠ "") : p.components ≠ [] := by
  have text : p.text.toList ≠ [] := fun empty => some (String.toList_eq_nil_iff.mp empty)
  rw [components, pieces, isAbsolute]
  obtain ⟨c, cs, spelled⟩ := List.exists_cons_of_ne_nil text
  rw [spelled]
  by_cases slash : c = '/'
  · simp [split, slash]
  · -- the first piece starts with that character, so it is a component
    obtain ⟨more, rest, first⟩ : ∃ more rest, split '/' (c :: cs) = (c :: more) :: rest := by
      rw [split, if_neg slash]
      cases split '/' cs with
      | nil => exact ⟨[], [], rfl⟩
      | cons piece pieces => exact ⟨piece, pieces, rfl⟩
    have component : PathStep.ofFirst? (c :: more) ≠ none := by
      unfold PathStep.ofFirst? PathStep.ofPiece?
      repeat' split
      all_goals simp_all
    obtain ⟨step, is⟩ := Option.ne_none_iff_exists'.mp component
    simp [first, slash, is]

/-! ## Names behind a path -/

/-- The pieces in front of a slash. -/
def stem (cs : List Char) : List (List Char × Option PathStep) :=
  match split '/' cs with
  | [] => []
  | first :: rest =>
      (if (cs ++ ['/']).head? = some '/' then ([], some .root) else (first, PathStep.ofFirst? first)) ::
        rest.map piece

theorem pieces_slash {as bs : List Char} (text : p.text.toList = as ++ '/' :: bs) :
    p.pieces = stem as ++ (split '/' bs).map piece := by
  have front : (as ++ '/' :: bs).head? = (as ++ ['/']).head? := by cases as <;> rfl
  rw [pieces, stem, isAbsolute, text, split_append, front]
  cases pieces : split '/' as with
  | nil => exact absurd pieces (split_ne_nil '/' as)
  | cons first rest =>
      simp only [List.cons_append, List.map_append, beq_iff_eq]
      split <;> rfl

theorem pieces_stem (some : p.text.toList ≠ []) : p.pieces = stem p.text.toList := by
  have front : (p.text.toList ++ ['/']).head? = p.text.toList.head? := by
    cases text : p.text.toList with
    | nil => exact absurd text some
    | cons c cs => rfl
  rw [pieces, stem, isAbsolute, front]
  cases pieces : split '/' p.text.toList with
  | nil => exact absurd pieces (split_ne_nil '/' _)
  | cons first rest =>
      simp only [beq_iff_eq]
      split <;> rfl

/-- A name behind a slash is one more component. -/
theorem components_slash {as : List Char} (named : IsName name) (text : p.text.toList = as ++ '/' :: name.toList) :
    p.components = (stem as).filterMap (·.2) ++ [.name name] := by
  rw [components, pieces_slash text, split_of_not_mem named.whole, List.filterMap_append, List.map_singleton,
    named.piece_eq]
  rfl

/-- A name put behind a path is one more component. -/
theorem components_child (p : Path) (named : IsName name) :
    (p.child name).components = p.components ++ [.name name] := by
  have relative : isAbsolute ⟨name⟩ = false := by
    rw [isAbsolute, beq_eq_false_iff_ne]
    exact fun first => named.whole (List.mem_of_mem_head? first)
  show (append p ⟨name⟩).components = _
  rw [append, relative, if_neg Bool.false_ne_true]
  by_cases empty : p.text.toList = []
  · -- the name is the first piece
    have vacant : p.text = "" := String.toList_eq_nil_iff.mp empty
    obtain ⟨some, current, parent⟩ := named.toList_ne
    rw [vacant, if_pos (by rfl), String.empty_append, components, components, pieces, pieces, relative, isAbsolute,
      vacant, split_of_not_mem named.whole]
    simp [split, PathStep.ofFirst?, PathStep.ofPiece?, some, current, parent]
  by_cases ends : p.text.toList.getLast? = .some '/'
  · obtain ⟨as, text⟩ := List.getLast?_eq_some_iff.mp ends
    have before : p.components = (stem as).filterMap (·.2) := by
      rw [components, pieces_slash text, split, List.filterMap_append]
      simp [piece, PathStep.ofPiece?]
    rw [if_pos (by simp [ends]), before]
    exact components_slash named (by simp [text])
  · have before : p.components = (stem p.text.toList).filterMap (·.2) := by
      rw [components, pieces_stem empty]
    rw [if_neg (by simpa [ends] using empty), before]
    exact components_slash named (by simp)

/-- A path continued by names. -/
def under (p : Path) (names : List String) : Path := names.foldl child p

theorem components_under (p : Path) {names : List String} (named : ∀ name ∈ names, IsName name) :
    (p.under names).components = p.components ++ names.map .name := by
  induction names generalizing p with
  | nil => simp [under]
  | cons name names ih =>
      obtain ⟨here, rest⟩ := List.forall_mem_cons.mp named
      have below := ih (p.child name) rest
      rw [components_child p here, List.append_assoc] at below
      exact below

/-! ## Below a base -/

theorem filterMap_dropWhile_none (ps : List (List Char × Option PathStep)) :
    (ps.dropWhile (·.2.isNone)).filterMap (·.2) = ps.filterMap (·.2) := by
  induction ps with
  | nil => rfl
  | cons q ps ih =>
      obtain ⟨cs, step⟩ := q
      cases step with
      | none => simpa using ih
      | some step => rfl

theorem filterMap_dropComponents (n : Nat) (ps : List (List Char × Option PathStep)) :
    (dropComponents n ps).filterMap (·.2) = (ps.filterMap (·.2)).drop n := by
  fun_induction dropComponents n ps with
  | case1 ps => exact filterMap_dropWhile_none ps
  | case2 n => rfl
  | case3 n cs step ps ih => simpa using ih
  | case4 n cs ps ih => simpa using ih

/-- What is left starts with a component. -/
theorem dropComponents_head (n : Nat) (ps : List (List Char × Option PathStep)) :
    ∀ q ∈ (dropComponents n ps).head?, q.2.isSome = true := by
  fun_induction dropComponents n ps with
  | case1 ps =>
      intro q first
      have kept := List.head?_dropWhile_not (·.2.isNone) ps
      rw [Option.mem_def.mp first] at kept
      simpa using kept
  | case2 n => nofun
  | case3 n cs step ps ih => exact ih
  | case4 n cs ps ih => exact ih

theorem dropComponents_suffix (n : Nat) (ps : List (List Char × Option PathStep)) :
    dropComponents n ps <:+ ps := by
  fun_induction dropComponents n ps with
  | case1 ps => exact List.dropWhile_suffix _
  | case2 => exact List.suffix_refl _
  | case3 n c step ps ih => exact ih.trans (List.suffix_cons _ _)
  | case4 n c ps ih => exact ih.trans (List.suffix_cons _ _)

/-- The pieces of a path behind the first one are pieces away from the start. -/
theorem pieces_cons (p : Path) : ∃ (first : List Char × Option PathStep) (rest : List (List Char)),
    p.pieces = first :: rest.map piece ∧ ∀ cs ∈ rest, '/' ∉ cs := by
  have whole : ∀ cs ∈ split '/' p.text.toList, '/' ∉ cs := fun cs => not_mem_of_mem_split
  rw [pieces]
  cases pieces : split '/' p.text.toList with
  | nil => exact absurd pieces (split_ne_nil '/' _)
  | cons first rest =>
      rw [pieces] at whole
      have rest_whole := (List.forall_mem_cons.mp whole).2
      by_cases rooted : p.isAbsolute = true
      · exact ⟨_, rest, by simp only [rooted]; rfl, rest_whole⟩
      · exact ⟨_, rest, by simp only [rooted]; rfl, rest_whole⟩

theorem ofPiece?_ne_root (cs : List Char) : PathStep.ofPiece? cs ≠ some .root := by
  unfold PathStep.ofPiece?
  repeat' split
  all_goals nofun

theorem ofPiece?_isSome {cs : List Char} (some : (PathStep.ofPiece? cs).isSome = true) :
    cs ≠ [] ∧ PathStep.ofFirst? cs = PathStep.ofPiece? cs := by
  constructor
  · rintro rfl
    cases some
  · have other : cs ≠ ['.'] := by
      rintro rfl
      cases some
    rw [PathStep.ofFirst?, if_neg other]

/-- Pieces joined are the path of these pieces, when the first of them is a component. -/
theorem pieces_join {cs : List Char} {more : List (List Char)} (whole : ∀ ds ∈ cs :: more, '/' ∉ ds)
    (starts : (PathStep.ofPiece? cs).isSome = true) :
    pieces ⟨String.ofList (join '/' (cs :: more))⟩ = (cs :: more).map piece := by
  obtain ⟨some, first⟩ := ofPiece?_isSome starts
  have relative : isAbsolute ⟨String.ofList (join '/' (cs :: more))⟩ = false := by
    obtain ⟨c, cs, rfl⟩ := List.exists_cons_of_ne_nil some
    have other : c ≠ '/' := by
      rintro rfl
      exact whole _ List.mem_cons_self List.mem_cons_self
    cases more <;> simpa [isAbsolute, join] using other
  rw [pieces, String.toList_ofList, split_join (List.cons_ne_nil _ _) whole]
  simp only [relative, first]
  rfl

/-- A path made of pieces away from the start has their components. -/
theorem components_ofPieces {pieces : List (List Char)} (whole : ∀ cs ∈ pieces, '/' ∉ cs)
    (starts : ∀ q ∈ (pieces.map piece).head?, q.2.isSome = true) :
    (ofPieces (pieces.map piece)).components = (pieces.map piece).filterMap (·.2) := by
  obtain ⟨kept, same, front⟩ : ∃ kept : List (List Char),
      ((pieces.map piece).reverse.dropWhile (·.2.isNone)).reverse = kept.map piece ∧ kept <+: pieces := by
    refine ⟨(pieces.reverse.dropWhile fun cs => (piece cs).2.isNone).reverse, ?_, ?_⟩
    · rw [← List.map_reverse, List.dropWhile_map, List.map_reverse]
      rfl
    · exact List.reverse_suffix.mp (by rw [List.reverse_reverse]; exact List.dropWhile_suffix _)
  have components : (kept.map piece).filterMap (·.2) = (pieces.map piece).filterMap (·.2) := by
    rw [← same, List.filterMap_reverse, filterMap_dropWhile_none, List.filterMap_reverse, List.reverse_reverse]
  rw [← components, ofPieces, same]
  cases kept with
  | nil => rfl
  | cons cs more =>
      obtain ⟨behind, rfl⟩ := front
      have some : (PathStep.ofPiece? cs).isSome = true := starts (piece cs) rfl
      have texts : ((cs :: more).map piece).map (·.1) = cs :: more := by simp [piece, Function.comp_def]
      split
      · rename_i text single
        -- the root is no piece away from the start
        exact absurd (congrArg Prod.snd (List.cons.inj single).1) (ofPiece?_ne_root cs)
      · rw [texts, Path.components, pieces_join _ some]
        exact fun ds member => whole ds (List.mem_append_left _ member)

/-- Below a base the components of the base are gone. -/
theorem components_below (some : base.components ≠ []) (above : base.isAbove p = true) :
    (p.below base).components = p.components.drop base.components.length := by
  obtain ⟨first, rest, pieces, whole⟩ := pieces_cons p
  cases length : base.components.length with
  | zero => exact absurd (List.eq_nil_of_length_eq_zero length) some
  | succ n =>
      have left : p.below base = ofPieces (dropComponents (n + 1) p.pieces) := by
        rw [below, relativeTo?, if_pos above, length]
        rfl
      -- the first piece is gone, so what is left are pieces away from the start
      have behind : dropComponents (n + 1) p.pieces <:+ rest.map piece := by
        rw [pieces]
        obtain ⟨cs, step⟩ := first
        cases step with
        | none =>
            rw [dropComponents]
            exact dropComponents_suffix (n + 1) _
        | some step => exact dropComponents_suffix n _
      obtain ⟨front, split⟩ := behind
      obtain ⟨_, kept, rfl, -, same⟩ := List.map_eq_append_iff.mp split.symm
      rw [left, ← same, components_ofPieces, same, filterMap_dropComponents]
      · rfl
      · exact fun cs member => whole cs (List.mem_append_right _ member)
      · rw [same]
        exact dropComponents_head (n + 1) _

end LiveMarkup.Path
