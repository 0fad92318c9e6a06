import LiveMarkup.Component.Map
/-
# LiveMarkup.Proofs.Component.DefaultExport -- which default exports are seen

A module exports the name `default` in one of several forms: by a declaration or an expression of
its own, by a list of names, in which the name may stand behind `as` or alone, or by giving the
name to another module as a whole.  In a list a name is a word or a string.  `ExportsDefault`
says all of that of an item.

Of these forms `hasDefaultExport` sees three (`Form.isSeen`), and it never takes anything else
for a default export.  So it answers what it should unless all default exports of a module are of
the other forms (`hasDefaultExport_exact_iff`).
-/

namespace LiveMarkup.Component

set_option autoImplicit false

open LiveMarkup.Syntax

/-- How a name is written in a list of exports. -/
inductive Spelling where
  | word | quoted
  deriving DecidableEq, Repr

/-- A tree is a name in one of its spellings. -/
inductive IsName (name : String) : Spelling → Tree → Prop where
  | word (parts : List Tree) : IsName name .word (.node (.identifier name) parts)
  | quoted (raw : Option String) (parts : List Tree) : IsName name .quoted (.node (.string name raw) parts)

/-- How a module exports the name `default`. -/
inductive Form where
  | declaration
  | expression
  /-- Behind `as`. -/
  | renamed (spelling : Spelling)
  /-- Under the name it has here or in the other module. -/
  | unrenamed (spelling : Spelling)
  /-- As the name of another module. -/
  | whole (spelling : Spelling)
  deriving DecidableEq, Repr

/-- A specifier gives the name `default`. -/
inductive GivesDefault : Form → Tree → Prop where
  | renamed {spelling : Spelling} {here there : Tree} (typeOnly : Bool)
      (named : IsName "default" spelling there) :
      GivesDefault (.renamed spelling) (.node (.exportSpecifier typeOnly) [here, there])
  | unrenamed {spelling : Spelling} {here there : Tree} (typeOnly : Bool) (alone : there.isAbsent = true)
      (named : IsName "default" spelling here) :
      GivesDefault (.unrenamed spelling) (.node (.exportSpecifier typeOnly) [here, there])
  | whole {spelling : Spelling} {there : Tree} (named : IsName "default" spelling there) :
      GivesDefault (.whole spelling) (.node .exportNamespace [there])

/-- An item of a module exports the name `default`.  A list of names may be followed by the module
that they come from. -/
inductive ExportsDefault : Form → Tree → Prop where
  | declaration (parts : List Tree) : ExportsDefault .declaration (.node .exportDefaultDeclaration parts)
  | expression (parts : List Tree) : ExportsDefault .expression (.node .exportDefaultExpression parts)
  | listed {form : Form} {specifier : Tree} {specifiers : List Tree} (typeOnly trailingComma : Bool)
      (source : List Tree) (member : specifier ∈ specifiers) (gives : GivesDefault form specifier) :
      ExportsDefault form (.node (.exportNamed typeOnly trailingComma) (.group specifiers :: source))

/-- The forms that are looked for. -/
def Form.isSeen : Form → Bool
  | .declaration => true
  | .expression => true
  | .renamed .word => true
  | _ => false

theorem namesDefault_iff (specifier : Tree) :
    namesDefault specifier = true ↔ GivesDefault (.renamed .word) specifier := by
  constructor
  · intro named
    unfold namesDefault at named
    split at named
    · obtain rfl := eq_of_beq named
      exact .renamed _ (.word _)
    · cases named
  · intro gives
    cases gives with
    | renamed typeOnly named =>
        cases named
        rfl

/-- What is taken for a default export is one, in a form that is looked for. -/
theorem exportsDefault_of_isDefaultExport {item : Tree} (found : isDefaultExport item = true) :
    ∃ form : Form, form.isSeen = true ∧ ExportsDefault form item := by
  unfold isDefaultExport at found
  split at found
  · exact ⟨.declaration, rfl, .declaration _⟩
  · exact ⟨.expression, rfl, .expression _⟩
  · obtain ⟨specifier, member, named⟩ := List.any_eq_true.mp found
    exact ⟨.renamed .word, rfl, .listed _ _ _ member ((namesDefault_iff specifier).mp named)⟩
  · cases found

theorem isDefaultExport_of_exportsDefault {form : Form} {item : Tree} (seen : form.isSeen = true)
    (exports : ExportsDefault form item) : isDefaultExport item = true := by
  cases exports with
  | declaration parts => rfl
  | expression parts => rfl
  | listed typeOnly trailingComma source member gives =>
      refine List.any_eq_true.mpr ⟨_, member, (namesDefault_iff _).mpr ?_⟩
      cases gives with
      | @renamed spelling here there typeOnly named =>
          cases spelling with
          | word => exact .renamed typeOnly named
          | quoted => cases seen
      | unrenamed => cases seen
      | whole => cases seen

theorem isDefaultExport_iff (item : Tree) :
    isDefaultExport item = true ↔ ∃ form : Form, form.isSeen = true ∧ ExportsDefault form item :=
  ⟨exportsDefault_of_isDefaultExport, fun ⟨_, seen, exports⟩ => isDefaultExport_of_exportsDefault seen exports⟩

/-- **A default export is seen in three of its forms.**  Whatever module is asked, a default export
is reported if and only if an item is a default declaration or expression, or has the name
`default`, as a word, behind an `as` in a list of exports, with or without a module that the names
come from.  So what is reported is a default export, and all of them are but in a module that has
some and none of them in these three forms. -/
theorem hasDefaultExport_exact_iff (m : Module) :
    (hasDefaultExport m = true ↔
      ∃ item ∈ m.items, ∃ form : Form, form.isSeen = true ∧ ExportsDefault form item) ∧
    (hasDefaultExport m = true → ∃ item ∈ m.items, ∃ form, ExportsDefault form item) ∧
    ((hasDefaultExport m = true ↔ ∃ item ∈ m.items, ∃ form, ExportsDefault form item) ↔
      ((∃ item ∈ m.items, ∃ form, ExportsDefault form item) →
        ¬ ∀ item ∈ m.items, ∀ form : Form, ExportsDefault form item → form.isSeen = false)) := by
  have seen : hasDefaultExport m = true ↔
      ∃ item ∈ m.items, ∃ form : Form, form.isSeen = true ∧ ExportsDefault form item := by
    simp only [hasDefaultExport, List.any_eq_true, isDefaultExport_iff]
  have sound : hasDefaultExport m = true → ∃ item ∈ m.items, ∃ form, ExportsDefault form item := by
    intro found
    obtain ⟨item, member, form, -, exports⟩ := seen.mp found
    exact ⟨item, member, form, exports⟩
  refine ⟨seen, sound, ?_⟩
  constructor
  · intro exact_ some unseen
    obtain ⟨item, member, form, isSeen, exports⟩ := seen.mp (exact_.mpr some)
    rw [unseen item member form exports] at isSeen
    cases isSeen
  · intro shown
    refine ⟨sound, fun some => Classical.byContradiction fun missed => shown some ?_⟩
    intro item member form exports
    refine Bool.eq_false_iff.mpr fun isSeen => missed (seen.mpr ⟨item, member, form, isSeen, exports⟩)

/-- `export { X as 'default' };` -/
def quotedDefault : Module :=
  ⟨none, [.node (.exportNamed false false) [.group [.node (.exportSpecifier false)
    [.leaf (.identifier "X"), .leaf (.string "default" (some "'default'"))]], .absent, .absent]], none⟩

/-- `export { default } from './x';` -/
def forwardedDefault : Module :=
  ⟨none, [.node (.exportNamed false false) [.group [.node (.exportSpecifier false)
    [.leaf (.identifier "default"), .absent]], .leaf (.string "./x" (some "'./x'")), .absent]], none⟩

/-- `export * as default from './x';` -/
def wholeDefault : Module :=
  ⟨none, [.node (.exportNamed false false) [.group [.node .exportNamespace [.leaf (.identifier "default")]],
    .leaf (.string "./x" (some "'./x'")), .absent]], none⟩

/-- Refuting pole: each of these modules exports the name `default`, and nothing is reported. -/
theorem default_export_missed :
    (hasDefaultExport quotedDefault = false ∧ ∃ item ∈ quotedDefault.items, ∃ form, ExportsDefault form item) ∧
    (hasDefaultExport forwardedDefault = false ∧
      ∃ item ∈ forwardedDefault.items, ∃ form, ExportsDefault form item) ∧
    (hasDefaultExport wholeDefault = false ∧ ∃ item ∈ wholeDefault.items, ∃ form, ExportsDefault form item) := by
  have quoted : ∃ item ∈ quotedDefault.items, ∃ form, ExportsDefault form item :=
    ⟨_, List.mem_singleton.mpr rfl, _,
      .listed _ _ _ (List.mem_singleton.mpr rfl) (.renamed _ (.quoted _ _))⟩
  have forwarded : ∃ item ∈ forwardedDefault.items, ∃ form, ExportsDefault form item :=
    ⟨_, List.mem_singleton.mpr rfl, _,
      .listed _ _ _ (List.mem_singleton.mpr rfl) (.unrenamed _ rfl (.word _))⟩
  have whole : ∃ item ∈ wholeDefault.items, ∃ form, ExportsDefault form item :=
    ⟨_, List.mem_singleton.mpr rfl, _, .listed _ _ _ (List.mem_singleton.mpr rfl) (.whole (.word _))⟩
  exact ⟨⟨by decide +kernel, quoted⟩, ⟨by decide +kernel, forwarded⟩, ⟨by decide +kernel, whole⟩⟩

end LiveMarkup.Component
