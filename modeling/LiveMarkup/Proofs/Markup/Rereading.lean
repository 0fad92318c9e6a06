import LiveMarkup.Markup.Traversal
import LiveMarkup.Proofs.Markup.Stripping
import LiveMarkup.Proofs.Syntax.MarkupText
import LiveMarkup.Source.Document
/-
# LiveMarkup.Proofs.Markup.Rereading -- what the reader makes of what the printer wrote

Printed and read again, a tree keeps its nodes but not always its strings.  A string is
written as its spelling or as a literal, and it depends on where that stands what it is
read as: an attribute takes what is between its quotes, and everything else takes escapes
back.  `Tree.reread` is the tree that comes back, without places and spellings, and a
language `RereadsAs` the tree when this is what it reads.  The elements of what is read
are the elements one by one (`Module.elements_reread`).
-/

namespace LiveMarkup.Syntax

set_option autoImplicit false

/-- How a string is written. -/
def spelling (value : String) (raw : Option String) : String := raw.getD (stringLiteral value)

/-- A kind whose literal is written and read again in a certain way. -/
def Kind.reread (read : String → String) : Kind → Kind
  | .string value raw => .string (read (spelling value raw)) none
  | .number value _ => .number value none
  | .markupText _ raw => .markupText (Syntax.markupText raw) raw
  | kind => kind

mutual

/-- A tree that was printed and read again, with the reader of its own literal. -/
def Tree.rereadBy (read : String → String) : Tree → Tree
  | .node kind parts => .node (kind.reread read) (rereadOf parts)
  | .element ⟨tagName, attributes, typeArguments, selfClosing, children, closing, _⟩ =>
      .element ⟨tagName, rereadAttributes attributes, rereadOption typeArguments, selfClosing,
        rereadOf children, closing, none⟩
  termination_by structural t => t

def rereadOf : List Tree → List Tree
  | [] => []
  | t :: ts => t.rereadBy scriptString :: rereadOf ts
  termination_by structural ts => ts

def rereadAttributes : List (Attribute Tree) → List (Attribute Tree)
  | [] => []
  | a :: as => rereadIn a :: rereadAttributes as
  termination_by structural as => as

def rereadIn : Attribute Tree → Attribute Tree
  | .named n value => .named n (rereadValue value)
  | .spread value => .spread (value.rereadBy scriptString)
  termination_by structural a => a

/-- The value of an attribute, where a string is no literal of a script. -/
def rereadValue : Option Tree → Option Tree
  | none => none
  | some t => some (t.rereadBy markupString)
  termination_by structural t => t

def rereadOption : Option Tree → Option Tree
  | none => none
  | some t => some (t.rereadBy scriptString)
  termination_by structural t => t

end

/-- A tree that was printed and read again. -/
def Tree.reread (t : Tree) : Tree := t.rereadBy scriptString

def Module.reread (m : Module) : Module := { m with items := rereadOf m.items, lines := none }

end LiveMarkup.Syntax

namespace LiveMarkup

open LiveMarkup.Syntax

/-- An element that was printed and read again. -/
def Markup.reread (e : Markup) : Markup :=
  ⟨e.name, rereadAttributes e.attributes, rereadOption e.typeArguments, e.selfClosing,
    rereadOf e.children, e.closing, none⟩

/-- A module is read again from its text as what its tree is read as. -/
def Language.RereadsAs (l : Language) (path : Path) (m : Module) : Prop :=
  ∃ d, (Document.read l path (l.printModule m)).value = .ok d ∧ d.content.bare = m.reread

end LiveMarkup

namespace LiveMarkup.Syntax

theorem rereadAttributes_eq_map (as : List (Attribute Tree)) : rereadAttributes as = as.map rereadIn := by
  induction as with
  | nil => rfl
  | cons a as ih => simp only [rereadAttributes, ih, List.map_cons]

mutual

theorem Tree.elements_rereadBy (read : String → String) : ∀ t : Tree,
    (t.rereadBy read).elements = t.elements.map Markup.reread
  | .node kind parts => by simpa only [Tree.rereadBy, Tree.elements] using elementsOf_reread parts
  | .element ⟨tagName, attributes, typeArguments, selfClosing, children, closing, lines⟩ => by
      simp only [Tree.rereadBy, Tree.elements, List.map_cons, List.map_append, Markup.reread,
        attributeElements_reread attributes, optionElements_reread typeArguments,
        elementsOf_reread children]

theorem elementsOf_reread : ∀ ts : List Tree,
    elementsOf (rereadOf ts) = (elementsOf ts).map Markup.reread
  | [] => rfl
  | t :: ts => by
      simp only [rereadOf, elementsOf, List.map_append, t.elements_rereadBy scriptString,
        elementsOf_reread ts]

theorem attributeElements_reread : ∀ as : List (Attribute Tree),
    attributeElements (rereadAttributes as) = (attributeElements as).map Markup.reread
  | [] => rfl
  | a :: as => by
      simp only [rereadAttributes, attributeElements, List.map_append, attributeElementsOf_reread a,
        attributeElements_reread as]

theorem attributeElementsOf_reread : ∀ a : Attribute Tree,
    attributeElementsOf (rereadIn a) = (attributeElementsOf a).map Markup.reread
  | .named _ none => rfl
  | .named _ (some t) => t.elements_rereadBy markupString
  | .spread value => value.elements_rereadBy scriptString

theorem optionElements_reread : ∀ t : Option Tree,
    optionElements (rereadOption t) = (optionElements t).map Markup.reread
  | none => rfl
  | some t => t.elements_rereadBy scriptString

end

theorem Module.elements_reread (m : Module) : m.reread.elements = m.elements.map Markup.reread :=
  elementsOf_reread m.items

/-- The elements that are read back are those that were printed, each read again. -/
theorem Module.elements_of_reread {m d : Module} (read : d.bare = m.reread) :
    d.elements.map Markup.bare = m.elements.map Markup.reread := by
  rw [← Module.elements_bare, read, Module.elements_reread]

end LiveMarkup.Syntax
