import LiveMarkup.Markup.Element
/-
# LiveMarkup.Markup.Traversal -- the elements of a tree

`Tree.elements` lists the elements of a tree in the order in which their tags open, at
any depth: in children, fragments, attribute values, expressions and functions.

`Tree.updateFirst` gives the first element that passes a test to a function and puts
its answer in the place of that element; everything else stays as it is.  It answers
nothing when no element passes.
-/

namespace LiveMarkup.Syntax

set_option autoImplicit false

mutual

/-- The elements of a tree, each before the elements inside it. -/
def Tree.elements : Tree → List Markup
  | .node _ parts => elementsOf parts
  | .element ⟨name, attributes, typeArguments, selfClosing, children, closing, lines⟩ =>
      ⟨name, attributes, typeArguments, selfClosing, children, closing, lines⟩ ::
        (attributeElements attributes ++ optionElements typeArguments ++ elementsOf children)
  termination_by structural t => t

def elementsOf : List Tree → List Markup
  | [] => []
  | t :: ts => t.elements ++ elementsOf ts
  termination_by structural ts => ts

def attributeElements : List (Attribute Tree) → List Markup
  | [] => []
  | a :: as => attributeElementsOf a ++ attributeElements as
  termination_by structural as => as

def attributeElementsOf : Attribute Tree → List Markup
  | .named _ value => optionElements value
  | .spread value => value.elements
  termination_by structural a => a

def optionElements : Option Tree → List Markup
  | none => []
  | some t => t.elements
  termination_by structural t => t

end

/-- The elements inside an element. -/
def elementsInside (e : Markup) : List Markup :=
  attributeElements e.attributes ++ optionElements e.typeArguments ++ elementsOf e.children

theorem Tree.elements_element (e : Markup) : (Tree.element e).elements =
    e :: (attributeElements e.attributes ++ optionElements e.typeArguments ++ elementsOf e.children) := by
  obtain ⟨tagName, attributes, typeArguments, selfClosing, children, closing, lines⟩ := e
  rfl

section Update

variable {ρ : Type} (p : Markup → Bool) (f : Markup → ρ × Markup)

mutual

/-- Update the first element of a tree that passes the test. -/
def Tree.updateFirst : Tree → Option (ρ × Tree)
  | .node kind parts => (updateFirstOf parts).map fun r => (r.1, .node kind r.2)
  | .element ⟨name, attributes, typeArguments, selfClosing, children, closing, lines⟩ =>
      if p ⟨name, attributes, typeArguments, selfClosing, children, closing, lines⟩ then
        let r := f ⟨name, attributes, typeArguments, selfClosing, children, closing, lines⟩
        some (r.1, .element r.2)
      else
        match updateFirstAttribute attributes with
        | some r =>
            some (r.1, .element ⟨name, r.2, typeArguments, selfClosing, children, closing, lines⟩)
        | none =>
            match updateFirstOption typeArguments with
            | some r =>
                some (r.1, .element ⟨name, attributes, r.2, selfClosing, children, closing, lines⟩)
            | none =>
                (updateFirstOf children).map fun r =>
                  (r.1, .element ⟨name, attributes, typeArguments, selfClosing, r.2, closing, lines⟩)
  termination_by structural t => t

def updateFirstOf : List Tree → Option (ρ × List Tree)
  | [] => none
  | t :: ts =>
      match t.updateFirst with
      | some r => some (r.1, r.2 :: ts)
      | none => (updateFirstOf ts).map fun r => (r.1, t :: r.2)
  termination_by structural ts => ts

def updateFirstAttribute : List (Attribute Tree) → Option (ρ × List (Attribute Tree))
  | [] => none
  | a :: as =>
      match updateFirstIn a with
      | some r => some (r.1, r.2 :: as)
      | none => (updateFirstAttribute as).map fun r => (r.1, a :: r.2)
  termination_by structural as => as

def updateFirstIn : Attribute Tree → Option (ρ × Attribute Tree)
  | .named name value => (updateFirstOption value).map fun r => (r.1, .named name r.2)
  | .spread value => value.updateFirst.map fun r => (r.1, .spread r.2)
  termination_by structural a => a

def updateFirstOption : Option Tree → Option (ρ × Option Tree)
  | none => none
  | some t => t.updateFirst.map fun r => (r.1, some r.2)
  termination_by structural t => t

end

end Update

namespace Module

/-- The elements of a module in the order in which their tags open. -/
def elements (m : Module) : List Markup := elementsOf m.items

/-- The first element with an identifier. -/
def find? (name uid : String) (m : Module) : Option Markup := m.elements.find? (·.carries name uid)

/-- Update the first element with an identifier. -/
def update? {ρ : Type} (name uid : String) (f : Markup → ρ × Markup) (m : Module) :
    Option (ρ × Module) :=
  (updateFirstOf (fun e => e.carries name uid) f m.items).map fun r => (r.1, { m with items := r.2 })

end Module

end LiveMarkup.Syntax
