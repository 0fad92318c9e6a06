import LiveMarkup.Markup.Element
import LiveMarkup.Property.Value
import LiveMarkup.Source.Document
/-
# LiveMarkup.Property.Extract -- the properties of an element

`Element.properties` lists what an editor shows of an element: its attributes and
spreads in source order, and then its text when it has one meaningful child, or its
children as code when it has more.  Literals are shown by their value, an object
literal under `style` entry by entry, and everything else as code.

White space and empty containers are no meaningful children.
-/

namespace LiveMarkup

set_option autoImplicit false

open LiveMarkup.Syntax

namespace Property

/-- Which part of an element a property is. -/
inductive Part where
  | attribute (index : Nat)
  | spread (index : Nat)
  | text
  | children
  deriving DecidableEq, Repr

end Property

/-- A property of an element. -/
structure Property where
  name : String
  value : Property.Value
  kind : Property.Kind
  part : Property.Part
  readOnly : Bool
  deriving DecidableEq, Repr

namespace Property

/-- A property whose kind is inferred. -/
def make (name : String) (value : Value) (part : Part) (readOnly : Bool) : Property :=
  ⟨name, value, Kind.infer name value, part, readOnly⟩

/-! ## Values of expressions -/

/-- The number that a literal is, perhaps with a minus sign. -/
def literalNumber? : Tree → Option Double
  | .node (.number x _) _ => some x
  | .node (.unary "-") [.node (.number x _) _] => some x.neg
  | _ => none

/-- The value of a literal that has one. -/
def literalValue? : Tree → Option Value
  | .node (.string s _) _ => some (.string s)
  | .node (.number x _) _ => some (.number x)
  | .node (.boolean b) _ => some (.boolean b)
  | .node .null _ => some .null
  | _ => none

/-- The value of an expression: a literal unwraps, through parentheses, and everything
else is code. -/
def expressionValue (l : Language) : Tree → Value
  | .node .paren [e] => expressionValue l e
  | .node (.identifier "undefined") _ => .undefined
  | e =>
      match literalNumber? e with
      | some x => .number x
      | none => (literalValue? e).getD (.code (l.printTree e))

/-- The value of an attribute; an empty container has none. -/
def attributeValue? (l : Language) : Tree → Option Value
  | .node .container [e] => some (expressionValue l e)
  | .node .emptyContainer _ => none
  | .node (.string s _) _ => some (.string s)
  | t => some (.code (l.printTree t))

/-! ## Styles -/

def styleValue (l : Language) (e : Tree) : StyleValue :=
  match literalNumber? e with
  | some x => .number x
  | none =>
      match e with
      | .node (.string s _) _ => .string s
      | e => .code (l.printTree e)

/-- The first characters of a text. -/
def preview (n : Nat) (s : String) : String := String.ofList (s.toList.take n)

/-- The entry of a part of an object literal; computed and numeric keys and methods give
none. -/
def styleEntryOf? (l : Language) : Tree → Option StyleEntry
  | .node .keyValue [.node (.identifier key) _, v] => some ⟨key, styleValue l v⟩
  | .node .keyValue [.node (.string key _) _, v] => some ⟨key, styleValue l v⟩
  | .node (.shorthand name) _ => some ⟨name, .code name⟩
  | .node .spread [e] =>
      let code := l.printTree e
      some ⟨"..." ++ preview 10 code, .code ("..." ++ code)⟩
  | _ => none

/-- The style that an attribute value is when it is an object literal. -/
def styleOf? (l : Language) : Tree → Option Style
  | .node .container [.node .object parts] => some (.ofEntries (parts.filterMap (styleEntryOf? l)))
  | _ => none

/-! ## Properties -/

/-- The name of a spread among the properties. -/
def spreadName (code : String) : String :=
  let shown := "..." ++ preview 15 code
  if 15 < code.toList.length then shown ++ "..." else shown

/-- The value shown for an attribute. -/
def namedValue? (l : Language) (name : String) : Option Tree → Option Value
  | none => some (.boolean true)
  | some t =>
      if name = styleName then
        match styleOf? l t with
        | some s => some (.style s)
        | none => attributeValue? l t
      else attributeValue? l t

/-- The property of the attribute at a position. -/
def ofAttribute? (l : Language) (index : Nat) : Attribute Tree → Option Property
  | .named name value =>
      (namedValue? l name.text value).map fun v => make name.text v (.attribute index) false
  | .spread e =>
      let code := l.printTree e
      some (make (spreadName code) (.code ("value: " ++ code)) (.spread index) true)

/-- The properties of attributes, of which the first is at a position. -/
def ofAttributes (l : Language) : Nat → List (Attribute Tree) → List Property
  | _, [] => []
  | i, a :: as => (ofAttribute? l i a).toList ++ ofAttributes l (i + 1) as

/-- Does a child show anything? -/
def isMeaningful : Tree → Bool
  | .node (.markupText value _) _ => !(Text.trimWhite value).isEmpty
  | .node .emptyContainer _ => false
  | _ => true

/-- The value of an only child: its text, or the value of its expression. -/
def childValue? (l : Language) : Tree → Option Value
  | .node (.markupText value _) _ => some (.string (Text.trimWhite value))
  | .node .container [e] =>
      match expressionValue l e with
      | .undefined => none
      | v => some v
  | _ => none

/-- A child among others as code. -/
def childCode (l : Language) : Tree → String
  | .node (.markupText value _) _ => Text.trimWhite value
  | t => l.printTree t

/-- The property of the meaningful children. -/
def ofChildren (l : Language) : List Tree → List Property
  | [] => []
  | [child] => ((childValue? l child).map fun v => make textName v .text false).toList
  | children => [make textName (.code ("\n".intercalate (children.map (childCode l)))) .children true]

end Property

/-- The properties of an element. -/
def Markup.properties (l : Language) (e : Markup) : List Property :=
  Property.ofAttributes l 0 e.attributes ++ Property.ofChildren l (e.children.filter Property.isMeaningful)

end LiveMarkup
