import LiveMarkup.Syntax.Tree
import LiveMarkup.Text.Uppercase
/-
# LiveMarkup.Markup.Element -- reading elements

An element is addressed by its *identifier*: the string under a certain attribute, the
first of that name which holds a string.  A string may stand alone or in a container.

`Element.opened` is the same element with room for children: a self-closing tag becomes
an opening and a closing one.
-/

namespace LiveMarkup

set_option autoImplicit false

open LiveMarkup.Syntax

/-- Elements of syntax trees. -/
abbrev Markup := Element Tree

namespace Markup

/-- The string that an attribute's value is, directly or in a container. -/
def stringValue? : Option Tree → Option String
  | some (.node (.string s _) _) => some s
  | some (.node .container [.node (.string s _) _]) => some s
  | _ => none

/-- Is this an attribute with the given plain name? -/
def isNamed (name : String) : Attribute Tree → Bool
  | .named (.plain n) _ => n == name
  | _ => false

/-- The string of an attribute with the given plain name. -/
def stringOf? (name : String) : Attribute Tree → Option String
  | .named (.plain n) value => if n = name then stringValue? value else none
  | _ => none

/-- The identifier among attributes: the first string under the name. -/
def identifierIn? (name : String) (attributes : List (Attribute Tree)) : Option String :=
  attributes.findSome? (stringOf? name)

/-- The identifier of an element. -/
def identifier? (name : String) (e : Markup) : Option String := identifierIn? name e.attributes

/-- Does an element carry an identifier? -/
def carries (name uid : String) (e : Markup) : Bool := e.identifier? name == some uid

/-- The tag as it is written. -/
def tag (e : Markup) : String := e.name.text

/-- Components have a tag that starts with a capital letter or names a member. -/
def isComponent (e : Markup) : Bool :=
  match e.name with
  | .plain name => (name.toList.head?.map Text.isUppercase).getD false
  | .member _ _ => true
  | .namespaced _ _ => false

/-- The attribute that gives an element its identifier. -/
def identifierAttribute (name uid : String) : Attribute Tree :=
  .named (.plain name) (some (.leaf (.string uid none)))

/-- The element with an opening and a closing tag. -/
def opened (e : Markup) : Markup :=
  if e.selfClosing || e.closing.isNone then { e with selfClosing := false, closing := some e.name }
  else e

theorem stringOf?_identifierAttribute (name uid : String) :
    stringOf? name (identifierAttribute name uid) = some uid := by
  simp [stringOf?, identifierAttribute, stringValue?, Tree.leaf]

end Markup

end LiveMarkup
