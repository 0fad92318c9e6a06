import LiveMarkup.Property.Extract
/-
# LiveMarkup.Property.Patch -- changing a property of an element

`Markup.patch` sets or removes one property and says what it did.  A property other
than the text is the first attribute of its name, which is replaced in place, removed,
or added behind all others.  The text may be changed when the element has no
meaningful child, or one that is text or an expression.

Code that is no expression is not an error: a placeholder string takes its place, and
the answer says so.
-/

namespace LiveMarkup

set_option autoImplicit false

open LiveMarkup.Syntax

namespace Property

/-- What a patch did. -/
inductive Action where
  | inserted
  | replaced
  | removed
  | unchanged
  deriving DecidableEq, Repr

namespace Action

/-- The name of an action in answers. -/
def name : Action → String
  | inserted => "inserted"
  | replaced => "replaced"
  | removed => "removed"
  | unchanged => "unchanged"

/-- The name of an action in messages to people. -/
def title : Action → String
  | inserted => "Inserted"
  | replaced => "Replaced"
  | removed => "Removed"
  | unchanged => "Unchanged"

end Action

/-- Code that is no expression. -/
structure InvalidCode where
  name : String
  code : String
  failure : FragmentFailure
  deriving DecidableEq, Repr

namespace InvalidCode

def message (c : InvalidCode) : String :=
  "invalid code for '" ++ c.name ++ "': " ++ c.failure.message

def notice (c : InvalidCode) : Notice :=
  .warning ("error parsing expression code for '" ++ c.name ++ "' " ++ Text.quoted c.code ++ ": "
    ++ c.failure.message)

/-- The text written in place of the code. -/
def placeholder (c : InvalidCode) : String := "/* Invalid Code: " ++ c.code ++ " */"

end InvalidCode

/-- Why a patch was refused. -/
inductive PatchFailure where
  | readOnly (name : String)
  | invalidName (name : String)
  deriving DecidableEq, Repr

namespace PatchFailure

def message : PatchFailure → String
  | readOnly name => "property '" ++ name ++ "' is read-only"
  | invalidName name => "'" ++ name ++ "' is not a valid JSX attribute name"

end PatchFailure

/-- What a patch did, and the code that was replaced by a placeholder. -/
structure PatchOutcome where
  action : Action
  fallback : Option InvalidCode
  deriving DecidableEq, Repr

/-! ## Trees of values -/

def stringTree (s : String) : Tree := .leaf (.string s none)

def containerTree (e : Tree) : Tree := .node .container [e]

/-- The expression of a number; NaN and infinity go by their names. -/
def numberTree (x : Double) : Tree :=
  match x with
  | .nan => .leaf (.identifier "NaN")
  | x =>
      let size := match x.abs with
        | .infinite _ => Tree.leaf (.identifier "Infinity")
        | y => .leaf (.number y none)
      if x.isSignNegative && !x.isZero then .node (.unary "-") [size] else size

/-- May a string stand between quotes as an attribute value? -/
def fitsAttribute (s : String) : Bool :=
  s.toList.all fun c => c != '"' && c != '\\' && c != '&' && c != '\n' && c != '\r'

/-- A string as an attribute value, in a container where quotes do not hold it. -/
def stringAttribute (s : String) : Tree :=
  if fitsAttribute s then stringTree s else containerTree (stringTree s)

/-- The expression of code, or the placeholder when it is none. -/
def codeTree (l : Language) (name code : String) : Tree × Option InvalidCode :=
  match readFragment l code with
  | .ok e => (e, none)
  | .error f =>
      let bad : InvalidCode := ⟨name, code, f⟩
      (stringTree bad.placeholder, some bad)

/-- The expression of a value. -/
def valueTree (l : Language) (name : String) : Value → Tree × Option InvalidCode
  | .undefined => (.leaf (.identifier "undefined"), none)
  | .null => (.leaf .null, none)
  | .boolean b => (.leaf (.boolean b), none)
  | .number x => (numberTree x, none)
  | .string s => (stringTree s, none)
  | .code c => codeTree l name c
  | .style s => codeTree l name s.code

/-- The attribute value of a value; `true` is an attribute without one. -/
def attributeTree (l : Language) (name : String) (v : Value) : Option Tree × Option InvalidCode :=
  match v with
  | .boolean true => (none, none)
  | .string s => (some (stringAttribute s), none)
  | v =>
      let r := valueTree l name v
      match r.2 with
      | some bad => (some (stringAttribute bad.placeholder), some bad)
      | none => (some (containerTree r.1), none)

/-! ## Attributes -/

/-- Is this the attribute that is shown under a name? -/
def isShownAs (name : String) : Attribute Tree → Bool
  | .named n _ => n.text == name
  | .spread _ => false

/-- May a new attribute have this name? -/
def isValidName (s : String) : Bool :=
  let letter (c : Char) : Bool := c.isAlpha || c == '_' || c == '$'
  match s.toList with
  | [] => false
  | c :: rest => letter c && rest.all fun c => letter c || c.isDigit || c == '-'

/-- Attributes without the first one of a name. -/
def removeFirst (name : String) : List (Attribute Tree) → List (Attribute Tree)
  | [] => []
  | a :: as => if isShownAs name a then as else a :: removeFirst name as

def withValue (value : Option Tree) : Attribute Tree → Attribute Tree
  | .named n _ => .named n value
  | .spread e => .spread e

/-- Attributes with a new value in the first one of a name. -/
def replaceFirst (name : String) (value : Option Tree) : List (Attribute Tree) → List (Attribute Tree)
  | [] => []
  | a :: as =>
      if isShownAs name a then withValue value a :: as else a :: replaceFirst name value as

/-- May a property of this name be changed at all? -/
def isSpreadName (name : String) : Bool := "...".toList.isPrefixOf name.toList

/-- Set or remove an attribute. -/
def patchAttribute (l : Language) (name : String) (v : Value) (e : Markup) :
    Except PatchFailure (PatchOutcome × Markup) :=
  let present := e.attributes.any (isShownAs name)
  if v = .undefined then
    if present then .ok (⟨.removed, none⟩, { e with attributes := removeFirst name e.attributes })
    else .ok (⟨.unchanged, none⟩, e)
  else if present then
    let r := attributeTree l name v
    .ok (⟨.replaced, r.2⟩, { e with attributes := replaceFirst name r.1 e.attributes })
  else if isValidName name then
    let r := attributeTree l name v
    .ok (⟨.inserted, r.2⟩, { e with attributes := e.attributes ++ [.named (.plain name) r.1] })
  else .error (.invalidName name)

/-! ## Text -/

/-- May a string stand between tags as it is? -/
def fitsText (s : String) : Bool :=
  !s.isEmpty && Text.trimWhite s == s &&
    s.toList.all fun c => c != '{' && c != '}' && c != '<' && c != '>' && c != '&'

/-- The child that shows a value. -/
def textTree (l : Language) (v : Value) : Tree × Option InvalidCode :=
  let other : Tree × Option InvalidCode :=
    let r := valueTree l textName v
    (containerTree r.1, r.2)
  match v with
  | .string s => if fitsText s then (.leaf (.markupText s s), none) else other
  | _ => other

/-- Is there no text yet?  No answer when the children are not text. -/
def isTextless? (e : Markup) : Option Bool :=
  match e.children.filter isMeaningful with
  | [] => some true
  | [.node (.markupText _ _) _] => some false
  | [.node .container _] => some false
  | _ => none

/-- Set or remove the text. -/
def patchText (l : Language) (v : Value) (e : Markup) : Except PatchFailure (PatchOutcome × Markup) :=
  match isTextless? e with
  | none => .error (.readOnly textName)
  | some textless =>
      if v = .undefined then
        if e.children.isEmpty then .ok (⟨.unchanged, none⟩, e)
        else .ok (⟨.removed, none⟩, { e with children := [] })
      else
        let r := textTree l v
        let action := if textless then Action.inserted else .replaced
        .ok (⟨action, r.2⟩, Markup.opened { e with children := [r.1] })

end Property

namespace Markup

open Property

/-- Set a property to a value, or remove it by the undefined value. -/
def patch (l : Language) (name : String) (v : Property.Value) (e : Markup) :
    Except PatchFailure (PatchOutcome × Markup) :=
  if isSpreadName name then .error (.readOnly name)
  else if name = textName then patchText l v e
  else patchAttribute l name v e

/-- A patch as a change of the element, which stays as it is when the patch is refused. -/
def patchStep (l : Language) (name : String) (v : Property.Value) (e : Markup) :
    Except PatchFailure PatchOutcome × Markup :=
  match patch l name v e with
  | .ok (outcome, e) => (.ok outcome, e)
  | .error f => (.error f, e)

end Markup

/-- The notices of a patch. -/
def Property.PatchOutcome.notices (o : Property.PatchOutcome) : List Notice :=
  (o.fallback.map (·.notice)).toList

end LiveMarkup
