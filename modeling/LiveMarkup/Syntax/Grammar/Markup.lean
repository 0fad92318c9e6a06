import LiveMarkup.Syntax.Grammar.Types
/-
# LiveMarkup.Syntax.Grammar.Markup -- elements and fragments

An element is an opening tag, children up to the matching closing tag, and that closing
tag, or one tag that closes itself.  What stands behind it depends on where it stands, so
the mode of the following token is given.
-/

namespace LiveMarkup.Syntax.Grammar

set_option autoImplicit false

open LiveMarkup.Syntax.Parser

/-- A name in a tag. -/
def markupName : Parser String := do
  match ← require with
  | .markupName n =>
      advance
      return n
  | _ => unexpected "jsx identifier"

/-- A name with an optional namespace. -/
def namespacedName : Parser (String × Option String) := do
  let first ← markupName
  if ← eat ":" then return (first, some (← markupName))
  else return (first, none)

def tagName (r : Rules) : Parser TagName := do
  let first ← match ← namespacedName with
    | (space, some n) => pure (TagName.namespaced space n)
    | (n, none) => pure (TagName.plain n)
  whileSome r.budget (fun (t : TagName) => do
    if ← eat "." then return some (.member t (← markupName))
    else return none) first

def attributeName : Parser AttributeName := do
  match ← namespacedName with
  | (space, some n) => return .namespaced space n
  | (n, none) => return .plain n

/-- A braced expression; the token behind it is read in the given mode.  In an attribute, dots
before the expression say nothing. -/
def container (r : Rules) (after : Mode) : Parser Tree := do
  advanceIn .code
  let tree ← if ← isPunctuator "\x7d" then pure (Tree.leaf .emptyContainer)
    else if ← eat "..." then do
      let e ← r.expression
      pure (.node (if after == .tag then .container else .spreadChild) [e])
    else do
      pure (.node .container [← withContext (fun c => { c with inOperator := true }) r.expression])
  if ← isPunctuator "\x7d" then
    advanceIn after
    return tree
  else failHere (.expected "\x7d" (← current).shown)

def attributeValue (r : Rules) : Parser Tree := do
  let start ← position
  match ← require with
  | .punctuator "\x7b" =>
      match ← container r .tag with
      | .node .emptyContainer _ => failAt start .emptyMarkupValue
      | t => return t
  | .string value raw =>
      advance
      return .leaf (.string value (some raw))
  | .markupStart => r.read (.element .tag)
  | _ => failAt start .markupValueExpected

def tagAttribute (r : Rules) : Parser (Attribute Tree) := do
  if ← isPunctuator "\x7b" then
    advanceIn .code
    expect "..."
    let e ← withContext (fun c => { c with inOperator := true }) r.assignment
    if ← isPunctuator "\x7d" then
      advanceIn .tag
      return .spread e
    else failHere (.expected "\x7d" (← current).shown)
  else
    let n ← attributeName
    if ← eat "=" then
      return .named n (some (← withContext (fun c => { c with colonEnds := false }) (attributeValue r)))
    else return .named n none

/-- Type arguments in a tag. -/
def tagTypeArguments (r : Rules) : Parser (Option Tree) := do
  if (← typed) && (← current) == .markupStart then
    attempt do
      modify fun s => { s with current := .punctuator "<", mode := .code }
      expect "<"
      let ts ← untilEnd r.budget (do splitFirst ">"; isPunctuator ">") do
        let t ← r.type
        splitFirst ">"
        unless ← isPunctuator ">" do expect ","
        return t
      advanceIn .tag
      return Tree.node .typeArguments ts
  else return none

/-- What an opening tag opens. -/
inductive Opening where
  | fragment
  | element (name : TagName) (typeArguments : Option Tree) (attributes : List (Attribute Tree))
    (selfClosing : Bool)

/-- The opening tag behind its first bracket; `inside` is the mode behind it when it stays
open, `after` when it closes itself. -/
def openingTag (r : Rules) (after : Mode) : Parser Opening := do
  if (← current) == .markupEnd then
    advanceIn .child
    return .fragment
  let n ← tagName r
  let arguments ← tagTypeArguments r
  let attributes ← untilEnd r.budget (do
    let t ← requireSound
    return t == .eof || t == .punctuator "/" || t == .markupEnd) (tagAttribute r)
  let selfClosing ← eat "/"
  if (← current) == .markupEnd then
    advanceIn (if selfClosing then after else .child)
    return .element n arguments attributes selfClosing
  else unexpected "> (jsx closing tag end)"

/-- A closing tag behind its slash: the name, or nothing for a fragment. -/
def closingTag (r : Rules) (after : Mode) : Parser (Option TagName) := do
  if (← current) == .markupEnd then
    advanceIn after
    return none
  let n ← tagName r
  if (← current) == .markupEnd then
    advanceIn after
    return some n
  else unexpected "> (jsx closing tag end)"

/-- Children up to the closing tag, with that tag and where it starts. -/
def children (r : Rules) (after : Mode) :
    Nat → Parser (List Tree × Option TagName × Nat)
  | 0 => failHere .tooDeep
  | n + 1 => do
      match ← require with
      | .markupStart =>
          let start ← position
          let closes ← do
            let s ← get
            pure ((skipBlanks .between false s.cursor.offset s.cursor.rest).cursor.rest.head? == some '/')
          if closes then
            advanceIn .tag
            advance
            let closing ← closingTag r after
            return ([], closing, start)
          else
            let child ← r.read (.element .child)
            let (more, closing, start) ← children r after n
            return (child :: more, closing, start)
      | .markupText value raw =>
          advance
          let (more, closing, start) ← children r after n
          return (.leaf (.markupText value raw) :: more, closing, start)
      | .punctuator "\x7b" =>
          let child ← container r .child
          let (more, closing, start) ← children r after n
          return (child :: more, closing, start)
      | _ => unexpected "< (jsx tag start), jsx text or \x7b"

/-- The lines from a place to the end of the last token. -/
def span (start : Nat) : Parser LineRange := do
  let c ← context
  return ⟨c.lineOf start, c.lineOf (← lastEnd)⟩

/-- An element or a fragment.  The current token is its opening bracket. -/
def element (r : Rules) (after : Mode) : Parser Tree := do
  let start ← position
  advanceIn .tag
  match ← openingTag r after with
  | .element n arguments attributes true =>
      return .element ⟨n, attributes, arguments, true, [], none, some (← span start)⟩
  | .element n arguments attributes false =>
      let (cs, closing, closingStart) ← children r after r.budget
      if closing == some n then
        return .element ⟨n, attributes, arguments, false, cs, closing, some (← span start)⟩
      else failAt closingStart (.closingTagExpected n.text)
  | .fragment =>
      let (cs, closing, closingStart) ← children r after r.budget
      match closing with
      | none => return .node .fragment cs
      | some _ => failAt closingStart (.closingTagExpected "")

end LiveMarkup.Syntax.Grammar
