import LiveMarkup.Syntax.Grammar.State
/-
# LiveMarkup.Syntax.Grammar.Pattern -- names, keys, patterns and parameters

What may stand where something is bound: a name, or an array or object pattern whose
leaves are names, with defaults and, in typed dialects, annotations.  `asPattern` turns
the expression on the left of an assignment into the pattern it stands for.
-/

namespace LiveMarkup.Syntax.Grammar

set_option autoImplicit false

open LiveMarkup.Syntax.Parser

/-! ## Names -/

def isReserved (c : Context) (w : String) : Bool :=
  Token.reservedWords.contains w ||
    (c.strict && Token.strictReservedWords.contains w) ||
    (c.inGenerator && w == "yield") || (c.inAsync && w == "await")

/-- Is the current token a word that may be used as a name? -/
def atName : Parser Bool := do
  match ← current with
  | .word w => return !isReserved (← context) w
  | _ => return false

/-- Any word, reserved or not. -/
def anyName : Parser String := do
  match ← require with
  | .word w =>
      advance
      return w
  | _ => failHere .identifierExpected

/-- A word that names a variable. -/
def name : Parser String := do
  match ← require with
  | .word w =>
      let c ← context
      let allowed := !Token.reservedWords.contains w || (w == "this" && c.typed)
      if allowed then
        let start ← position
        advance
        if c.strict && w != "let" && Token.strictReservedWords.contains w then
          complainAt start (.reservedWord w)
        return w
      else failHere .identifierExpected
  | _ => failHere .identifierExpected

/-! ## Keys -/

def stringOrNumber? : Token → Option Tree
  | .string value raw => some (.leaf (.string value (some raw)))
  | .number value raw => some (.leaf (.number value (some raw)))
  | .bigint raw => some (.leaf (.bigint raw))
  | _ => none

/-- The key of a property. -/
def key (r : Rules) : Parser Tree := do
  match ← require with
  | .word w =>
      advance
      return .leaf (.identifier w)
  | .punctuator "[" =>
      advance
      let inner ← withContext (fun c => { c with inOperator := true }) r.assignment
      expect "]"
      return .node .computedKey [inner]
  | token =>
      match stringOrNumber? token with
      | some t =>
          advance
          return t
      | none => unexpected "identifier, string literal, numeric literal or [ for the computed key"

/-! ## Annotations -/

def typed : Parser Bool := do return (← context).typed

/-- A type behind a colon, in typed dialects. -/
def annotation (r : Rules) : Parser Tree := do
  if (← typed) && (← isPunctuator ":") then
    advance
    withContext (fun c => { c with noConditionalType := false }) r.type
  else return Tree.absent

/-- Put an annotation and a mark onto a pattern. -/
def annotate (pattern : Tree) (mark : Bool) (type : Tree) : Tree :=
  match pattern with
  | .node (.bindingName n m) _ => .node (.bindingName n (if mark then "?" else m)) [type]
  | .node (.arrayPattern o) (es :: _) => .node (.arrayPattern (o || mark)) [es, type]
  | .node (.objectPattern o) (ps :: _) => .node (.objectPattern (o || mark)) [ps, type]
  | .node .restPattern (p :: _) => .node .restPattern [p, type]
  | t => t

/-! ## Patterns -/

/-- A default behind a pattern. -/
def withDefault (r : Rules) (p : Tree) : Parser Tree := do
  if ← eat "=" then
    let value ← withContext (fun c => { c with inOperator := true }) r.assignment
    return .node .defaultPattern [p, value]
  else return p

def bindingElement (r : Rules) : Parser Tree := do
  withDefault r (← r.pattern)

/-- The elements of an array pattern; commas without an element between them are holes. -/
def arrayElements (r : Rules) : Nat → Nat → Parser (List Tree)
  | 0, _ => failHere .tooDeep
  | n + 1, holes => do
      if (← current) == .eof || (← isPunctuator "]") then return []
      else if ← eat "," then arrayElements r n (holes + 1)
      else
        let element ← if ← eat "..." then do
            pure (.node .restPattern [← r.pattern, Tree.absent])
          else bindingElement r
        unless ← isPunctuator "]" do expect ","
        return List.replicate holes Tree.absent ++ element :: (← arrayElements r n 0)

def objectPatternProperty (r : Rules) : Parser Tree := do
  if ← eat "..." then
    return .node .restPattern [← r.pattern, Tree.absent]
  let k ← key r
  if ← eat ":" then
    return .node .keyValue [k, ← bindingElement r]
  match k with
  | .node (.identifier n) _ =>
      if ← eat "=" then
        let value ← withContext (fun c => { c with inOperator := true }) r.assignment
        return .node (.shorthandDefault n) [value]
      else return .leaf (.shorthand n)
  | _ => unexpected "an identifier"

/-- Properties between braces, separated by commas. -/
def propertyList (r : Rules) (property : Parser Tree) : Parser (List Tree) := do
  expect "\x7b"
  untilEnd r.budget (eat "\x7d") do
    let p ← property
    unless ← isPunctuator "\x7d" do expect ","
    return p

/-- A name, an array pattern or an object pattern. -/
def pattern (r : Rules) : Parser Tree := do
  match ← require with
  | .word _ => return .node (.bindingName (← name) "") [Tree.absent]
  | .punctuator "[" =>
      advance
      let elements ← arrayElements r r.budget 0
      expect "]"
      return .node (.arrayPattern false) [.group elements, Tree.absent]
  | .punctuator "\x7b" =>
      let properties ← propertyList r (objectPatternProperty r)
      return .node (.objectPattern false) [.group properties, Tree.absent]
  | _ => unexpected "yield, an identifier, [ or \x7b"

/-! ## Parameters -/

/-- Expressions marked by an at sign; the operand is a member chain with an optional call, or
an expression in parentheses. -/
def decorators (r : Rules) : Parser (List Tree) :=
  untilEnd r.budget (do return !(← isPunctuator "@")) do
    expect "@"
    let operand ← do
      if ← isPunctuator "(" then
        advance
        let e ← r.expression
        expect ")"
        pure (.node .paren [e])
      else
        let first ← name
        let chain ← whileSome r.budget (fun (t : Tree) => do
          if ← eat "." then return some (.node (.member (← anyName) false) [t])
          else return none) (.leaf (.identifier first))
        if ← eat "(" then
          let arguments ← untilEnd r.budget (eat ")") do
            let a ← if ← eat "..." then do pure (.node .spread [← r.assignment]) else r.assignment
            unless ← isPunctuator ")" do expect ","
            return a
          pure (.node (.call false) [chain, .group arguments, Tree.absent])
        else pure chain
    return .node .decorator [operand]

def accessibilityWords : List String := ["public", "protected", "private"]

/-- The words before a parameter that make it a property of its class. -/
def parameterModifiers (r : Rules) : Parser Modifiers :=
  whileSome r.budget (fun (m : Modifiers) => do
    match ← current with
    | .word w =>
        if !(accessibilityWords.contains w || w == "readonly" || w == "override") then return none
        let followed ← nextIs fun t _ => match t with
          | .word _ => true
          | .punctuator p => p == "\x7b" || p == "["
          | _ => false
        if !followed then return none
        advance
        return some (if w == "readonly" then { m with isReadonly := true }
          else if w == "override" then { m with overriding := true }
          else { m with accessibility := some w })
    | _ => return none) {}

/-- One parameter, without decorators: a rest pattern, or a pattern with mark, annotation and
default. -/
def parameterPattern (r : Rules) : Parser Tree := do
  if ← eat "..." then
    let p ← r.pattern
    let type ← annotation r
    return .node .restPattern [p, type]
  else
    let p ← r.pattern
    let mark ← if ← typed then eat "?" else pure false
    let type ← annotation r
    withDefault r (annotate p mark type)

/-- A parameter with its decorators; a constructor's may be properties. -/
def parameter (r : Rules) (isConstructor : Bool) : Parser Tree := do
  let ds ← decorators r
  let modifiers ← if isConstructor && (← typed) then parameterModifiers r else pure {}
  let p ← parameterPattern r
  if modifiers == {} then return .node .parameter [.group ds, p]
  else return .node (.parameterProperty modifiers) [.group ds, p]

/-- Parameters between parentheses. -/
def parameters (r : Rules) (isConstructor : Bool) : Parser (List Tree) := do
  expect "("
  let ps ← untilEnd r.budget (do return (← current) == .eof || (← isPunctuator ")")) do
    let p ← parameter r isConstructor
    unless ← isPunctuator ")" do expect ","
    return p
  expect ")"
  return ps

/-! ## Expressions as patterns -/

mutual

/-- The pattern an expression stands for on the left of an assignment. -/
def asPattern : Tree → Tree
  | .node (.identifier n) _ => .node (.bindingName n "") [Tree.absent]
  | .node .array es => .node (.arrayPattern false) [.group (asPatterns es), Tree.absent]
  | .node .object ps => .node (.objectPattern false) [.group (asPatterns ps), Tree.absent]
  | .node (.assign "=") [target, value] => .node .defaultPattern [asPattern target, value]
  | .node .spread [e] => .node .restPattern [asPattern e, Tree.absent]
  | .node .keyValue [k, v] => .node .keyValue [k, asPattern v]
  | t => t

def asPatterns : List Tree → List Tree
  | [] => []
  | t :: ts => asPattern t :: asPatterns ts

end

end LiveMarkup.Syntax.Grammar
