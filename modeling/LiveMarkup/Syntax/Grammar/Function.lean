import LiveMarkup.Syntax.Grammar.Markup
/-
# LiveMarkup.Syntax.Grammar.Function -- functions and calls

The part of a function behind its name is the same everywhere: type parameters,
parameters, result type and body.  A body is read as code inside a function; outside of
it labels and loops do not count.
-/

namespace LiveMarkup.Syntax.Grammar

set_option autoImplicit false

open LiveMarkup.Syntax.Parser

/-- What holds inside a function's body. -/
def functionContext (async generator arrow : Bool) (c : Context) : Context :=
  { c with
    inOperator := true
    inFunction := true
    inAsync := async
    inGenerator := generator
    newTargetAllowed := c.newTargetAllowed || !arrow
    inDeclare := false
    colonEnds := false
    noConditionalType := false
    breakAllowed := false
    continueAllowed := false
    labels := [] }

/-- The body of a function; without one, in typed dialects, the declaration just ends. -/
def functionBody (r : Rules) (async generator bodyOptional : Bool) : Parser Tree := do
  let mayEnd := bodyOptional && (← typed) && !(← isPunctuator "\x7b")
  if ← if mayEnd then eatStatementEnd else pure false then return Tree.absent
  else withContext (functionContext async generator false) r.block

/-- Type parameters, parameters, result and body, as a function node. -/
def functionRest (r : Rules) (decorators : List Tree) (async generator bodyOptional : Bool) :
    Parser Tree := do
  let tps ← typeParameters? r
  let ps ← withContext (fun c => { c with inAsync := async, inGenerator := generator }) (parameters r false)
  let result ← annotatedResult r
  let body ← functionBody r async generator bodyOptional
  return .node (.function async generator) [.group ps, .group decorators, body, tps, result]

/-- `function` has been seen: an optional star, a name where one stands, and the rest. -/
def functionExpression (r : Rules) (async : Bool) : Parser Tree := do
  expectWord "function"
  let generator ← eat "*"
  let n ← if ← atName then some <$> name else pure none
  return .node (.functionExpression n) [← functionRest r [] async generator false]

/-- Does `async function` stand here, on one line? -/
def atAsyncFunction : Parser Bool := do
  if ← isWord "async" then nextIs fun t newline => t == .word "function" && !newline
  else return false

/-! ## Arguments -/

def argument (r : Rules) : Parser Tree := do
  if ← eat "..." then return .node .spread [← r.assignment]
  else r.assignment

/-- Arguments between parentheses. -/
def arguments (r : Rules) : Parser Tree := do
  expect "("
  let as ← withContext (fun c => { c with inOperator := true, colonEnds := false }) <|
    untilEnd r.budget (do return (← current) == .eof || (← isPunctuator ")")) do
      let a ← argument r
      unless (← current) == .eof || (← isPunctuator ")") do expect ","
      return a
  expect ")"
  return .group as

/-! ## Arrow functions -/

/-- Behind the arrow: a block, or an expression. -/
def arrowBody (r : Rules) (async : Bool) : Parser Tree := do
  expect "=>"
  if ← isPunctuator "\x7b" then withContext (functionContext async false true) r.block
  else
    withContext (fun c => { functionContext async false true c with
      inOperator := c.inOperator, colonEnds := c.colonEnds }) r.assignment

/-- Parameters and result type up to an arrow on the same line. -/
def arrowHead (r : Rules) : Parser (List Tree × Tree) := do
  let ps ← parameters r false
  let c ← context
  let result ← if c.colonEnds then pure Tree.absent else annotatedResult r
  if (← isPunctuator "=>") && !(← afterNewline) then return (ps, result)
  else failHere .expressionExpected

def arrow (async : Bool) (ps : List Tree) (body tps result : Tree) : Tree :=
  .node (.arrow async) [.group ps, body, tps, result]

/-- An arrow function with its parameters in parentheses, if one starts here. -/
def parenArrow? (r : Rules) (async : Bool) : Parser (Option Tree) := do
  match ← attempt (arrowHead r) with
  | some (ps, result) => return some (arrow async ps (← arrowBody r async) Tree.absent result)
  | none => return none

/-- An arrow function with type parameters, if one starts here. -/
def genericArrow? (r : Rules) (async : Bool) : Parser (Option Tree) := do
  let head ← attempt do
    let tps ← typeParameters r
    let (ps, result) ← arrowHead r
    return (tps, ps, result)
  match head with
  | some (tps, ps, result) => return some (arrow async ps (← arrowBody r async) tps result)
  | none => return none

def namedParameter (n : String) : Tree :=
  .node .parameter [.group [], .node (.bindingName n "") [Tree.absent]]

/-- An arrow function that starts with a word: its one parameter, or `async`. -/
def wordArrow? (r : Rules) : Parser (Option Tree) := do
  if !(← atName) then return none
  if ← nextIs fun t newline => t == .punctuator "=>" && !newline then
    let n ← name
    return some (arrow false [namedParameter n] (← arrowBody r false) Tree.absent Tree.absent)
  if !(← isWord "async") then return none
  let saved ← get
  if ← nextIs fun t newline => t == .punctuator "(" && !newline then
    advance
    match ← parenArrow? r true with
    | some t => return some t
    | none =>
        set saved
        return none
  if (← typed) && (← nextIs fun t newline => t == .punctuator "<" && !newline) then
    advance
    match ← genericArrow? r true with
    | some t => return some t
    | none =>
        set saved
        return none
  let named ← attempt do
    advance
    let n ← if ← afterNewline then failHere .identifierExpected else name
    if !(← isPunctuator "=>") then failHere .identifierExpected
    return n
  match named with
  | some n =>
      return some (arrow true [namedParameter n] (← arrowBody r true) Tree.absent Tree.absent)
  | none => return none

end LiveMarkup.Syntax.Grammar
