import LiveMarkup.Syntax.Grammar.Function
/-
# LiveMarkup.Syntax.Grammar.Expression -- expressions

From loosest to tightest: sequences, assignments and arrow functions, conditionals,
binary operators by precedence, prefix operators, calls and member accesses, and the
primary expressions.

A missing left operand is repaired when an operator stands in its place: the complaint
is collected, an invalid node stands for the operand, and reading goes on.  In the typed
dialect with markup, an angle bracket is first taken for an element, then for the type
parameters of an arrow function, and only then complained about.
-/

namespace LiveMarkup.Syntax.Grammar

set_option autoImplicit false

open LiveMarkup.Syntax.Parser

/-- Read a regular expression where a slash is the current token. -/
def loadRegex : Parser Unit := do
  if ← isOneOf ["/", "/="] then
    modify fun s =>
      let scanned := scanRegex s.start
      { s with current := scanned.token, cursor := scanned.cursor }

/-! ## Literals and primary expressions -/

/-- Elements between brackets; a comma without an element is a hole. -/
def arrayItems (r : Rules) : Nat → Parser (List Tree)
  | 0 => failHere .tooDeep
  | n + 1 => do
      if (← current) == .eof || (← isPunctuator "]") then return []
      else if ← eat "," then return Tree.absent :: (← arrayItems r n)
      else
        let a ← argument r
        unless ← isPunctuator "]" do expect ","
        return a :: (← arrayItems r n)

def objectMethod (r : Rules) (k : Tree) (kind : MethodKind) (async generator : Bool) : Parser Tree := do
  return .node (.objectMethod kind) [k, ← functionRest r [] async generator false]

def objectProperty (r : Rules) : Parser Tree := do
  if ← eat "..." then return .node .spread [← r.assignment]
  if ← eat "*" then
    let k ← key r
    return ← objectMethod r k .method false true
  let k ← key r
  if ← eat ":" then return .node .keyValue [k, ← r.assignment]
  if (← isPunctuator "(") || ((← typed) && (← isPunctuator "<")) then
    return ← objectMethod r k .method false false
  let wanted := if ← typed then
      "... , *,  (, [, :, , ?, =, an identifier, public, protected, private, readonly, <."
    else "*, (, [, :, , ?, = or an identifier"
  match k with
  | .node (.identifier n) _ =>
      if (← current) == .eof then
        discard require
        return Tree.absent
      else if ← isOneOf ["=", ",", "\x7d"] then
        if ← eat "=" then return .node (.shorthandDefault n) [← r.assignment]
        else return .leaf (.shorthand n)
      else if n == "get" then
        let k ← key r
        objectMethod r k .getter false false
      else if n == "set" then
        let k ← key r
        objectMethod r k .setter false false
      else if n == "async" then
        let generator ← eat "*"
        let k ← key r
        objectMethod r k .method true generator
      else unexpected wanted
  | _ => unexpected "identifier"

/-- An object with its braces. -/
def objectExpression (r : Rules) : Parser Tree := do
  return .node .object (← withContext (fun c => { c with inOperator := true, colonEnds := false })
    (propertyList r (objectProperty r)))

def parenthesized (r : Rules) : Parser Tree := do
  let start ← position
  expect "("
  if ← eat ")" then failAt start .emptyParentheses
  let e ← withContext (fun c => { c with inOperator := true, colonEnds := false }) r.expression
  expect ")"
  return .node .paren [e]

/-- `import` has been passed: a call or `import.meta`. -/
def importExpression (r : Rules) : Parser Tree := do
  if ← eat "." then
    if ← eatWord "meta" then return .leaf (.metaProperty "import.meta")
    else unexpected "meta"
  else
    let as ← arguments r
    return .node (.call false) [.leaf .importCallee, as, Tree.absent]

def isExpressionWord (w : String) : Bool := ["this", "null", "true", "false", "super"].contains w

def wordTree (w : String) : Tree :=
  if w == "this" then .leaf .this
  else if w == "super" then .leaf .super
  else if w == "null" then .leaf .null
  else if w == "true" || w == "false" then .leaf (.boolean (w == "true"))
  else .leaf (.identifier w)

/-- An expression without operators. -/
def primary (r : Rules) : Parser Tree := do
  loadRegex
  match ← current with
  | .word w =>
      if isExpressionWord w then
        advance
        return wordTree w
      else if w == "function" then functionExpression r false
      else if w == "class" then r.read .classExpression
      else if w == "import" then
        advance
        importExpression r
      else if ← atAsyncFunction then
        advance
        functionExpression r true
      else if (← atName) || w == "let" then
        return .leaf (.identifier (← name))
      else failHere .expressionExpected
  | .regex p flags =>
      advance
      return .leaf (.regex ("/" ++ p ++ "/" ++ flags))
  | .punctuator p =>
      if p == "(" then parenthesized r
      else if p == "[" then
        advance
        let es ← withContext (fun c => { c with inOperator := true, colonEnds := false })
          (arrayItems r r.budget)
        expect "]"
        return .node .array es
      else if p == "\x7b" then objectExpression r
      else if p == "`" then
        let (chunks, es) ← templateParts r
          (withContext (fun c => { c with inOperator := true, colonEnds := false }) r.expression) r.budget
        return .node (.template chunks) es
      else if p == "#" then
        advance
        return .leaf (.privateName (← anyName))
      else if p == "@" then r.read .classExpression
      else failHere .expressionExpected
  | token =>
      match stringOrNumber? token with
      | some t =>
          advance
          return t
      | none => failHere .expressionExpected

/-! ## Calls and member accesses -/

/-- Does a token start an expression, so that a closed list of type arguments before it was a
comparison? -/
def startsExpression (t : Token) : Bool :=
  match t with
  | .word w => !(["in", "instanceof", "as", "satisfies", "of", "from"].contains w)
  | .string _ _ => true
  | .number _ _ => true
  | .bigint _ => true
  | .regex _ _ => true
  | .punctuator p => ["\x7b", "[", "<", ">", "+", "-", "++", "--", "!", "~", "/", "#", "@"].contains p
  | _ => false

def taggedTemplate (r : Rules) (tag typeArguments : Tree) : Parser Tree := do
  let (chunks, es) ← templateParts r
    (withContext (fun c => { c with inOperator := true, colonEnds := false }) r.expression) r.budget
  return .node .taggedTemplate [tag, typeArguments, .node (.template chunks) es]

/-- Type arguments behind an expression, with the call or template they belong to, or alone
when no expression follows them. -/
def typeArgumentsBehind? (r : Rules) (calls : Bool) (t : Tree) : Parser (Option Tree) :=
  attempt do
    let ts ← typeArguments r
    if calls && (← isPunctuator "(") then
      let as ← arguments r
      return .node (.call false) [t, as, ts]
    else if ← isPunctuator "`" then taggedTemplate r t ts
    else if !calls && (← isPunctuator "(") then failHere .expressionExpected
    else if (← afterNewline) || !startsExpression (← current) then
      return .node .instantiation [t, ts]
    else failHere .expressionExpected

/-- One access, call or template behind an expression. -/
def subscript (r : Rules) (calls : Bool) (t : Tree) : Parser (Option Tree) := do
  let inner (p : Parser Tree) : Parser Tree :=
    withContext (fun c => { c with inOperator := true, colonEnds := false }) p
  if (← typed) && !(← afterNewline) then
    if ← isPunctuator "!" then
      advance
      return some (.node .nonNull [t])
  if (← typed) && (← isOneOf ["<", "<<"]) then
    if let some u ← typeArgumentsBehind? r calls t then return some u
  match ← current with
  | .punctuator p =>
      if p == "?." && calls then
        advance
        if (← typed) && (← isOneOf ["<", "<<"]) then
          let ts ← typeArguments r
          return some (.node (.call true) [t, ← arguments r, ts])
        else if ← isPunctuator "(" then
          return some (.node (.call true) [t, ← arguments r, Tree.absent])
        else if ← eat "[" then
          let e ← inner r.expression
          expect "]"
          return some (.node (.index true) [t, e])
        else if ← eat "#" then return some (.node (.privateMember (← anyName) true) [t])
        else return some (.node (.member (← anyName) true) [t])
      else if p == "." then
        advance
        if ← eat "#" then return some (.node (.privateMember (← anyName) false) [t])
        else return some (.node (.member (← anyName) false) [t])
      else if p == "[" then
        advance
        let e ← inner r.expression
        expect "]"
        return some (.node (.index false) [t, e])
      else if p == "(" && calls then
        return some (.node (.call false) [t, ← arguments r, Tree.absent])
      else if p == "`" then return some (← taggedTemplate r t Tree.absent)
      else return none
  | _ => return none

def subscripts (r : Rules) (calls : Bool) (t : Tree) : Parser Tree :=
  whileSome r.budget (subscript r calls) t

/-- `new` with what it constructs: nested `new`s, then a member expression. -/
def newExpression (r : Rules) : Nat → Parser Tree
  | 0 => failHere .tooDeep
  | n + 1 => do
      let start ← position
      expectWord "new"
      if ← eat "." then
        unless ← eatWord "target" do unexpected "target"
        unless (← context).newTargetAllowed do complainAt start .newTargetOutsideFunction
        return .leaf (.metaProperty "new.target")
      let callee ← if ← isWord "new" then newExpression r n else do
        let first ← primary r
        subscripts r false first
      let ts ← if (← typed) && (← isPunctuator "<") then
          attempt do
            let ts ← typeArguments r
            if ← isPunctuator "(" then return ts else failHere .expressionExpected
        else pure none
      let as ← if ← isPunctuator "(" then arguments r else pure Tree.absent
      return .node .new [callee, as, Tree.ofOption ts]

/-- Does an angle bracket start an element here? -/
def atElement : Parser Bool := do
  if !(← context).markup then return false
  match ← current with
  | .markupStart => return true
  | .punctuator "<" => return true
  | _ => return false

/-- A left-hand side: an element, or a primary expression with accesses and calls. -/
def leftHandSide (r : Rules) : Parser Tree := do
  if (← context).markup then discard require
  if ← atElement then
    if (← context).plainAngle then
      modify fun s => { s with context := { s.context with plainAngle := false } }
      advanceIn .code
      discard require
      unexpected "jsx identifier"
    else r.read (.element .code)
  else if ← isWord "new" then
    match ← newExpression r r.budget with
    | .node .new [callee, as, ts] =>
        if as.isAbsent then return .node .new [callee, as, ts]
        else subscripts r true (.node .new [callee, as, ts])
    | t => subscripts r true t
  else
    let first ← primary r
    subscripts r true first

/-! ## Operators -/

def prefixOperators : List String := ["+", "-", "~", "!"]

def prefixWords : List String := ["delete", "void", "typeof"]

/-- Read an operand; when that fails, collect the complaint and stand in an invalid node. -/
def operandOrInvalid (p : Parser Tree) : Parser Tree := do
  let saved ← context
  tryCatch p fun t => do
    modify fun s => { s with context := { saved with silent := s.context.silent } }
    complainAt t.offset t.complaint
    return .leaf .invalid

/-- A prefix operator with its operand, or a left-hand side with `++` or `--` behind it. -/
def unary (r : Rules) : Parser Tree := do
  let c ← context
  match ← current with
  | .punctuator p =>
      if p == "<" && c.typed && !c.markup then
        advance
        if ← eatWord "const" then
          expectAngle
          return .node .asConst [← r.unary]
        else
          let type ← r.type
          expectAngle
          return .node .assertion [← r.unary, type]
      else if p == "++" || p == "--" then
        advance
        return .node (.update p true) [← r.unary]
      else if prefixOperators.contains p then
        advance
        return .node (.unary p) [← operandOrInvalid r.unary]
      else operand
  | .word w =>
      if prefixWords.contains w then
        advance
        let start ← position
        let arg ← operandOrInvalid r.unary
        match w, arg with
        | "delete", .node (.identifier _) _ => if c.strict then complainAt start .deleteOfName
        | _, _ => pure ()
        return .node (.unary w) [arg]
      else if w == "await" then
        advance
        if c.inFunction && !c.inAsync then complainAt (← position) .awaitOutsideAsync
        return .node .await [← r.unary]
      else operand
  | _ => operand
where
  operand : Parser Tree := do
    let t ← leftHandSide r
    if (← isOneOf ["++", "--"]) && !(← afterNewline) then
      match ← current with
      | .punctuator p =>
          advance
          return .node (.update p false) [t]
      | _ => return t
    else return t

/-- How tightly a binary operator binds. -/
def precedence (operator : String) : Nat :=
  if operator == "??" || operator == "||" then 1
  else if operator == "&&" then 2
  else if operator == "|" then 3
  else if operator == "^" then 4
  else if operator == "&" then 5
  else if ["==", "!=", "===", "!=="].contains operator then 6
  else if ["<", "<=", ">", ">=", "in", "instanceof"].contains operator then 7
  else if ["<<", ">>", ">>>"].contains operator then 8
  else if ["+", "-"].contains operator then 9
  else if ["*", "/", "%"].contains operator then 10
  else 11

/-- The binary operator at hand. -/
def binaryOperator? : Parser (Option String) := do
  match ← current with
  | .punctuator p => return if Token.binaryOperators.contains p then some p else none
  | .word w =>
      if w == "instanceof" || (w == "in" && (← context).inOperator) then return some w else return none
  | _ => return none

def isLogical : Tree → Bool
  | .node (.binary op) _ => op == "&&" || op == "||"
  | _ => false

def isUnary : Tree → Bool
  | .node (.unary _) _ => true
  | .node .await _ => true
  | _ => false

/-- Operators behind a left operand that bind tighter than `least`. -/
def binaryRest (r : Rules) : Nat → Nat → Tree → Parser Tree
  | 0, _, _ => failHere .tooDeep
  | n + 1, least, left => do
      let ownLine := !(← afterNewline)
      if ownLine && (← typed) && (← isWord "as") then
        advance
        if ← isWord "const" then
          advance
          binaryRest r n least (.node .asConst [left])
        else
          let type ← withContext (fun c => { c with noConditionalType := false }) r.type
          binaryRest r n least (.node .asType [left, type])
      else if ownLine && (← typed) && (← isWord "satisfies") then
        advance
        let type ← withContext (fun c => { c with noConditionalType := false }) r.type
        binaryRest r n least (.node .satisfies [left, type])
      else
        match ← binaryOperator? with
        | none => return left
        | some op =>
            let p := precedence op
            if p ≤ least then return left
            else
              let start ← position
              advance
              if op == "**" && isUnary left then failHere .unaryBeforePower
              let operand ← r.unary
              let right ← binaryRest r n (if op == "**" then p - 1 else p) operand
              if op == "??" && (isLogical left || isLogical right) then complainAt start .mixedNullish
              binaryRest r n least (.node (.binary op) [left, right])

/-- An arrow function without type parameters, if one starts here. -/
def plainArrow? (r : Rules) : Parser (Option Tree) := do
  if let some t ← wordArrow? r then return some t
  if ← isPunctuator "(" then parenArrow? r false else return none

/-- An arrow function, which is an assignment as it stands, or a left operand.  It is repaired
when an operator stands where it breaks off. -/
def firstOperand (r : Rules) : Parser Tree := do
  let saved ← context
  let operand : Parser Tree := do
    match ← plainArrow? r with
    | some t => return t
    | none => r.unary
  tryCatch operand fun t => do
    modify fun s => { s with context := { saved with silent := s.context.silent, plainAngle := false } }
    discard require
    match ← binaryOperator? with
    | some _ =>
        complainAt (← position) .expressionExpected
        return .leaf .invalid
    | none => throw t

def isArrow : Tree → Bool
  | .node (.arrow _) _ => true
  | _ => false

def binary (r : Rules) : Parser Tree := do
  let left ← firstOperand r
  if isArrow left then return left else binaryRest r r.budget 0 left

def conditional (r : Rules) : Parser Tree := do
  let test ← binary r
  if isArrow test then return test
  if ← eat "?" then
    let yes ← withContext (fun c => { c with inOperator := true, colonEnds := true }) r.assignment
    expect ":"
    let no ← withContext (fun c => { c with colonEnds := false }) r.assignment
    return .node .conditional [test, yes, no]
  else return test

/-- `yield` with its value, when there is one on its line. -/
def yieldExpression (r : Rules) : Parser Tree := do
  advance
  let ends ← atStatementEnd
  if ends || (← isOneOf [")", "]", ":", ","]) then return .node (.yield false) [Tree.absent]
  let delegate ← eat "*"
  return .node (.yield delegate) [← r.assignment]

/-- These are never the left side of an assignment. -/
def endsAsOperator : Tree → Bool
  | .node .conditional _ => true
  | .node (.binary _) _ => true
  | .node (.unary _) _ => true
  | .node (.update _ _) _ => true
  | _ => false

/-- A conditional, or an assignment to one. -/
def assignmentBase (r : Rules) : Parser Tree := do
  loadRegex
  if (← context).inGenerator && (← isWord "yield") then return ← yieldExpression r
  discard require
  let left ← conditional r
  if isArrow left || endsAsOperator left then return left
  match ← current with
  | .punctuator op =>
      if Token.assignmentOperators.contains op then
        advance
        let value ← r.assignment
        return .node (.assign op) [if op == "=" then asPattern left else left, value]
      else return left
  | _ => return left

/-- An assignment expression, with the readings of an angle bracket in typed dialects. -/
def assignment (r : Rules) : Parser Tree := do
  let c ← context
  let angle ← isPunctuator "<"
  if c.typed && angle then
    if c.markup then
      if let some t ← attempt (assignmentBase r) then return t
    if let some t ← genericArrow? r false then return t
    if c.markup then
      modify fun s => { s with context := { s.context with plainAngle := true } }
      assignmentBase r
    else assignmentBase r
  else assignmentBase r

/-- Assignments joined by commas. -/
def expression (r : Rules) : Parser Tree := do
  let first ← r.assignment
  if ← isPunctuator "," then
    let rest ← untilEnd r.budget (do return !(← isPunctuator ",")) do
      expect ","
      r.assignment
    return .node .sequence (first :: rest)
  else return first

end LiveMarkup.Syntax.Grammar
