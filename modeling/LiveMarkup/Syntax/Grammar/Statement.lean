import LiveMarkup.Syntax.Grammar.Class
/-
# LiveMarkup.Syntax.Grammar.Statement -- statements and declarations

A statement ends at a semicolon, before a closing brace, at the end of the text, or at
the end of a line.  A declaration without its semicolon is repaired by skipping to one.

In typed dialects a statement that starts with `interface`, `type`, `enum`,
`namespace`, `module`, `abstract` or `declare` declares something when what follows
on the line allows it; otherwise the word is a name.
-/

namespace LiveMarkup.Syntax.Grammar

set_option autoImplicit false

open LiveMarkup.Syntax.Parser

/-! ## Blocks -/

/-- Statements up to a closing brace.  At the end of the text the missing brace is complained
about, and the block ends. -/
def blockItems (r : Rules) (goal : Goal) : Nat → Parser (List Tree)
  | 0 => failHere .tooDeep
  | n + 1 => do
      match ← requireSound with
      | .eof =>
          complainAt (← position) (.expected "\x7d" "<eof>")
          return []
      | .punctuator "\x7d" =>
          advance
          return []
      | _ =>
          let s ← r.read goal
          return s :: (← blockItems r goal n)

def block (r : Rules) : Parser Tree := do
  expect "\x7b"
  return .node .block (← blockItems r .statement r.budget)

/-! ## Variables -/

def isPlainName : Tree → Bool
  | .node (.bindingName _ _) _ => true
  | _ => false

/-- A declarator; in the head of a loop over values it needs no value. -/
def declarator (r : Rules) (keyword : String) (inLoop : Bool) : Parser Tree := do
  let start ← position
  let p ← r.pattern
  let definite ← if (← typed) && isPlainName p then eat "!" else pure false
  let type ← annotation r
  let p := match p with
    | .node (.bindingName n _) _ => .node (.bindingName n (if definite then "!" else "")) [type]
    | p => annotate p false type
  if inLoop && (← isWordOf ["in", "of"]) then return .node .declarator [p, Tree.absent]
  if ← eat "=" then return .node .declarator [p, ← r.assignment]
  if !(← context).inDeclare then
    if keyword == "const" && !inLoop then complainAt start .initializerExpected
    else if !isPlainName p then failAt start .patternInitializerExpected
  return .node .declarator [p, Tree.absent]

/-- Declarators behind a keyword or a comma.  When none follows, that is complained about and
the list ends. -/
def declarators (r : Rules) (keyword : String) (inLoop : Bool) : Nat → Nat → Parser (List Tree)
  | 0, _ => failHere .tooDeep
  | n + 1, before => do
      if (← current) == .eof || (← isPunctuator ";") then
        complainAt before .trailingComma
        return []
      let first ← declarator r keyword inLoop
      let comma ← nextStart
      if ← eat "," then return first :: (← declarators r keyword inLoop n comma)
      else return [first]

/-- A keyword with its declarators. -/
def variableDeclaration (r : Rules) (keyword : String) (inLoop declared : Bool) : Parser Tree := do
  return .node (.variableDeclaration keyword declared) (← declarators r keyword inLoop r.budget (← lastEnd))

/-- Skip to the end of a statement. -/
def skipStatement : Nat → Parser Unit
  | 0 => return ()
  | n + 1 => do
      if ← eatStatementEnd then return ()
      advance
      match ← current with
      | .broken _ => return ()
      | _ => skipStatement n

/-- A declaration of variables as a statement, from behind its keyword. -/
def variableStatement (r : Rules) (keyword : String) (declared : Bool) : Parser Tree := do
  let vs ← variableDeclaration r keyword false declared
  unless ← eatStatementEnd do
    complainAt (← position) .semicolonExpected
    tryCatch (discard r.expression) fun _ => return ()
    skipStatement r.budget
  return .node .variableStatement [vs]

/-- Does `let` start a declaration? -/
def letDeclares : Parser Bool :=
  nextIs fun t _ => match t with
    | .word w => !(["in", "instanceof", "of"].contains w)
    | .punctuator p => p == "[" || p == "\x7b"
    | _ => false

/-- The keyword of a declaration of variables at hand. -/
def variableKeyword? : Parser (Option String) := do
  match ← current with
  | .word w =>
      if w == "var" || w == "const" then return some w
      else if w == "let" then
        if ← letDeclares then return some w else return none
      else if w == "using" then
        if (← typed) && (← nextIs fun t newline => !newline && match t with
            | .word v => !(["in", "of", "instanceof", "as", "satisfies"].contains v)
            | _ => false) then return some w
        else return none
      else return none
  | _ => return none

/-! ## Functions -/

/-- A function declaration from the word `function` on. -/
def functionDeclaration (r : Rules) (async declared : Bool) : Parser Tree := do
  expectWord "function"
  let generator ← eat "*"
  let n ← name
  return .node (.functionDeclaration n declared) [← functionRest r [] async generator true]

/-! ## Typed declarations -/

def interfaceDeclaration (r : Rules) (declared : Bool) : Parser Tree := do
  let n ← name
  let tps ← typeParameters? r
  let parents ← if ← eatWord "extends" then heritageList r else pure []
  let ms ← typeMembers r
  return .node (.interface n declared) [tps, .group parents, .group ms]

def typeAlias (r : Rules) (declared : Bool) : Parser Tree := do
  let n ← name
  let tps ← typeParameters? r
  expect "="
  let type ← r.type
  expectStatementEnd
  return .node (.typeAlias n declared) [tps, type]

def enumeration (r : Rules) (constant declared : Bool) : Parser Tree := do
  let n ← name
  let ms ← propertyList r do
    let k ← key r
    let value ← if ← eat "=" then r.assignment else pure Tree.absent
    return .node .enumMember [k, value]
  return .node (.enumeration n constant declared) ms

/-- Items between the braces of a namespace. -/
def moduleItems (r : Rules) : Parser (List Tree) := do
  expect "\x7b"
  blockItems r .item r.budget

/-- A namespace or module from behind its keyword. -/
def moduleDeclaration (r : Rules) (keyword : String) (declared : Bool) : Parser Tree := do
  let n ← match ← require with
    | .string value raw => do
        advance
        pure (Tree.leaf (.string value (some raw)))
    | _ => entityName r
  if ← isPunctuator "\x7b" then
    let items ← withContext (fun c => { c with inDeclare := c.inDeclare || declared }) (moduleItems r)
    return .node (.moduleDeclaration keyword declared) [n, .group items]
  else
    expectStatementEnd
    return .node (.moduleDeclaration keyword declared) [n, Tree.absent]

/-- A word that declares something when a name follows it on its line. -/
def declaringWord : Parser (Option String) := do
  match ← current with
  | .word w =>
      let followed ← nextIs fun t newline => !newline && match t with
        | .word v => !(["in", "of", "instanceof", "as", "satisfies", "is"].contains v) ||
            w == "interface"
        | .string _ _ => w == "module"
        | .punctuator "\x7b" => w == "global"
        | _ => false
      if followed && ["interface", "type", "namespace", "module", "abstract", "global", "declare"].contains w
        then return some w
      else return none
  | _ => return none

/-- A declaration of typed dialects, if one starts here. -/
def typedDeclaration? (r : Rules) (decorators : List Tree) (declared : Bool) : Parser (Option Tree) := do
  if ← isWord "enum" then
    advance
    return some (← enumeration r false declared)
  if (← isWord "const") && (← nextIs fun t _ => t == .word "enum") then
    advance
    advance
    return some (← enumeration r true declared)
  match ← declaringWord with
  | none => return none
  | some w =>
      if w == "declare" then return none
      else if w == "abstract" then
        if ← nextIs fun t _ => t == .word "class" then
          advance
          return some (← classDeclaration r decorators true declared)
        else return none
      else
        advance
        if w == "interface" then return some (← interfaceDeclaration r declared)
        else if w == "type" then return some (← typeAlias r declared)
        else if w == "global" then
          let items ← withContext (fun c => { c with inDeclare := true }) (moduleItems r)
          return some (.node (.moduleDeclaration "global" declared) [Tree.absent, .group items])
        else return some (← moduleDeclaration r w declared)

/-- What `declare` declares, from behind that word. -/
def declaredThing (r : Rules) (decorators : List Tree) : Parser Tree :=
  withContext (fun c => { c with inDeclare := true }) do
    if let some t ← typedDeclaration? r decorators true then return t
    if ← isWord "class" then return ← classDeclaration r decorators false true
    if ← isWord "function" then return ← functionDeclaration r false true
    if ← atAsyncFunction then
      advance
      return ← functionDeclaration r true true
    match ← variableKeyword? with
    | some keyword =>
        advance
        variableStatement r keyword true
    | none => failHere .expressionExpected

/-- A declaration that starts with a word of typed dialects. -/
def typedStatement? (r : Rules) (decorators : List Tree) : Parser (Option Tree) := do
  if !(← typed) then return none
  if let some t ← typedDeclaration? r decorators false then return some t
  match ← declaringWord with
  | some "declare" =>
      advance
      return some (← declaredThing r decorators)
  | _ => return none

/-! ## Loops -/

def loopBody (r : Rules) : Parser Tree :=
  withContext (fun c => { c with breakAllowed := true, continueAllowed := true }) r.statement

/-- A condition between parentheses. -/
def condition (r : Rules) : Parser Tree := do
  expect "("
  let e ← withContext (fun c => { c with inOperator := true }) r.expression
  expect ")"
  return e

/-- The part of a `for` behind its first part: a loop over values, or test and step. -/
def forRest (r : Rules) (async : Bool) (start : Nat) (head : Tree) : Parser Tree := do
  let initialised := match head with
    | .node (.variableDeclaration _ _) [.node .declarator [_, value]] => !value.isAbsent
    | _ => false
  let left := match head with
    | .node (.variableDeclaration _ _) _ => head
    | t => asPattern t
  if ← isWord "of" then
    if initialised then complainAt start .loopInitializer
    advance
    let right ← r.assignment
    expect ")"
    return .node (.forOf async) [left, right, ← loopBody r]
  else if ← isWord "in" then
    if initialised then complainAt start .loopInitializer
    advance
    let right ← withContext (fun c => { c with inOperator := true }) r.expression
    expect ")"
    return .node .forIn [left, right, ← loopBody r]
  else
    expect ";"
    let test ← if ← isPunctuator ";" then pure Tree.absent
      else withContext (fun c => { c with inOperator := true }) r.expression
    expect ";"
    let step ← if ← isPunctuator ")" then pure Tree.absent
      else withContext (fun c => { c with inOperator := true }) r.expression
    expect ")"
    return .node .forStatement [head, test, step, ← loopBody r]

def forStatement (r : Rules) : Parser Tree := do
  expectWord "for"
  let async ← eatWord "await"
  expect "("
  if ← isPunctuator ";" then forRest r async 0 Tree.absent
  else
    match ← variableKeyword? with
    | some keyword =>
        advance
        let start ← position
        let vs ← withContext (fun c => { c with inOperator := false }) (variableDeclaration r keyword true false)
        forRest r async start vs
    | none =>
        let start ← position
        let e ← withContext (fun c => { c with inOperator := false }) r.expression
        forRest r async start e

/-! ## Other statements -/

def switchCase (r : Rules) : Parser Tree := do
  let test ← if ← eatWord "case" then withContext (fun c => { c with inOperator := true }) r.expression
    else do
      expectWord "default"
      pure Tree.absent
  expect ":"
  let body ← withContext (fun c => { c with breakAllowed := true }) <|
    untilEnd r.budget (do
      let t ← requireSound
      return t == .eof || t == .punctuator "\x7d" || t == .word "case" || t == .word "default")
      r.statement
  return .node .switchCase [test, .group body]

def switchStatement (r : Rules) : Parser Tree := do
  expectWord "switch"
  let subject ← condition r
  expect "\x7b"
  let cases ← untilEnd r.budget (do return !(← isWordOf ["case", "default"])) (switchCase r)
  expect "\x7d"
  return .node .switchStatement [subject, .group cases]

/-- A block with a handler, a finalizer or both; when both are missing, the statement is
complained about as one that does not end. -/
def tryStatement (r : Rules) : Parser Tree := do
  expectWord "try"
  let b ← r.block
  let start ← nextStart
  let handler ← if ← eatWord "catch" then do
      let param ← if ← eat "(" then do
          let p ← r.pattern
          let type ← annotation r
          expect ")"
          pure (annotate p false type)
        else pure Tree.absent
      pure (.node .catchClause [param, ← r.block])
    else pure Tree.absent
  let finalizer ← if ← eatWord "finally" then r.block else pure Tree.absent
  if handler.isAbsent && finalizer.isAbsent then complainAt start .semicolonExpected
  return .node .tryStatement [b, handler, finalizer]

/-- `break` or `continue` with its label. -/
def jump (isBreak : Bool) : Parser Tree := do
  let start ← position
  advance
  let label ← if ← eatStatementEnd then pure none
    else do
      let l ← name
      expectStatementEnd
      pure (some l)
  let c ← context
  let unknown := match label with
    | some l => !c.labels.contains l
    | none => false
  if isBreak then
    if unknown then complainAt start .breakToUnknownLabel
    else if !c.breakAllowed then complainAt start .breakOutsideLoop
  else if !c.continueAllowed then complainAt start .continueOutsideLoop
  else if unknown then complainAt start .jumpAcrossFunction
  return .leaf (if isBreak then .breakStatement label else .continueStatement label)

def returnStatement (r : Rules) : Parser Tree := do
  let start ← position
  let saved ← context
  let outside : Parser Unit := do
    unless saved.inFunction do complainAt start .returnOutsideFunction
  let result ← tryCatch (do
      advance
      let value ← if ← atStatementEnd then pure Tree.absent
        else withContext (fun c => { c with inOperator := true }) r.expression
      expectStatementEnd
      return value) fun t => do
        outside
        throw t
  outside
  return .node .returnStatement [result]

/-- A statement that starts with an expression, and the labels among them. -/
def expressionStatement (r : Rules) : Parser Tree := do
  let e ← withContext (fun c => { c with inOperator := true }) r.expression
  match e with
  | .node (.identifier label) _ =>
      if ← eat ":" then
        let body ← withContext (fun c => { c with
          breakAllowed := true, labels := label :: c.labels }) r.statement
        return .node (.labeled label) [body]
  | _ => pure ()
  if ← eatStatementEnd then return .node .expressionStatement [e]
  discard requireSound
  match ← binaryOperator? with
  | some _ =>
      complainAt (← position) .semicolonExpected
      let e ← binaryRest r r.budget 0 e
      return .node .expressionStatement [e]
  | none => failHere .statementEndExpected

/-- A statement behind its decorators. -/
def statementRest (r : Rules) (decorators : List Tree) : Parser Tree := do
  match ← require with
  | .punctuator ";" =>
      advance
      return .leaf .emptyStatement
  | .punctuator "\x7b" => r.block
  | .word w =>
      if w == "break" then jump true
      else if w == "continue" then jump false
      else if w == "debugger" then
        advance
        expectStatementEnd
        return .leaf .debugger
      else if w == "do" then
        advance
        let body ← loopBody r
        expectWord "while"
        let test ← condition r
        discard (eat ";")
        return .node .doWhile [test, body]
      else if w == "for" then forStatement r
      else if w == "function" then functionDeclaration r false false
      else if w == "class" then classDeclaration r decorators false false
      else if w == "if" then
        advance
        let test ← condition r
        let yes ← r.statement
        let no ← if ← eatWord "else" then r.statement else pure Tree.absent
        return .node .ifStatement [test, yes, no]
      else if w == "return" then returnStatement r
      else if w == "switch" then switchStatement r
      else if w == "throw" then
        advance
        if ← afterNewline then failHere .newlineAfterThrow
        let e ← withContext (fun c => { c with inOperator := true }) r.expression
        expectStatementEnd
        return .node .throwStatement [e]
      else if w == "try" then tryStatement r
      else if w == "while" then
        advance
        let test ← condition r
        return .node .whileStatement [test, ← loopBody r]
      else if w == "with" then
        let start ← position
        if (← context).strict then complainAt start .withInStrictMode
        advance
        let subject ← condition r
        return .node .withStatement [subject, ← r.statement]
      else if ← atAsyncFunction then
        advance
        functionDeclaration r true false
      else if let some t ← typedStatement? r decorators then return t
      else
        match ← variableKeyword? with
        | some keyword =>
            advance
            variableStatement r keyword false
        | none => expressionStatement r
  | _ => expressionStatement r

/-- One statement. -/
def statement (r : Rules) : Parser Tree := do
  let ds ← decorators r
  withContext (fun c => { c with inOperator := true, colonEnds := false }) do
    if ← isWordOf ["import", "export"] then
      let called ← if ← isWord "import" then
          nextIs fun t _ => t == .punctuator "(" || t == .punctuator "."
        else pure false
      if called then expressionStatement r else failHere .importNotAtTopLevel
    else statementRest r ds

end LiveMarkup.Syntax.Grammar
