import LiveMarkup.Syntax.Grammar.Statement
/-
# LiveMarkup.Syntax.Grammar.Item -- imports, exports and whole modules

A module is a list of items: imports, exports and statements.  Specifiers keep the name
used here and the name used there; a name may also be written as a string.
-/

namespace LiveMarkup.Syntax.Grammar

set_option autoImplicit false

open LiveMarkup.Syntax.Parser

/-! ## Imports -/

/-- The text a module is named by. -/
def moduleSource : Parser Tree := do
  match ← require with
  | .string value raw =>
      advance
      return .leaf (.string value (some raw))
  | _ => unexpected "a string literal"

/-- The text a module is named by and what is said of it, which where types are written may
follow on the same line; the statement ends behind both. -/
def moduleReference (r : Rules) : Parser (Tree × Tree) := do
  let source ← moduleSource
  let attributes ←
    if !(← typed) || (← afterNewline) then pure Tree.absent
    else if ← isWordOf ["assert", "with"] then
      advance
      objectExpression r
    else pure Tree.absent
  expectStatementEnd
  return (source, attributes)

/-- A name there: a word or a string. -/
def specifierName : Parser Tree := do
  match ← require with
  | .string value raw =>
      advance
      return .leaf (.string value (some raw))
  | .word w =>
      advance
      return .leaf (.identifier w)
  | _ => unexpected "identifier or string"

/-- Is the current word `type` a mark on the specifier behind it? -/
def typeMark : Parser Bool := do
  if !(← typed) || !(← isWord "type") then return false
  let behind ← peek do
    advance
    match ← current with
    | .word "as" =>
        advance
        match ← current with
        | .word "as" => return true
        | .word _ => return false
        | _ => return true
    | .word _ => return true
    | .string _ _ => return true
    | _ => return false
  return behind.getD false

def importSpecifier : Parser Tree := do
  let typeOnly ← typeMark
  if typeOnly then advance
  let c ← context
  let there ← specifierName
  if ← eatWord "as" then return .node (.importNamed (← name) typeOnly) [there]
  match there with
  | .node (.identifier n) _ =>
      if isReserved c n then failHere (.reservedWord n)
      return .node (.importNamed n typeOnly) [Tree.absent]
  | _ => failHere (.expected "as" (← current).shown)

/-- Specifiers between braces. -/
def specifiers (r : Rules) (one : Parser Tree) : Parser (List Tree × Bool) := do
  expect "\x7b"
  let all ← untilEnd r.budget (do return (← current) == .eof || (← isPunctuator "\x7d")) do
    let s ← one
    let comma ← if ← isPunctuator "\x7d" then pure false else do
      expect ","
      pure true
    return (s, comma)
  expect "\x7d"
  return (all.map Prod.fst, (all.getLast?.map Prod.snd).getD false)

/-- What stands between `import` and the module's name. -/
def importClause (r : Rules) : Parser (List Tree) := do
  if ← eat "*" then
    expectWord "as"
    return [.leaf (.importNamespace (← name))]
  else return (← specifiers r importSpecifier).1

/-- The right side of an import by equation. -/
def importedModule (r : Rules) : Parser Tree := do
  if (← isWord "require") && (← nextIsPunctuator "(") then
    advance
    expect "("
    let source ← moduleSource
    expect ")"
    return .node .externalModule [source]
  else entityName r

def importEquals (r : Rules) (n : String) (exported typeOnly : Bool) : Parser Tree := do
  expect "="
  let source ← importedModule r
  expectStatementEnd
  return .node (.importEquals n exported typeOnly) [source]

/-- Does a name follow the current word, so that the word is a mark and not a name itself? -/
def importMark : Parser Bool := do
  if !(← typed) || !(← isWord "type") then return false
  let behind ← peek do
    advance
    match ← current with
    | .punctuator p => return p == "\x7b" || p == "*"
    | .word "from" =>
        advance
        match ← current with
        | .word "from" => return true
        | .punctuator "=" => return true
        | _ => return false
    | .word _ => return true
    | _ => return false
  return behind.getD false

def importDeclaration (r : Rules) : Parser Tree := do
  expectWord "import"
  match ← current with
  | .string _ _ =>
      let (source, attributes) ← moduleReference r
      return .node (.importDeclaration false) [.group [], source, attributes]
  | _ =>
      let typeOnly ← importMark
      if typeOnly then advance
      let found ← if ← atName then do
          let n ← name
          if (← typed) && (← isPunctuator "=") then
            return ← importEquals r n false typeOnly
          let others ← if ← eat "," then importClause r else pure []
          pure (.leaf (.importDefault n) :: others)
        else if ← isOneOf ["*", "\x7b"] then importClause r
        else pure []
      expectWord "from"
      let (source, attributes) ← moduleReference r
      return .node (.importDeclaration typeOnly) [.group found, source, attributes]

/-! ## Exports -/

def exportSpecifier : Parser Tree := do
  let typeOnly ← typeMark
  if typeOnly then advance
  let here ← specifierName
  let there ← if ← eatWord "as" then specifierName else pure Tree.absent
  return .node (.exportSpecifier typeOnly) [here, there]

/-- The default export from behind the word `default`. -/
def exportDefault (r : Rules) (ds : List Tree) : Parser Tree := do
  let ds := ds ++ (← decorators r)
  let isDefault (t : Tree) : Tree := .node .exportDefaultDeclaration [t]
  if (← typed) && (← isWord "abstract") && (← nextIs fun t newline => t == .word "class" && !newline) then
    advance
    expectWord "class"
    let n ← className?
    return isDefault (.node (.classExpression n) [← classRest r ds true])
  if (← typed) && (← isWord "interface") && (← nextIs fun t newline => !newline && match t with
      | .word _ => true
      | _ => false) then
    advance
    return isDefault (← interfaceDeclaration r false)
  if ← isWord "class" then
    advance
    let n ← className?
    return isDefault (.node (.classExpression n) [← classRest r ds false])
  let async ← atAsyncFunction
  if async || (← isWord "function") then
    if async then advance
    expectWord "function"
    let generator ← eat "*"
    let n ← if ← atName then some <$> name else pure none
    return isDefault (.node (.functionExpression n) [← functionRest r [] async generator true])
  let e ← withContext (fun c => { c with inOperator := true }) r.assignment
  expectStatementEnd
  return .node .exportDefaultExpression [e]

/-- What a plain `export` declares. -/
def exportedDeclaration? (r : Rules) (ds : List Tree) : Parser (Option Tree) := do
  if let some t ← typedStatement? r ds then return some t
  if ← isWord "class" then return some (← classDeclaration r ds false false)
  if ← isWord "function" then return some (← functionDeclaration r false false)
  if ← atAsyncFunction then
    advance
    return some (← functionDeclaration r true false)
  match ← variableKeyword? with
  | some keyword =>
      advance
      return some (← variableStatement r keyword false)
  | none => return none

def exportDeclaration (r : Rules) (ds : List Tree) : Parser Tree := do
  expectWord "export"
  let isTyped ← typed
  if isTyped && (← isWord "import") then
    advance
    let typeOnly ← importMark
    if typeOnly then advance
    let n ← name
    return ← importEquals r n true typeOnly
  if isTyped && (← isPunctuator "=") then
    advance
    let e ← r.expression
    expectStatementEnd
    return .node .exportAssignment [e]
  if isTyped && (← isWord "as") then
    advance
    expectWord "namespace"
    let n ← name
    expectStatementEnd
    return .leaf (.exportAsNamespace n)
  if ← eatWord "default" then return ← exportDefault r ds
  let ds := ds ++ (← decorators r)
  let typeOnly ← if isTyped && (← isWord "type") then
      nextIs fun t _ => t == .punctuator "\x7b" || t == .punctuator "*"
    else pure false
  if typeOnly then advance
  if ← eat "*" then
    if ← eatWord "as" then
      let n ← specifierName
      expectWord "from"
      let (source, attributes) ← moduleReference r
      return .node (.exportNamed typeOnly false)
        [.group [.node .exportNamespace [n]], source, attributes]
    expectWord "from"
    let (source, attributes) ← moduleReference r
    return .node (.exportAll typeOnly) [source, attributes]
  if !typeOnly then
    if let some t ← exportedDeclaration? r ds then return .node .exportDeclaration [t]
  let (names, comma) ← specifiers r exportSpecifier
  if ← eatWord "from" then
    let (source, attributes) ← moduleReference r
    return .node (.exportNamed typeOnly false) [.group names, source, attributes]
  let semicolon ← isPunctuator ";"
  expectStatementEnd
  return .node (.exportNamed typeOnly (comma && !semicolon)) [.group names, Tree.absent, Tree.absent]

/-- An item of a module. -/
def item (r : Rules) : Parser Tree := do
  let ds ← decorators r
  if ← isWord "export" then exportDeclaration r ds
  else if (← isWord "import") && !(← nextIs fun t _ => t == .punctuator "(" || t == .punctuator ".") then
    importDeclaration r
  else if ← isWord "import" then expressionStatement r
  else withContext (fun c => { c with inOperator := true, colonEnds := false }) (statementRest r ds)

/-- Items up to the end of the text. -/
def items (r : Rules) : Parser (List Tree) :=
  untilEnd r.budget (do return (← requireSound) == .eof) (item r)

end LiveMarkup.Syntax.Grammar
