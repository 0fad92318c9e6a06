import LiveMarkup.Syntax.Grammar.Expression
/-
# LiveMarkup.Syntax.Grammar.Class -- classes and their members

A member starts with decorators and words about it; a word counts as such only when a
name, a key or a body follows it, so `static`, `get` and the others may also be names.
-/

namespace LiveMarkup.Syntax.Grammar

set_option autoImplicit false

open LiveMarkup.Syntax.Parser

/-- Does the current word stand before a member's name? -/
def modifierFollowed : Parser Bool :=
  nextIs fun t _ => match t with
    | .word _ => true
    | .string _ _ => true
    | .number _ _ => true
    | .bigint _ => true
    | .punctuator p => p == "[" || p == "#" || p == "*" || p == "\x7b"
    | _ => false

def addModifier (w : String) (m : Modifiers) : Option Modifiers :=
  if accessibilityWords.contains w then some { m with accessibility := some w }
  else if w == "declare" then some { m with declared := true }
  else if w == "static" then some { m with isStatic := true }
  else if w == "abstract" then some { m with isAbstract := true }
  else if w == "override" then some { m with overriding := true }
  else if w == "readonly" then some { m with isReadonly := true }
  else none

/-- The words before a member. -/
def memberModifiers (r : Rules) : Parser Modifiers :=
  whileSome r.budget (fun (m : Modifiers) => do
    match ← current with
    | .word w =>
        let allowed := w == "static" || (← typed)
        match if allowed then addModifier w m else none with
        | none => return none
        | some next =>
            if !(← modifierFollowed) then return none
            if w == "static" then
              if ← nextIsPunctuator "\x7b" then return none
            if w == "override" && !(← context).hasSuperclass then
              complainAt (← position) .overrideWithoutSuperclass
            advance
            return some next
    | _ => return none) {}

/-- A member's key, which may be private. -/
def memberName (r : Rules) : Parser Tree := do
  if ← eat "#" then return .leaf (.privateName (← anyName))
  else key r

def fieldContext (c : Context) : Context :=
  { c with
    inOperator := true, inFunction := false, inAsync := false, inGenerator := false
    newTargetAllowed := true, colonEnds := false, breakAllowed := false, continueAllowed := false
    labels := [] }

/-- A field behind its key.  A missing semicolon is complained about, and the next member
follows. -/
def field (r : Rules) (decorators : List Tree) (k : Tree) (m : Modifiers) (accessor : Bool) :
    Parser Tree := do
  let definite ← if m.optional then pure false else if ← typed then eat "!" else pure false
  let type ← annotation r
  let value ← if ← eat "=" then withContext fieldContext r.assignment else pure Tree.absent
  unless ← eatStatementEnd do complainAt (← position) .semicolonExpected
  let m := { m with definite := definite }
  return .node (if accessor then .accessorMember m else .propertyMember m)
    [k, value, type, .group decorators]

def isConstructorKey : Tree → Bool
  | .node (.identifier n) _ => n == "constructor"
  | .node (.string s _) _ => s == "constructor"
  | _ => false

/-- Is the current word, not being the name itself, a word about the member behind it?  With
`sameLine` it has to be followed on its line. -/
def memberWord (w : String) (sameLine : Bool) : Parser Bool := do
  if ← isWord w then
    nextIs fun t newline => !(sameLine && newline) && match t with
      | .word _ => true
      | .string _ _ => true
      | .number _ _ => true
      | .bigint _ => true
      | .punctuator p => p == "[" || p == "#" || p == "*"
      | _ => false
  else return false

/-- One member of a class. -/
def member (r : Rules) : Parser Tree := do
  if ← eat ";" then return .leaf .emptyMember
  let ds ← decorators r
  let m ← memberModifiers r
  if (← isWord "static") && (← nextIsPunctuator "\x7b") then
    advance
    return .node .staticBlock [← withContext fieldContext r.block]
  if (← typed) && (← isPunctuator "[") then
    if ← atIndexSignature then
      let t ← indexSignature r m.isReadonly m.isStatic
      expectStatementEnd
      return t
  let method (kind : MethodKind) (async generator : Bool) : Parser Tree := do
    let k ← memberName r
    let mark ← if ← typed then eat "?" else pure false
    let m := { m with optional := mark }
    return .node (.methodMember kind m) [k, ← functionRest r ds async generator true]
  if ← eat "*" then return ← method .method false true
  if ← memberWord "async" true then
    advance
    let generator ← eat "*"
    return ← method .method true generator
  if ← memberWord "get" false then
    advance
    return ← method .getter false false
  if ← memberWord "set" false then
    advance
    return ← method .setter false false
  let accessor ← memberWord "accessor" true
  if accessor then advance
  let k ← memberName r
  let mark ← if ← typed then eat "?" else pure false
  let m := { m with optional := mark }
  if !accessor && ((← isPunctuator "(") || ((← typed) && (← isPunctuator "<"))) then
    if isConstructorKey k && !m.isStatic then
      let ps ← parameters r true
      let body ← functionBody r false false true
      return .node (.constructorMember m) [k, .group ps, body]
    else
      return .node (.methodMember .method m) [k, ← functionRest r ds false false true]
  else field r ds k m accessor

def isConstructorWithBody : Tree → Bool
  | .node (.constructorMember _) [_, _, body] => !body.isAbsent
  | _ => false

/-- Members up to the closing brace; a second constructor with a body is complained about. -/
def members (r : Rules) : Nat → Bool → Parser (List Tree)
  | 0, _ => failHere .tooDeep
  | n + 1, constructed => do
      if (← current) == .eof || (← isPunctuator "\x7d") then return []
      let start ← position
      let m ← member r
      let isConstructor := isConstructorWithBody m
      if isConstructor && constructed then complainAt start .duplicateConstructor
      return m :: (← members r n (constructed || isConstructor))

/-- A type name with arguments, as listed behind `extends` and `implements`. -/
def heritage (r : Rules) : Parser Tree := do
  let n ← entityName r
  let ts ← typeArguments? r
  return .node .heritage [n, ts]

def heritageList (r : Rules) : Parser (List Tree) := do
  let first ← heritage r
  let rest ← untilEnd r.budget (do return !(← isPunctuator ",")) do
    expect ","
    heritage r
  return first :: rest

/-- The class behind its name: type parameters, superclass, interfaces and members. -/
def classRest (r : Rules) (decorators : List Tree) (isAbstract : Bool) : Parser Tree := do
  let tps ← typeParameters? r
  let (superclass, superArguments) ← if ← eatWord "extends" then do
      let superclass ← leftHandSide r
      match superclass with
      | .node .instantiation [e, ts] => pure (e, ts)
      | _ =>
          let ts ← if ← typed then typeArguments? r else pure Tree.absent
          pure (superclass, ts)
    else pure (Tree.absent, Tree.absent)
  let implementing ← if ← typed then eatWord "implements" else pure false
  let interfaces ← if implementing then heritageList r else pure []
  expect "\x7b"
  let ms ← withContext (fun c => { c with hasSuperclass := !superclass.isAbsent }) (members r r.budget false)
  expect "\x7d"
  return .node (.classBody isAbstract)
    [.group decorators, .group ms, superclass, tps, superArguments, .group interfaces]

/-- The name of a class, when there is one. -/
def className? : Parser (Option String) := do
  if (← atName) && !(← isWord "implements") then some <$> name else return none

/-- A class expression with its decorators. -/
def classExpression (r : Rules) : Parser Tree := do
  let ds ← decorators r
  expectWord "class"
  let n ← className?
  return .node (.classExpression n) [← classRest r ds false]

/-- A class declaration from the word `class` on. -/
def classDeclaration (r : Rules) (decorators : List Tree) (isAbstract declared : Bool) : Parser Tree := do
  expectWord "class"
  let n ← name
  return .node (.classDeclaration n declared) [← classRest r decorators isAbstract]

end LiveMarkup.Syntax.Grammar
