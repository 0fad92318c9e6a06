import LiveMarkup.Syntax.Grammar.Pattern
/-
# LiveMarkup.Syntax.Grammar.Types -- type expressions

From loosest to tightest: conditional types, function types, unions, intersections,
prefix operators, the postfix brackets, and the simple types.  A parenthesis starts a
function type when reading one succeeds up to its arrow.
-/

namespace LiveMarkup.Syntax.Grammar

set_option autoImplicit false

open LiveMarkup.Syntax.Parser

def simpleTypeWanted : String :=
  "an identifier, void, yield, null, await, break, a string literal, a numeric literal, " ++
    "true, false, `, -, import, this, typeof, \x7b, [, ("

/-- Types written as one word. -/
def keywordTypes : List String :=
  ["any", "boolean", "number", "bigint", "object", "string", "symbol", "unknown", "undefined",
   "never", "intrinsic", "void", "null"]

/-- A closing angle bracket, also as the first character of a longer operator. -/
def expectAngle : Parser Unit := do
  splitFirst ">"
  expect ">"

/-- Types between angle brackets. -/
def typeArguments (r : Rules) : Parser Tree := do
  splitFirst "<"
  expect "<"
  let ts ← untilEnd r.budget (do splitFirst ">"; isPunctuator ">") do
    let t ← withContext (fun c => { c with noConditionalType := false }) r.type
    splitFirst ">"
    unless ← isPunctuator ">" do expect ","
    return t
  expectAngle
  return .node .typeArguments ts

def typeParameterWords : List String := ["const", "in", "out"]

def typeParameter (r : Rules) : Parser Tree := do
  let words ← untilEnd r.budget (do
      match ← current with
      | .word w =>
          let followed ← nextIs fun t _ => match t with
            | .word _ => true
            | _ => false
          return !(typeParameterWords.contains w && followed)
      | _ => return true) anyName
  let n ← name
  let bound ← if ← eatWord "extends" then r.type else pure Tree.absent
  let fallback ← if ← eat "=" then r.type else pure Tree.absent
  return .node (.typeParameter n words) [bound, fallback]

/-- Type parameters between angle brackets. -/
def typeParameters (r : Rules) : Parser Tree := do
  expect "<"
  let ps ← untilEnd r.budget (do splitFirst ">"; isPunctuator ">") do
    let p ← typeParameter r
    splitFirst ">"
    unless ← isPunctuator ">" do expect ","
    return p
  expectAngle
  return .node .typeParameters ps

/-- Type parameters, when they are there. -/
def typeParameters? (r : Rules) : Parser Tree := do
  if (← typed) && (← isPunctuator "<") then typeParameters r else return Tree.absent

/-- A name with dots. -/
def entityName (r : Rules) : Parser Tree := do
  let first ← anyName
  whileSome r.budget (fun (t : Tree) => do
    if ← eat "." then return some (.node (.qualifiedName (← anyName)) [t])
    else return none) (.leaf (.identifier first))

def typeArguments? (r : Rules) : Parser Tree := do
  if (← isOneOf ["<", "<<"]) && !(← afterNewline) then typeArguments r else return Tree.absent

/-- The type of a function's result: a type, or a predicate on a parameter. -/
def resultType (r : Rules) : Parser Tree := do
  let predicate ← attempt do
    let asserts ← if ← isWord "asserts" then
        nextIs fun t newline => !newline && match t with
          | .word _ => true
          | _ => false
      else pure false
    if asserts then advance
    let subject ← anyName
    let subjectTree : Tree := if subject == "this" then .leaf .this else .leaf (.identifier subject)
    if !(← afterNewline) && (← isWord "is") then
      advance
      let type ← withContext (fun c => { c with noConditionalType := false }) r.type
      return Tree.node (.typePredicate asserts) [subjectTree, type]
    else if asserts then return Tree.node (.typePredicate true) [subjectTree, Tree.absent]
    else failHere .expressionExpected
  match predicate with
  | some t => return t
  | none => withContext (fun c => { c with noConditionalType := false }) r.type

/-- The result type behind a colon, in typed dialects. -/
def annotatedResult (r : Rules) : Parser Tree := do
  if (← typed) && (← isPunctuator ":") then
    advance
    resultType r
  else return Tree.absent

/-! ## Members of type literals and interfaces -/

def memberEnd : Parser Unit := do
  unless ← eat "," do expectStatementEnd

/-- A key and whether it was written in brackets. -/
def memberKey (r : Rules) : Parser (Tree × Bool) := do
  match ← key r with
  | .node .computedKey [e] => return (e, true)
  | k => return (k, false)

/-- Does an index signature start here? -/
def atIndexSignature : Parser Bool := do
  let found ← peek do
    expect "["
    discard anyName
    if !(← isPunctuator ":") then failHere .expressionExpected
  return found.isSome

/-- The part of an index signature behind its words. -/
def indexSignature (r : Rules) (isReadonly isStatic : Bool) : Parser Tree := do
  expect "["
  let n ← anyName
  let type ← annotation r
  expect "]"
  let result ← annotation r
  return .node (.indexSignature isReadonly isStatic)
    [.group [.node (.bindingName n "") [type]], result]

/-- Is the current word, standing before a member's name, a word about the member? -/
def wordBeforeMember (w : String) : Parser Bool := do
  if ← isWord w then
    nextIs fun t _ => match t with
      | .word _ => true
      | .string _ _ => true
      | .number _ _ => true
      | .punctuator p => p == "[" || p == "\x7b" || p == "*" || p == "#"
      | _ => false
  else return false

def typeMember (r : Rules) : Parser Tree := do
  if ← isOneOf ["(", "<"] then
    let tps ← typeParameters? r
    let ps ← parameters r false
    let result ← annotatedResult r
    memberEnd
    return .node .callSignature [tps, .group ps, result]
  let isConstruct ← if ← isWord "new" then
      nextIs fun t _ => t == .punctuator "(" || t == .punctuator "<"
    else pure false
  if isConstruct then
    advance
    let tps ← typeParameters? r
    let ps ← parameters r false
    let result ← annotatedResult r
    memberEnd
    return .node .constructSignature [tps, .group ps, result]
  let isReadonly ← wordBeforeMember "readonly"
  if isReadonly then advance
  if ← atIndexSignature then
    let t ← indexSignature r isReadonly false
    memberEnd
    return t
  if ← wordBeforeMember "get" then
    advance
    let (k, computed) ← memberKey r
    discard (parameters r false)
    let result ← annotatedResult r
    memberEnd
    return .node (.getterSignature computed) [k, result]
  if ← wordBeforeMember "set" then
    advance
    let (k, computed) ← memberKey r
    let ps ← parameters r false
    discard (annotatedResult r)
    memberEnd
    return .node (.setterSignature computed) [k, ps.headD Tree.absent]
  let (k, computed) ← memberKey r
  let mark ← eat "?"
  if ← isOneOf ["(", "<"] then
    let tps ← typeParameters? r
    let ps ← parameters r false
    let result ← annotatedResult r
    memberEnd
    return .node (.methodSignature mark computed) [k, tps, .group ps, result]
  let type ← annotation r
  memberEnd
  return .node (.propertySignature isReadonly mark computed) [k, type]

/-- Members between braces. -/
def typeMembers (r : Rules) : Parser (List Tree) := do
  expect "\x7b"
  untilEnd r.budget (eat "\x7d") (typeMember r)

/-! ## Mapped types -/

/-- A word with an optional sign before it. -/
def mappedModifier (w : Option String) (p : Option String) : Parser MappedModifier := do
  let here : Parser Bool := match w, p with
    | some w, _ => eatWord w
    | none, some p => eat p
    | none, none => pure false
  if ← eat "+" then
    discard here
    return .plus
  else if ← eat "-" then
    discard here
    return .minus
  else if ← here then return .set
  else return .leave

def atMappedType : Parser Bool := do
  let found ← peek do
    expect "\x7b"
    discard (mappedModifier (some "readonly") none)
    expect "["
    discard anyName
    expectWord "in"
  return found.isSome

def mappedType (r : Rules) : Parser Tree := do
  expect "\x7b"
  let isReadonly ← mappedModifier (some "readonly") none
  expect "["
  let n ← anyName
  expectWord "in"
  let source ← r.type
  let nameType ← if ← eatWord "as" then r.type else pure Tree.absent
  expect "]"
  let mark ← mappedModifier none (some "?")
  let type ← annotation r
  unless ← eat "," do discard eatStatementEnd
  expect "\x7d"
  return .node (.mappedType isReadonly mark)
    [.node (.mappedParameter n) [source], nameType, type]

/-! ## Simple types -/

def tupleElement (r : Rules) : Parser Tree := do
  let labelled ← peek do
    discard (eat "...")
    discard anyName
    discard (eat "?")
    expect ":"
  let rest ← eat "..."
  if labelled.isSome then
    let l ← anyName
    let mark ← eat "?"
    expect ":"
    let type ← r.type
    return .node (.tupleElement (some l) rest mark) [type]
  let type ← r.type
  if rest then return .node .restType [type]
  if ← eat "?" then return .node .optionalType [type]
  return type

/-- The chunks and holes of a template behind its opening mark; `hole` reads what stands in
one. -/
def templateParts (r : Rules) (hole : Parser Tree) : Nat → Parser (List String × List Tree)
  | 0 => failHere .tooDeep
  | n + 1 => do
      let s ← get
      let (length, finish) := scanChunk s.cursor.rest
      let behind := s.cursor.drop length
      let chunk := String.ofList (plainLineEnds (s.cursor.textTo behind).toList)
      match finish with
      | .missing =>
          let start := s.start.offset
          modify fun s => { s with lastEnd := behind.offset, lastStart := s.cursor.offset }
          load behind
          throw ⟨start, .unterminatedTemplate⟩
      | .closing =>
          let done := behind.drop 1
          modify fun s => { s with lastStart := behind.offset, lastEnd := done.offset }
          load done
          return ([chunk], [])
      | .hole =>
          let inside := behind.drop 2
          modify fun s => { s with lastStart := behind.offset, lastEnd := inside.offset }
          load inside
          let e ← hole
          unless ← isPunctuator "\x7d" do failHere (.expected "\x7d" (← current).shown)
          let (chunks, es) ← templateParts r hole n
          return (chunk :: chunks, e :: es)

/-- Does a function type start here?  A parenthesis does when parameters and an arrow follow. -/
def atFunctionType (r : Rules) : Parser Bool := do
  if ← isPunctuator "<" then return true
  if ← isPunctuator "(" then
    let found ← peek do
      discard (parameters r false)
      expect "=>"
    return found.isSome
  else return false

def functionType (r : Rules) : Parser Tree := do
  let tps ← typeParameters? r
  let ps ← parameters r false
  expect "=>"
  let result ← resultType r
  return .node .functionType [tps, .group ps, result]

def importType (r : Rules) : Parser Tree := do
  expectWord "import"
  expect "("
  let source ← r.type
  expect ")"
  let qualifier ← if ← eat "." then entityName r else pure Tree.absent
  let arguments ← typeArguments? r
  return .node .importType [source, qualifier, arguments]

/-- A type without operators. -/
def simpleType (r : Rules) : Parser Tree := do
  match ← require with
  | .word w =>
      if w == "import" then importType r
      else if w == "typeof" then
        advance
        let subject ← if ← isWord "import" then importType r else entityName r
        let arguments ← typeArguments? r
        return .node .typeQuery [subject, arguments]
      else if w == "this" then
        advance
        if (← isWord "is") && !(← afterNewline) then
          advance
          return .node (.typePredicate false) [.leaf .this, ← r.type]
        return .leaf (.keywordType "this")
      else if w == "true" || w == "false" then
        advance
        return .node .literalType [.leaf (.boolean (w == "true"))]
      else if keywordTypes.contains w && !(← nextIsPunctuator ".") then
        advance
        return .leaf (.keywordType w)
      else if Token.reservedWords.contains w && !(["void", "null", "break"].contains w) then
        unexpected simpleTypeWanted
      else
        let n ← entityName r
        let arguments ← typeArguments? r
        return .node .typeReference [n, arguments]
  | .string value raw =>
      advance
      return .node .literalType [.leaf (.string value (some raw))]
  | .number value raw =>
      advance
      return .node .literalType [.leaf (.number value (some raw))]
  | .bigint raw =>
      advance
      return .node .literalType [.leaf (.bigint raw)]
  | .punctuator p =>
      if p == "-" then
        advance
        match stringOrNumber? (← require) with
        | some t =>
            advance
            return .node .literalType [.node (.unary "-") [t]]
        | none => unexpected "numeric literal or bigint literal"
      else if p == "`" then
        let (chunks, types) ← templateParts r r.type r.budget
        return .node .literalType [.node (.template chunks) types]
      else if p == "[" then
        advance
        let es ← untilEnd r.budget (eat "]") do
          let e ← tupleElement r
          unless ← isPunctuator "]" do expect ","
          return e
        return .node .tupleType es
      else if p == "\x7b" then
        if ← atMappedType then mappedType r
        else return .node .typeLiteral (← typeMembers r)
      else if p == "(" then
        advance
        let t ← withContext (fun c => { c with noConditionalType := false }) r.type
        expect ")"
        return .node .parenType [t]
      else unexpected simpleTypeWanted
  | _ => unexpected simpleTypeWanted

/-- A simple type with the brackets behind it. -/
def postfixType (r : Rules) : Parser Tree := do
  let first ← simpleType r
  whileSome r.budget (fun (t : Tree) => do
    if (← isPunctuator "[") && !(← afterNewline) then
      advance
      if ← eat "]" then return some (.node .arrayType [t])
      else
        let key ← withContext (fun c => { c with noConditionalType := false }) r.type
        expect "]"
        return some (.node .indexedAccess [t, key])
    else return none) first

/-- A type behind its prefix operators. -/
def operandType (r : Rules) : Parser Tree := do
  match ← current with
  | .word w =>
      let operand ← nextIs fun t _ => match t with
        | .word v => v != "extends" && v != "is"
        | .punctuator p => p == "\x7b" || p == "[" || p == "(" || p == "`"
        | .string _ _ => true
        | _ => false
      if ["keyof", "unique", "readonly"].contains w && operand then
        advance
        return .node (.typeOperator w) [← r.read .operandType]
      else if w == "infer" && operand then
        advance
        let n ← name
        let bound ← do
          let found ← attempt do
            expectWord "extends"
            let t ← withContext (fun c => { c with noConditionalType := true }) r.type
            if !(← context).noConditionalType && (← isPunctuator "?") then
              failHere .expressionExpected
            return t
          pure (found.getD Tree.absent)
        return .node .inferType [.node (.typeParameter n []) [bound, Tree.absent]]
      else postfixType r
  | _ => postfixType r

/-- Operands joined by an operator, which may also stand before the first. -/
def joinedTypes (r : Rules) (operator : String) (kind : Kind) (operand : Parser Tree) :
    Parser Tree := do
  discard (eat operator)
  let first ← operand
  if ← isPunctuator operator then
    let rest ← untilEnd r.budget (do return !(← isPunctuator operator)) do
      expect operator
      operand
    return .node kind (first :: rest)
  else return first

/-- A type that is no conditional type. -/
def plainType (r : Rules) : Parser Tree := do
  if ← atFunctionType r then functionType r
  else
    let isAbstract ← if ← isWord "abstract" then nextIs fun t _ => t == .word "new" else pure false
    if isAbstract || (← isWord "new") then
      if isAbstract then advance
      advance
      let tps ← typeParameters? r
      let ps ← parameters r false
      expect "=>"
      let result ← resultType r
      return .node (.constructorType isAbstract) [tps, .group ps, result]
    else joinedTypes r "|" .unionType (joinedTypes r "&" .intersectionType (operandType r))

/-- Any type. -/
def type (r : Rules) : Parser Tree := do
  let checked ← plainType r
  if (← context).noConditionalType || (← afterNewline) || !(← isWord "extends") then
    return checked
  else
    advance
    let bound ← withContext (fun c => { c with noConditionalType := true }) (plainType r)
    expect "?"
    let yes ← withContext (fun c => { c with noConditionalType := false }) r.type
    expect ":"
    let no ← withContext (fun c => { c with noConditionalType := false }) r.type
    return .node .conditionalType [checked, bound, yes, no]

end LiveMarkup.Syntax.Grammar
