import LiveMarkup.Number.Double
/-
# LiveMarkup.Syntax.Tree -- syntax trees of scripts with markup

A tree is a node of some `Kind` over its parts, or a markup element.  The kind holds
everything about a node that is not itself a tree: names, operators, modifiers, the
raw text of literals.  Parts that may be missing stand as `Tree.absent`, and lists of
parts inside a node as `Tree.group`, so each kind has a fixed shape.  Parts are kept
in the order in which a traversal visits them; for a class this puts the body before
the superclass, and for `do … while` the test before the body.

Elements alone have a structure of their own (`Element`), because they are what this
library reads and edits: a tag, attributes in order, and children in order.

Every literal that was read from text keeps its raw text, parentheses are nodes, and
comments are not kept.
-/

namespace LiveMarkup.Syntax

set_option autoImplicit false

/-- The first and the last line of something in its text. -/
structure LineRange where
  first : Nat
  last : Nat
  deriving DecidableEq, Repr

/-- Whether a member is a plain method or an accessor. -/
inductive MethodKind where
  | method | getter | setter
  deriving DecidableEq, Repr

/-- The words that may stand before a class member, and the mark after its name. -/
structure Modifiers where
  accessibility : Option String := none
  declared : Bool := false
  isStatic : Bool := false
  isAbstract : Bool := false
  overriding : Bool := false
  isReadonly : Bool := false
  optional : Bool := false
  definite : Bool := false
  deriving DecidableEq, Repr

/-- How a mapped type adds or removes a modifier. -/
inductive MappedModifier where
  | leave | set | plus | minus
  deriving DecidableEq, Repr

/-- The kinds of nodes, each with the parts it stands over. -/
inductive Kind where
  /-- A part left out. -/
  | absent
  /-- A list of parts. -/
  | group
  -- Names and literals, without parts unless said otherwise.
  | identifier (name : String)
  | privateName (name : String)
  | this
  | super
  | null
  | boolean (value : Bool)
  | number (value : Double) (raw : Option String)
  | bigint (raw : String)
  | string (value : String) (raw : Option String)
  | regex (raw : String)
  /-- The chunks around the expressions that are the parts. -/
  | template (chunks : List String)
  /-- Tag, type arguments, template. -/
  | taggedTemplate
  -- Expressions.
  /-- Elements; a hole is absent. -/
  | array
  | object
  /-- Key and value. -/
  | keyValue
  | shorthand (name : String)
  /-- Name and default, in a pattern or where an object stands for one. -/
  | shorthandDefault (name : String)
  /-- Key and function. -/
  | objectMethod (kind : MethodKind)
  | computedKey
  | spread
  /-- Parameters, decorators, body, type parameters, return type. -/
  | function (async generator : Bool)
  | functionExpression (name : Option String)
  /-- Parameters, body, type parameters, return type. -/
  | arrow (async : Bool)
  /-- Decorators, members, superclass, type parameters, superclass arguments, interfaces. -/
  | classBody (isAbstract : Bool)
  | classExpression (name : Option String)
  | unary (operator : String)
  | update (operator : String) (before : Bool)
  | binary (operator : String)
  /-- Target and value. -/
  | assign (operator : String)
  | conditional
  | sequence
  | paren
  | yield (delegate : Bool)
  | await
  | member (name : String) (optional : Bool)
  | privateMember (name : String) (optional : Bool)
  /-- Object and key. -/
  | index (optional : Bool)
  /-- Callee, arguments, type arguments. -/
  | call (optional : Bool)
  /-- Callee, arguments, type arguments. -/
  | new
  | metaProperty (text : String)
  | importCallee
  /-- Expression and type. -/
  | asType
  | satisfies
  | asConst
  | nonNull
  /-- Expression and type, written the other way round. -/
  | assertion
  /-- Expression and type arguments. -/
  | instantiation
  /-- What stands where an expression was missing. -/
  | invalid
  -- Markup other than elements.
  | fragment
  | markupText (value raw : String)
  | container
  | emptyContainer
  | spreadChild
  -- Patterns.
  /-- Type annotation; the mark after the name is empty, `?` or `!`. -/
  | bindingName (name mark : String)
  /-- Elements and type annotation. -/
  | arrayPattern (optional : Bool)
  /-- Properties and type annotation. -/
  | objectPattern (optional : Bool)
  /-- Pattern and type annotation. -/
  | restPattern
  /-- Pattern and default. -/
  | defaultPattern
  /-- Decorators and pattern. -/
  | parameter
  | parameterProperty (modifiers : Modifiers)
  | decorator
  -- Statements.
  | block
  | emptyStatement
  | debugger
  | withStatement
  | returnStatement
  | labeled (label : String)
  | breakStatement (label : Option String)
  | continueStatement (label : Option String)
  | ifStatement
  /-- Subject and cases. -/
  | switchStatement
  /-- Test and statements. -/
  | switchCase
  | throwStatement
  /-- Block, handler, finalizer. -/
  | tryStatement
  /-- Parameter and block. -/
  | catchClause
  | whileStatement
  /-- Test, then body. -/
  | doWhile
  /-- Start, test, step, body. -/
  | forStatement
  | forIn
  | forOf (async : Bool)
  | variableDeclaration (keyword : String) (declared : Bool)
  | declarator
  | variableStatement
  | expressionStatement
  | functionDeclaration (name : String) (declared : Bool)
  | classDeclaration (name : String) (declared : Bool)
  -- Class members.
  /-- Key, parameters, body. -/
  | constructorMember (modifiers : Modifiers)
  /-- Key and function. -/
  | methodMember (kind : MethodKind) (modifiers : Modifiers)
  /-- Key, value, type annotation, decorators. -/
  | propertyMember (modifiers : Modifiers)
  | accessorMember (modifiers : Modifiers)
  | staticBlock
  | emptyMember
  -- Modules.
  /-- Specifiers, source and what is said of it. -/
  | importDeclaration (typeOnly : Bool)
  | importDefault (name : String)
  | importNamespace (name : String)
  /-- The imported name when it is another one. -/
  | importNamed (name : String) (typeOnly : Bool)
  | exportDeclaration
  /-- Specifiers, source and what is said of it. -/
  | exportNamed (typeOnly trailingComma : Bool)
  /-- Name of the whole module. -/
  | exportNamespace
  /-- The name here and the exported name when it is another one. -/
  | exportSpecifier (typeOnly : Bool)
  | exportDefaultDeclaration
  | exportDefaultExpression
  /-- Source and what is said of it. -/
  | exportAll (typeOnly : Bool)
  | importEquals (name : String) (exported typeOnly : Bool)
  | externalModule
  | exportAssignment
  | exportAsNamespace (name : String)
  -- Declarations of types.
  /-- Type parameters, extended types, members. -/
  | interface (name : String) (declared : Bool)
  /-- Type parameters and type. -/
  | typeAlias (name : String) (declared : Bool)
  | enumeration (name : String) (constant declared : Bool)
  | enumMember
  /-- Name and body. -/
  | moduleDeclaration (keyword : String) (declared : Bool)
  -- Types.
  | keywordType (word : String)
  /-- Name and type arguments. -/
  | typeReference
  | qualifiedName (name : String)
  | typeQuery
  /-- Source, qualifier, type arguments. -/
  | importType
  | arrayType
  | tupleType
  /-- Label, when there is one, and type. -/
  | tupleElement (label : Option String) (rest optional : Bool)
  | optionalType
  | restType
  | unionType
  | intersectionType
  | conditionalType
  | inferType
  | parenType
  | typeOperator (word : String)
  | indexedAccess
  /-- Parameter, name type, value type. -/
  | mappedType (isReadonly optional : MappedModifier)
  | mappedParameter (name : String)
  | literalType
  /-- Type parameters, parameters, result. -/
  | functionType
  | constructorType (isAbstract : Bool)
  /-- Parameter name and type. -/
  | typePredicate (asserts : Bool)
  | typeLiteral
  | propertySignature (isReadonly optional computed : Bool)
  /-- Key, type parameters, parameters, type. -/
  | methodSignature (optional computed : Bool)
  | getterSignature (computed : Bool)
  | setterSignature (computed : Bool)
  | callSignature
  | constructSignature
  | indexSignature (isReadonly isStatic : Bool)
  | typeParameters
  /-- Constraint and default. -/
  | typeParameter (name : String) (words : List String)
  | typeArguments
  /-- Expression and type arguments. -/
  | heritage
  deriving Repr

/-- The name of a tag. -/
inductive TagName where
  | plain (name : String)
  | member (object : TagName) (property : String)
  | namespaced (space name : String)
  deriving DecidableEq, Repr

/-- The name of an attribute. -/
inductive AttributeName where
  | plain (name : String)
  | namespaced (space name : String)
  deriving DecidableEq, Repr

/-- An attribute with an optional value, or spread properties. -/
inductive Attribute (α : Type) where
  | named (name : AttributeName) (value : Option α)
  | spread (value : α)
  deriving Repr

/-- A markup element over trees `α`. -/
structure Element (α : Type) where
  name : TagName
  attributes : List (Attribute α)
  typeArguments : Option α
  selfClosing : Bool
  children : List α
  closing : Option TagName
  lines : Option LineRange
  deriving Repr

/-- Syntax trees. -/
inductive Tree where
  | node (kind : Kind) (parts : List Tree)
  | element (element : Element Tree)
  deriving Repr

instance : Inhabited Tree := ⟨.node .absent []⟩

namespace Tree

def absent : Tree := .node .absent []

def group (parts : List Tree) : Tree := .node .group parts

def leaf (kind : Kind) : Tree := .node kind []

def ofOption : Option Tree → Tree
  | some t => t
  | none => absent

def isAbsent : Tree → Bool
  | .node .absent _ => true
  | _ => false

def toOption (t : Tree) : Option Tree := if t.isAbsent then none else some t

/-- The parts of a node; an element has none in this sense. -/
def parts : Tree → List Tree
  | .node _ ps => ps
  | .element _ => []

end Tree

namespace TagName

/-- The name as it is written. -/
def text : TagName → String
  | plain name => name
  | member object property => object.text ++ "." ++ property
  | namespaced space name => space ++ ":" ++ name

end TagName

namespace AttributeName

/-- The name as it is written. -/
def text : AttributeName → String
  | plain name => name
  | namespaced space name => space ++ ":" ++ name

end AttributeName

/-- A parsed module: its first line when that names an interpreter, its items, and the
lines from its first token to its last. -/
structure Module where
  interpreter : Option String
  items : List Tree
  lines : Option LineRange
  deriving Repr

end LiveMarkup.Syntax
