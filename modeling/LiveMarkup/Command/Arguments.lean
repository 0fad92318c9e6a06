import LiveMarkup.Path.Basic
/-
# LiveMarkup.Command.Arguments -- the arguments of the command line

A request is a word with its values: `scan`, `props`, `set` or `watch`.  The options
`--root` and `--config` may stand anywhere around it, the one behind the request's word
counting more.  An option's value follows it, after an equals sign or as the next
argument; after `--` everything is a value of the request.  An option given twice on
one side, or anything that has no place, is a usage error.
-/

namespace LiveMarkup.Command

set_option autoImplicit false

/-- What is asked for. -/
inductive Request where
  | scan (print : Bool)
  | properties (uid : String)
  | set (uid name value : String)
  | watch
  deriving DecidableEq, Repr

/-- The words of requests. -/
inductive Word where
  | scan
  | props
  | set
  | watch
  deriving DecidableEq, Repr

namespace Word

def ofText? : String → Option Word
  | "scan" => some scan
  | "props" => some props
  | "set" => some set
  | "watch" => some watch
  | _ => none

/-- How many values a request has. -/
def valueCount : Word → Nat
  | scan | watch => 0
  | props => 1
  | set => 3

end Word

/-- Options on one side of the request's word. -/
structure Options where
  root : Option String := none
  config : Option String := none
  print : Bool := false
  deriving DecidableEq, Repr

structure Invocation where
  root : Path
  config : Option Path
  request : Request
  deriving Repr

/-- What a command line asks for. -/
inductive Parsed where
  | run (invocation : Invocation)
  /-- Help, or the version. -/
  | help
  | usageError
  deriving Repr

/-- An option as it was recognised. -/
inductive OptionName where
  | root
  | config
  | print
  | help
  deriving DecidableEq, Repr

/-- An argument that is not a plain value: an option, and its value when it is attached. -/
inductive Mark where
  | value
  | escape
  | option (name : OptionName) (attached : Option String)
  | unknown
  deriving DecidableEq, Repr

/-- Cut at the first equals sign. -/
def cutAtEquals (cs : List Char) : List Char × Option (List Char) :=
  let name := cs.takeWhile (· != '=')
  match cs.drop name.length with
  | [] => (name, none)
  | _ :: value => (name, some value)

/-- The value attached to a short option. -/
def shortValue : List Char → Option String
  | [] => none
  | '=' :: value => some (String.ofList value)
  | value => some (String.ofList value)

/-- What an argument is; the option to print belongs to `scan` alone, that for the version
stands before the request's word. -/
def markOf (word : Option Word) (argument : String) : Mark :=
  match argument.toList with
  | ['-', '-'] => .escape
  | '-' :: '-' :: long =>
      let (name, value) := cutAtEquals long
      let attached := value.map String.ofList
      if name = "root".toList then .option .root attached
      else if name = "config".toList then .option .config attached
      else if name = "print".toList && word == some .scan then .option .print attached
      else if name = "help".toList then .option .help attached
      else if name = "version".toList && word.isNone then .option .help attached
      else .unknown
  | ['-'] => .value
  | '-' :: 'r' :: rest => .option .root (shortValue rest)
  | '-' :: 'c' :: rest => .option .config (shortValue rest)
  | ['-', 'h'] => .option .help none
  | ['-', 'V'] => if word.isNone then .option .help none else .unknown
  | '-' :: _ => .unknown
  | _ => .value

/-- The reading of arguments so far. -/
structure Reading where
  word : Option Word := none
  outer : Options := {}
  inner : Options := {}
  values : List String := []

namespace Reading

def options (r : Reading) : Options := if r.word.isSome then r.inner else r.outer

def withOptions (r : Reading) (o : Options) : Reading :=
  if r.word.isSome then { r with inner := o } else { r with outer := o }

/-- Give an option its value, once and not an empty one. -/
def setValue? (r : Reading) (name : OptionName) (value : String) : Option Reading :=
  if value.isEmpty then none
  else match name with
    | .root => if r.options.root.isSome then none else some (r.withOptions { r.options with root := some value })
    | .config =>
        if r.options.config.isSome then none
        else some (r.withOptions { r.options with config := some value })
    | _ => none

/-- Take a value of the request; there is no room for more than it has. -/
def addValue? (r : Reading) (value : String) : Option Reading :=
  match r.word with
  | none => none
  | some w => if r.values.length < w.valueCount then some { r with values := r.values ++ [value] } else none

/-- The invocation that was read, when nothing is missing. -/
def finish (r : Reading) : Parsed :=
  let request? : Option Request :=
    match r.word, r.values with
    | some .scan, [] => some (.scan r.inner.print)
    | some .props, [uid] => some (.properties uid)
    | some .set, [uid, name, value] => some (.set uid name value)
    | some .watch, [] => some .watch
    | _, _ => none
  match request? with
  | none => .usageError
  | some request =>
      .run ⟨⟨(r.inner.root.or r.outer.root).getD "."⟩, (r.inner.config.or r.outer.config).map (⟨·⟩), request⟩

end Reading

/-- Read values behind `--`. -/
def readValues : List String → Reading → Parsed
  | [], r => r.finish
  | a :: rest, r =>
      match r.addValue? a with
      | some r => readValues rest r
      | none => .usageError

/-- Read arguments one after the other. -/
def read : List String → Reading → Parsed
  | [], r => r.finish
  | a :: rest, r =>
      match markOf r.word a with
      | .unknown => .usageError
      | .escape => readValues rest r
      | .value =>
          if r.word.isSome then
            match r.addValue? a with
            | some r => read rest r
            | none => .usageError
          else if a = "help" then .help
          else match Word.ofText? a with
            | some w => read rest { r with word := some w }
            | none => .usageError
      | .option .help none => .help
      | .option .help (some _) => .usageError
      | .option .print none =>
          if r.inner.print then .usageError
          else read rest { r with inner := { r.inner with print := true } }
      | .option .print (some _) => .usageError
      | .option name (some value) =>
          match r.setValue? name value with
          | some r => read rest r
          | none => .usageError
      | .option name none =>
          match rest with
          | [] => .usageError
          | value :: rest =>
              if markOf r.word value = .value then
                match r.setValue? name value with
                | some r => read rest r
                | none => .usageError
              else .usageError

/-- Read a command line. -/
def parse (arguments : List String) : Parsed := read arguments {}

end LiveMarkup.Command
