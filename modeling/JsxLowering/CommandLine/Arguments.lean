import JsxLowering.Compile

set_option autoImplicit false

/-!
The arguments of the command line. Words are read from left to right. A value in a word
of its own is judged when the next argument comes; until then it waits, and a word that
no argument knows is reported before it. An argument that asks for a notice ends the
reading: nothing after it is looked at, right or wrong.
-/

namespace JsxLowering.CommandLine

/-- An argument without a value that is given at most once. -/
inductive Switch where
  | warningsAsErrors
  | minify
  | sourceMap
  | typed
  deriving DecidableEq

/-- An argument without a value that adds up. -/
inductive Counter where
  | verbose
  | quiet
  deriving DecidableEq

inductive Notice where
  | help
  | manual
  | version
  deriving DecidableEq

inductive Parameter where
  | output
  | mode
  | tagCall
  | dom
  | components
  deriving DecidableEq

inductive Argument where
  | switch (switch : Switch)
  | counter (counter : Counter)
  | notice (notice : Notice)
  | parameter (parameter : Parameter)
  deriving DecidableEq

namespace Argument

def ofLetter? : Char → Option Argument
  | 'o' => some (parameter .output)
  | 'W' => some (switch .warningsAsErrors)
  | 'M' => some (switch .minify)
  | 'm' => some (switch .sourceMap)
  | 'T' => some (switch .typed)
  | 'v' => some (counter .verbose)
  | 'q' => some (counter .quiet)
  | 'h' => some (notice .help)
  | 'V' => some (notice .version)
  | _ => none

def ofName? (name : String) : Option Argument :=
  if name = "output" then some (parameter .output)
  else if name = "minify" then some (switch .minify)
  else if name = "map" then some (switch .sourceMap)
  else if name = "typescript" then some (switch .typed)
  else if name = "mode" then some (parameter .mode)
  else if name = "tag-call" then some (parameter .tagCall)
  else if name = "dom" then some (parameter .dom)
  else if name = "components" then some (parameter .components)
  else if name = "verbose" then some (counter .verbose)
  else if name = "quiet" then some (counter .quiet)
  else if name = "help" then some (notice .manual)
  else if name = "version" then some (notice .version)
  else none

def title : Argument → String
  | switch .warningsAsErrors => "-W"
  | switch .minify => "--minify"
  | switch .sourceMap => "--map"
  | switch .typed => "--typescript"
  | counter .verbose => "--verbose..."
  | counter .quiet => "--quiet..."
  | notice .help | notice .manual => "--help"
  | notice .version => "--version"
  | parameter .output => "--output <OUTPUT>"
  | parameter .mode => "--mode <MODE>"
  | parameter .tagCall => "--tag-call <TAG_CALL>"
  | parameter .dom => "--dom <DOM>"
  | parameter .components => "--components <COMPONENTS>"

end Argument

inductive UsageError where
  | valueMissing (parameter : Parameter)
  | unknownMode (value : String)
  | invalidPath (parameter : Parameter) (value : String) (cause : PathError)
  | repeated (argument : Argument)
  | unexpected (word : String)
  | valueUnwanted (argument : Argument) (value : String)
  | quietAndVerbose
  deriving DecidableEq

namespace UsageError

def message : UsageError → String
  | valueMissing parameter =>
      "a value is required for '" ++ (Argument.parameter parameter).title ++
        "' but none was supplied"
  | unknownMode value =>
      "invalid value '" ++ value ++ "' for '" ++ (Argument.parameter .mode).title ++ "'"
  | invalidPath parameter value cause =>
      "invalid value '" ++ value ++ "' for '" ++ (Argument.parameter parameter).title ++ "': " ++
        cause.message
  | repeated argument => "the argument '" ++ argument.title ++ "' cannot be used multiple times"
  | unexpected word => "unexpected argument '" ++ word ++ "' found"
  | valueUnwanted argument value =>
      "unexpected value '" ++ value ++ "' for '" ++ argument.title ++
        "' found; no more were expected"
  | quietAndVerbose =>
      "the argument '" ++ (Argument.counter .quiet).title ++ "' cannot be used with '" ++
        (Argument.counter .verbose).title ++ "'"

end UsageError

/-- Why a command line is not read to its end. -/
inductive Halt where
  | misuse (cause : UsageError)
  | notice (notice : Notice)
  deriving DecidableEq

structure Invocation where
  settings : Settings
  verbose : Nat
  quiet : Nat

namespace Invocation

def standard : Invocation := ⟨.standard, 0, 0⟩

/-- Whether an event is shown. Without a word on it only errors are. -/
def shows (invocation : Invocation) (event : Event) : Bool :=
  event.level.rank + invocation.quiet ≤ 1 + invocation.verbose

end Invocation

/-- A parameter whose value is not judged yet, or has not come. -/
structure Pending where
  parameter : Parameter
  value : Option String

/-- How far a command line has been read. After two dashes every word is a file name. -/
structure Reading where
  invocation : Invocation
  given : List Argument
  pending : Option Pending
  filesOnly : Bool

namespace Reading

def start : Reading := ⟨.standard, [], none, false⟩

def update (reading : Reading) (change : Settings → Settings) : Reading :=
  { reading with
    invocation := { reading.invocation with settings := change reading.invocation.settings } }

/-- Notes that an argument has been given, which may happen once. -/
def note (reading : Reading) (argument : Argument) : Except Halt Reading :=
  if reading.given.contains argument then .error (.misuse (.repeated argument))
  else .ok { reading with given := argument :: reading.given }

def path (parameter : Parameter) (value : String) : Except Halt DottedPath :=
  match DottedPath.parse value with
  | .ok path => .ok path
  | .error cause => .error (.misuse (.invalidPath parameter value cause))

/-- The mode that a value stands for. An empty value counts as none. -/
def mode (value : String) : Except Halt Mode :=
  match Mode.ofName? value with
  | some mode => .ok mode
  | none => .error (.misuse (if value.isEmpty then .valueMissing .mode else .unknownMode value))

def assign (reading : Reading) (parameter : Parameter) (value : String) :
    Except Halt Reading := do
  let reading ← reading.note (.parameter parameter)
  match parameter with
  | .output => return reading.update fun settings => { settings with output := some value }
  | .mode =>
      let mode ← mode value
      return reading.update fun settings =>
        { settings with lowering := { settings.lowering with mode } }
  | .tagCall =>
      let path ← path parameter value
      return reading.update fun settings =>
        { settings with lowering := { settings.lowering with tagCall := path } }
  | .dom =>
      let path ← path parameter value
      return reading.update fun settings =>
        { settings with lowering := { settings.lowering with dom := path } }
  | .components =>
      let path ← path parameter value
      return reading.update fun settings =>
        { settings with lowering := { settings.lowering with components := some path } }

def settle (reading : Reading) : Except Halt Reading :=
  match reading.pending with
  | none => .ok reading
  | some ⟨parameter, none⟩ => .error (.misuse (.valueMissing parameter))
  | some ⟨parameter, some value⟩ => { reading with pending := none }.assign parameter value

def turnOn (reading : Reading) (switch : Switch) : Except Halt Reading := do
  let reading ← reading.note (.switch switch)
  return reading.update fun settings =>
    match switch with
    | .warningsAsErrors => { settings with warningsAsErrors := true }
    | .minify => { settings with minify := true }
    | .sourceMap => { settings with sourceMap := true }
    | .typed => { settings with typed := true }

def count (reading : Reading) (counter : Counter) : Reading :=
  let invocation := reading.invocation
  { reading with
    invocation :=
      match counter with
      | .verbose => { invocation with verbose := invocation.verbose + 1 }
      | .quiet => { invocation with quiet := invocation.quiet + 1 } }

/-- Takes an argument, with the value in the same word if there is one. -/
def take (reading : Reading) (argument : Argument) (value : Option String) :
    Except Halt Reading :=
  match argument, value with
  | .parameter parameter, some value => do (← reading.settle).assign parameter value
  | .parameter parameter, none => do
      return { ← reading.settle with pending := some ⟨parameter, none⟩ }
  | argument, some value => .error (.misuse (.valueUnwanted argument value))
  | .switch switch, none => do (← reading.settle).turnOn switch
  | .counter counter, none => do return (← reading.settle).count counter
  | .notice notice, none => do let _ ← reading.settle; throw (.notice notice)

/-- Takes the letters after one dash. The letter of a parameter ends them: what follows it is
its value, with or without a sign of equality before it. -/
def takeLetters : List Char → Reading → Except Halt Reading
  | [], reading => .ok reading
  | letter :: rest, reading =>
      match Argument.ofLetter? letter with
      | none => .error (.misuse (.unexpected (String.ofList ['-', letter])))
      | some (.parameter parameter) =>
          match rest with
          | [] => reading.take (.parameter parameter) none
          | '=' :: value => reading.take (.parameter parameter) (some (String.ofList value))
          | value => reading.take (.parameter parameter) (some (String.ofList value))
      | some argument => do takeLetters rest (← reading.take argument none)

/-- Takes what follows two dashes: a name, and a value after a sign of equality. -/
def takeName (text : List Char) (reading : Reading) : Except Halt Reading :=
  let name := String.ofList (text.takeWhile (· != '='))
  match Argument.ofName? name, text.dropWhile (· != '=') with
  | none, _ => .error (.misuse (.unexpected ("--" ++ name)))
  | some argument, [] => reading.take argument none
  | some argument, _ :: value => reading.take argument (some (String.ofList value))

def takeFile (word : String) (reading : Reading) : Except Halt Reading := do
  if reading.invocation.settings.entry.isSome then throw (.misuse (.unexpected word))
  return (← reading.settle).update fun settings => { settings with entry := some word }

/-- Takes a word that starts with no dash: the value that is waited for, or a file name. -/
def takePlain (word : String) (reading : Reading) : Except Halt Reading :=
  match reading.pending with
  | some ⟨parameter, none⟩ => .ok { reading with pending := some ⟨parameter, some word⟩ }
  | _ => reading.takeFile word

def takeWord (reading : Reading) (word : String) : Except Halt Reading :=
  if reading.filesOnly then reading.takeFile word
  else
    match word.toList with
    | ['-', '-'] => .ok { reading with filesOnly := true }
    | '-' :: '-' :: text => reading.takeName text
    | ['-'] => reading.takePlain word
    | '-' :: letters => takeLetters letters reading
    | _ => reading.takePlain word

def finish (reading : Reading) : Except Halt Invocation := do
  let reading ← reading.settle
  if 0 < reading.invocation.quiet ∧ 0 < reading.invocation.verbose then
    throw (.misuse .quietAndVerbose)
  return reading.invocation

end Reading

def Invocation.parse (words : List String) : Except Halt Invocation := do
  (← words.foldlM Reading.takeWord .start).finish

end JsxLowering.CommandLine
