import JsxLowering.CommandLine.Arguments

set_option autoImplicit false

/-!
What a run of the command does, as data: the messages it gives, what it writes where, and
the status it ends with. Code is only ever written when there were no errors. A notice is
written as code is, to the standard output.
-/

namespace JsxLowering.CommandLine

/-- Why a file cannot be read or written. Causes of no interest here are in the system's words. -/
inductive FileError where
  | notFound
  | notDirectory
  | isDirectory
  | nameTooLong
  | notText
  | other (cause : String)
  deriving DecidableEq

def FileError.message : FileError → String
  | notFound => "Os \x7b code: 2, kind: NotFound, message: \"No such file or directory\" \x7d"
  | notDirectory => "Os \x7b code: 20, kind: NotADirectory, message: \"Not a directory\" \x7d"
  | isDirectory => "Os \x7b code: 21, kind: IsADirectory, message: \"Is a directory\" \x7d"
  | nameTooLong => "Os \x7b code: 36, kind: InvalidFilename, message: \"File name too long\" \x7d"
  | notText =>
      "Error \x7b kind: InvalidData, message: \"stream did not contain valid UTF-8\" \x7d"
  | other cause => cause

inductive Message where
  | logged (event : Event)
  | report (content : String)
  | errorCount (count : Nat)
  | failure (cause : String)
  | usage (cause : UsageError)
  deriving DecidableEq

namespace Message

def text : Message → String
  | logged event => "[" ++ event.level.title ++ "] " ++ event.message
  | report content => content
  | errorCount count => "exiting due to " ++ toString count ++ " errors"
  | failure cause => "Error: " ++ cause
  | usage cause => "error: " ++ cause.message

end Message

inductive Destination where
  | standardOutput
  | file (name : String)
  deriving DecidableEq

structure Session where
  messages : List Message
  delivery : Option (Destination × String)
  status : UInt32

namespace Session

def halted (notices : Notice → String) : Halt → Session
  | .misuse cause => ⟨[.usage cause], none, 2⟩
  | .notice notice => ⟨[], some (.standardOutput, notices notice), 0⟩

def failed (messages : List Message) (cause : String) : Session :=
  ⟨messages ++ [.failure cause], none, 1⟩

/-- The run when its code could not be written. -/
def undelivered (session : Session) (cause : FileError) : Session :=
  failed session.messages cause.message

end Session

namespace Invocation

def shown (invocation : Invocation) (events : List Event) : List Message :=
  (events.filter invocation.shows).map .logged

def destination (invocation : Invocation) : Destination :=
  match invocation.settings.output with
  | some name => .file name
  | none => .standardOutput

/-- The messages before anything is compiled. -/
def opening (invocation : Invocation) : List Message :=
  invocation.shown (invocation.settings.entry.map Event.fileRead).toList

def conclude (invocation : Invocation) (result : Compilation) : Session :=
  let messages := invocation.opening ++ invocation.shown result.log ++
    result.warnings.map .report ++ result.errors.map .report
  if result.errors.isEmpty then ⟨messages, some (invocation.destination, result.code), 0⟩
  else ⟨messages ++ [.errorCount result.errors.length], none, 1⟩

/-- The run on a source, if it could be read. -/
def run (tools : Toolchain) (invocation : Invocation) (source : Except FileError String) :
    Session :=
  match source with
  | .error cause => .failed invocation.opening cause.message
  | .ok text =>
      match tools.compile invocation.settings text with
      | .error fatal => .failed invocation.opening (Text.quoted fatal.message)
      | .ok result => invocation.conclude result

end Invocation

/-- The notices without the list of arguments. -/
def Notice.brief : Notice → String
  | help | manual =>
      "CLI for the JSX transpiler\n\nUsage: jsx-transpiler [OPTIONS] [ENTRY_POINT]\n"
  | version => "jsx-transpiler-cli 0.0.0\n"

/-- What the command is made of: the phases of a compilation, and the texts of the notices. -/
structure Equipment extends Toolchain where
  notice : Notice → String

def Equipment.standard : Equipment := ⟨.standard, Notice.brief⟩

end JsxLowering.CommandLine
