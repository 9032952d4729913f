import JsxLowering.CommandLine.Session

set_option autoImplicit false

/-!
The command: the outer layer that reads, writes and ends with a status. All decisions
are made by `Invocation.parse` and `Invocation.run`.
-/

namespace JsxLowering.CommandLine

def FileError.ofSystem : IO.Error → FileError
  | .noFileOrDirectory .. => .notFound
  | .inappropriateType _ 21 _ => .isDirectory
  | .inappropriateType .. => .notDirectory
  | cause => .other (toString cause)

partial def readAll (stream : IO.FS.Stream) (read : ByteArray) : IO ByteArray := do
  let more ← stream.read 65536
  if more.isEmpty then return read
  readAll stream (read ++ more)

def readSource (invocation : Invocation) : IO ByteArray :=
  match invocation.settings.entry with
  | some name => IO.FS.readBinFile name
  | none => do readAll (← IO.getStdin) .empty

def loadSource (invocation : Invocation) : IO (Except FileError String) := do
  try
    match String.fromUTF8? (← readSource invocation) with
    | some text => return .ok text
    | none => return .error .notText
  catch cause => return .error (.ofSystem cause)

def writeCode : Destination → String → IO Unit
  | .standardOutput, code => do (← IO.getStdout).putStr code
  | .file name, code => IO.FS.writeFile name code

def tell (messages : List Message) : IO Unit :=
  messages.forM fun message => do
    match message with
    | .errorCount _ => IO.eprintln ""
    | _ => pure ()
    IO.eprintln message.text

def Session.carryOut (session : Session) : IO UInt32 := do
  tell session.messages
  match session.delivery with
  | none => return session.status
  | some (destination, code) =>
      try
        writeCode destination code
        return session.status
      catch cause =>
        let failed := session.undelivered (.ofSystem cause)
        tell (failed.messages.drop session.messages.length)
        return failed.status

end JsxLowering.CommandLine

open JsxLowering CommandLine

def main (words : List String) : IO UInt32 := do
  match Invocation.parse words with
  | .error halt => (Session.halted Equipment.standard.notice halt).carryOut
  | .ok invocation => (invocation.run .standard (← loadSource invocation)).carryOut
