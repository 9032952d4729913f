import JsxLowering.CommandLine.Session

set_option autoImplicit false

/-!
A folder to run the command in, and the files and folders around it as far as they are
known. A place is named by the steps that lead to it from the root of all folders, latest
first, so that one step up is the tail. A folder is there if something is known to be in
it; a file can be written wherever its folder is there.
-/

namespace JsxLowering.CommandLine

abbrev Place := List String

/-- The files with their texts, the folder that the command is run in, and other folders that
are there. -/
structure Folder where
  files : List (Place × String)
  home : Place
  others : List Place

/-- A device that can be read or written like a file. -/
inductive Device where
  | null
  | standardInput
  | standardOutput
  | standardError
  deriving DecidableEq

inductive Occupant where
  | nothing
  | folder
  | file (text : String)
  | device (device : Device)
  deriving DecidableEq

def Device.at? : Place → Option Device
  | ["null", "dev"] => some null
  | ["stdin", "dev"] => some standardInput
  | ["stdout", "dev"] => some standardOutput
  | ["stderr", "dev"] => some standardError
  | _ => none

namespace Folder

def file? (folder : Folder) (place : Place) : Option String := folder.files.lookup place

def isFolder (folder : Folder) (place : Place) : Bool :=
  (folder.home :: folder.others).any place.isSuffixOf ||
    folder.files.any fun file => place.isSuffixOf file.1 && place != file.1

def occupant (folder : Folder) (place : Place) : Occupant :=
  match Device.at? place with
  | some device => .device device
  | none =>
      match folder.file? place with
      | some text => .file text
      | none => if folder.isFolder place then .folder else .nothing

/-- The most bytes that a step may have. -/
def longestStep : Nat := 255

/-- The most bytes that a path may have. -/
def longestPath : Nat := 4095

/-- Goes one step on from a place, which has to be a folder. -/
def step (folder : Folder) (place : Place) (name : String) : Except FileError Place :=
  match folder.occupant place with
  | .nothing => .error .notFound
  | .file _ => .error .notDirectory
  | .device _ => .error .notDirectory
  | .folder =>
      if name = "" || name = "." then .ok place
      else if name = ".." then .ok place.tail
      else if longestStep < name.utf8ByteSize then .error .nameTooLong
      else .ok (name :: place)

def pathNames (path : String) : List String :=
  (Text.pieces (· == '/') path.toList).map String.ofList

def resolve (folder : Folder) (path : String) : Except FileError Place :=
  if path.isEmpty then .error .notFound
  else if longestPath < path.utf8ByteSize then .error .nameTooLong
  else
    (pathNames path).foldlM folder.step
      (if path.toList.head? = some '/' then [] else folder.home)

/-- A path without the slashes at its end. -/
def withoutSlashes (path : String) : String :=
  let bare := String.ofList (path.toList.reverse.dropWhile (· == '/')).reverse
  if bare.isEmpty then path else bare

/-- The place that can be written under a path. A path with a slash at its end names a folder. -/
def target (folder : Folder) (path : String) : Except FileError Place := do
  let place ← folder.resolve (withoutSlashes path)
  if folder.occupant place = .folder || path.toList.getLast? = some '/' then
    .error .isDirectory
  else .ok place

/-- Puts a text at a place, where it hides an older one. -/
def put (folder : Folder) (text : String) (place : Place) : Folder :=
  { folder with files := (place, text) :: folder.files }

/-- The files in the folder that another state does not have with the same text, by their
names in it. -/
def changedSince (folder before : Folder) : List (String × String) :=
  (folder.files.filter fun file =>
      folder.home.isSuffixOf file.1 && before.file? file.1 != some file.2).map fun file =>
    ("/".intercalate (file.1.take (file.1.length - folder.home.length)).reverse, file.2)

/-- A folder with the given files and nothing around it but the folders that every system has. -/
def ofFiles (files : List (String × String)) : Folder :=
  let home := ["work", "tmp"]
  let place (path : String) : Place :=
    ((pathNames path).filter fun name => name ≠ "" && name ≠ ".").reverse ++ home
  ⟨files.map fun file => (place file.1, file.2), home, [["dev"]]⟩

end Folder

structure World where
  folder : Folder
  standardInput : ByteArray

structure Aftermath where
  status : UInt32
  standardOutput : String
  messages : List Message
  folder : Folder

namespace World

def inputText (world : World) : Except FileError String :=
  match String.fromUTF8? world.standardInput with
  | some text => .ok text
  | none => .error .notText

def read (world : World) (path : String) : Except FileError String := do
  match world.folder.occupant (← world.folder.resolve path) with
  | .nothing => .error .notFound
  | .folder => .error .isDirectory
  | .file text => .ok text
  | .device .standardInput => world.inputText
  | .device _ => .ok ""

def source (world : World) (invocation : Invocation) : Except FileError String :=
  match invocation.settings.entry with
  | some path => world.read path
  | none => world.inputText

def display (world : World) (session : Session) (text : String) : Device → Aftermath
  | .standardOutput => ⟨session.status, text, session.messages, world.folder⟩
  | .standardError => ⟨session.status, "", session.messages ++ [.report text], world.folder⟩
  | .null | .standardInput => ⟨session.status, "", session.messages, world.folder⟩

def deliver (world : World) (session : Session) : Aftermath :=
  match session.delivery with
  | none => ⟨session.status, "", session.messages, world.folder⟩
  | some (.standardOutput, code) => world.display session code .standardOutput
  | some (.file path, code) =>
      match world.folder.target path with
      | .error cause =>
          let failed := session.undelivered cause
          ⟨failed.status, "", failed.messages, world.folder⟩
      | .ok place =>
          match world.folder.occupant place with
          | .device device => world.display session code device
          | _ => ⟨session.status, "", session.messages, world.folder.put code place⟩

def run (world : World) (equipment : Equipment) (words : List String) : Aftermath :=
  match Invocation.parse words with
  | .error halt => world.deliver (.halted equipment.notice halt)
  | .ok invocation => world.deliver (invocation.run equipment.toToolchain (world.source invocation))

end World

end JsxLowering.CommandLine
