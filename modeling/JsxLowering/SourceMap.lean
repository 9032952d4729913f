import JsxLowering.Printer.Output
import JsxLowering.Text.Base64

set_option autoImplicit false

/-!
Source maps: which place of a printed text comes from which place of its source. A map
is written as a data URL that holds it in JSON. Each link is given by its distance from
the one before.
-/

namespace JsxLowering

/-- The links between a printed text and its source, in the order of the text. -/
structure SourceMap where
  sourceName : String
  source : String
  links : List Link

namespace SourceMap

structure Position where
  line : Nat
  column : Nat

def positionFrom (here : Position) : Nat → List Char → Position
  | 0, _ => here
  | _, [] => here
  | offset + 1, c :: rest =>
      let breaks := c == '\n' || (c == '\r' && rest.head? != some '\n') ||
        c.toNat == 0x2028 || c.toNat == 0x2029
      positionFrom
        (if breaks then ⟨here.line + 1, 0⟩ else ⟨here.line, here.column + Text.utf16Units c⟩)
        (offset + 1 - c.utf8Size) rest

def positionOf (text : List Char) (offset : Nat) : Position := positionFrom ⟨0, 0⟩ offset text

/-- A number in groups of five bits, lowest first. Every group but the last is marked. -/
def groups (value : Nat) : List Char :=
  if value < 32 then [Text.base64Digit value]
  else Text.base64Digit (32 + value % 32) :: groups (value / 32)

def signed : Int → List Char
  | .ofNat value => groups (2 * value)
  | .negSucc value => groups (2 * (value + 1) + 1)

structure Latest where
  line : Nat
  column : Nat
  origin : Position
  started : Bool
  name : Nat

def names (map : SourceMap) : List String :=
  (map.links.filterMap Link.name).foldl (fun found name =>
    if found.contains name then found else found ++ [name]) []

def mappingsFrom (source : List Char) (names : List String) (latest : Latest) :
    List Link → List Char
  | [] => []
  | link :: rest =>
      let lines := link.line - latest.line
      let column := if lines = 0 then latest.column else 0
      let origin := positionOf source link.origin.toNat
      let name : Nat :=
        match link.name with
        | some name => names.idxOf name
        | none => latest.name
      List.replicate lines ';' ++
        (if latest.started && lines == 0 then [','] else []) ++
        signed (link.column - column) ++ signed 0 ++
        signed (origin.line - latest.origin.line) ++
        signed (origin.column - latest.origin.column) ++
        (if link.name.isSome then signed (name - latest.name) else []) ++
        mappingsFrom source names ⟨link.line, link.column, origin, true, name⟩ rest

def mappings (map : SourceMap) : String :=
  String.ofList
    (mappingsFrom map.source.toList map.names ⟨0, 0, ⟨0, 0⟩, false, 0⟩ map.links)

def jsonChar (c : Char) : List Char :=
  if c == '"' then ['\\', '"']
  else if c == '\\' then ['\\', '\\']
  else if c == '\x08' then ['\\', 'b']
  else if c == '\t' then ['\\', 't']
  else if c == '\n' then ['\\', 'n']
  else if c == '\x0c' then ['\\', 'f']
  else if c == '\r' then ['\\', 'r']
  else if c.toNat < 32 then
    let digits := Nat.toDigits 16 c.toNat
    ['\\', 'u'] ++ List.replicate (4 - digits.length) '0' ++ digits
  else [c]

def jsonString (text : String) : String :=
  "\"" ++ String.ofList (text.toList.flatMap jsonChar) ++ "\""

def toJson (map : SourceMap) : String :=
  "\x7b\"version\":3,\"names\":[" ++ ",".intercalate (map.names.map jsonString) ++
    "],\"sources\":[" ++ jsonString map.sourceName ++
    "],\"sourcesContent\":[" ++ jsonString map.source ++
    "],\"mappings\":" ++ jsonString map.mappings ++ "\x7d"

def dataUrl (map : SourceMap) : String :=
  "data:application/json;charset=utf-8;base64," ++
    String.ofList (Text.base64 map.toJson.toUTF8.toList)

end SourceMap

end JsxLowering
