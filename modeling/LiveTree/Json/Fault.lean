import LiveTree.Json.Printer
import LiveTree.Text.Quoted

namespace LiveTree.Json

inductive Seen where
  | null
  | bool (b : Bool)
  | number (n : Number)
  | text (s : String)
  | list
  | object
  deriving DecidableEq, Repr

def Seen.message : Seen → String
  | .null => "null"
  | .bool b => "boolean `" ++ (if b then "true" else "false") ++ "`"
  | .number (.whole n) => "integer `" ++ String.ofList (Number.render (.whole n)) ++ "`"
  | .number (.double x) => "floating point `" ++ String.ofList (Number.render (.double x)) ++ "`"
  | .text s => "string " ++ Text.Quoted.ofString s
  | .list => "sequence"
  | .object => "map"

def seen : Json → Seen
  | .null => .null
  | .bool b => .bool b
  | .number n => .number n
  | .text s => .text s
  | .list _ => .list
  | .object _ => .object

inductive Cause where
  | endInValue
  | endInList
  | endInObject
  | endInText
  | valueExpected
  | literalExpected
  | invalidNumber
  | numberOutOfRange
  | keyNotText
  | colonExpected
  | listMarkExpected
  | objectMarkExpected
  | trailingComma
  | trailingCharacters
  | invalidEscape
  | escapeCutShort
  | loneSurrogate
  | controlCharacter
  | invalidCodePoint
  | tooDeep
  | wrongType (got : Seen) (want : String)
  | wrongInteger (got : Int) (want : String)
  | missingField (name : String)
  | repeatedField (name : String)
  | wrongLength (length : Nat) (want : String)
  | unknownVariant (name : String) (want : String)
  deriving DecidableEq, Repr

def Cause.message : Cause → String
  | .endInValue => "EOF while parsing a value"
  | .endInList => "EOF while parsing a list"
  | .endInObject => "EOF while parsing an object"
  | .endInText => "EOF while parsing a string"
  | .valueExpected => "expected value"
  | .literalExpected => "expected ident"
  | .invalidNumber => "invalid number"
  | .numberOutOfRange => "number out of range"
  | .keyNotText => "key must be a string"
  | .colonExpected => "expected `:`"
  | .listMarkExpected => "expected `,` or `]`"
  | .objectMarkExpected => "expected `,` or `\x7d`"
  | .trailingComma => "trailing comma"
  | .trailingCharacters => "trailing characters"
  | .invalidEscape => "invalid escape"
  | .escapeCutShort => "unexpected end of hex escape"
  | .loneSurrogate => "lone leading surrogate in hex escape"
  | .controlCharacter => "control character (\\u0000-\\u001F) found while parsing a string"
  | .invalidCodePoint => "invalid unicode code point"
  | .tooDeep => "recursion limit exceeded"
  | .wrongType got want => "invalid type: " ++ got.message ++ ", expected " ++ want
  | .wrongInteger got want =>
      "invalid value: " ++ (Seen.number (.whole got)).message ++ ", expected " ++ want
  | .missingField name => "missing field `" ++ name ++ "`"
  | .repeatedField name => "duplicate field `" ++ name ++ "`"
  | .wrongLength length want => "invalid length " ++ toString length ++ ", expected " ++ want
  | .unknownVariant name want => "unknown variant `" ++ name ++ "`, expected " ++ want

/-- Lines count from one; a column counts the bytes since the last line feed. -/
structure Place where
  line : Nat
  column : Nat
  deriving DecidableEq, Repr

def Place.after (bytes : List UInt8) (offset : Nat) : Place :=
  (bytes.take offset).foldl
    (fun p b => if b = 0x0A then ⟨p.line + 1, 0⟩ else ⟨p.line, p.column + 1⟩) ⟨1, 0⟩

structure Fault where
  cause : Cause
  place : Option Place
  deriving DecidableEq, Repr

def Fault.message (f : Fault) : String :=
  match f.place with
  | some p => f.cause.message ++ " at line " ++ toString p.line ++ " column " ++ toString p.column
  | none => f.cause.message

structure Flaw where
  cause : Cause
  offset : Nat
  deriving DecidableEq, Repr

def Flaw.locate (bytes : List UInt8) (f : Flaw) : Fault :=
  ⟨f.cause, some (Place.after bytes f.offset)⟩

end LiveTree.Json
