import VisualNovel.Decimal.Notation
import VisualNovel.Text.Quoted

/-!
# What is wrong with a document

A document can break off, be malformed, or be well formed and hold something else than what is
asked for. Each cause has one text; only the first fault of a document is ever reported.
-/

namespace VisualNovel.Json

/-- What is asked for at a place of a document. -/
inductive Expectation
  | text
  | boolean
  | int32
  | list
  | map
  /-- A record, named as its kind is called in messages. -/
  | record (kind : String)
  deriving DecidableEq

/-- What is asked for, in words. -/
def Expectation.words : Expectation → String
  | text => "a string"
  | boolean => "a boolean"
  | int32 => "i32"
  | list => "a sequence"
  | map => "a map"
  | record kind => "struct " ++ kind

/-- What stands at a place of a document. -/
inductive Found
  | null
  | boolean (b : Bool)
  | integer (n : Int)
  | float (f : Float)
  | text (s : String)
  | list
  | map

/-- What stands there, in words. -/
def Found.words : Found → String
  | null => "null"
  | boolean b => "boolean `" ++ toString b ++ "`"
  | integer n => "integer `" ++ toString n ++ "`"
  | float f => "floating point `" ++ Decimal.textOf f ++ "`"
  | text s => "string " ++ Text.quoted s
  | list => "sequence"
  | map => "map"

/-- Why a document cannot be read. -/
inductive Fault
  | endInValue
  | endInText
  | endInMap
  | endInList
  | expectedValue
  | expectedWord
  | expectedColon
  | expectedCommaInMap
  | expectedCommaInList
  | keyNotText
  | trailingComma
  | trailingCharacters
  | invalidNumber
  | numberOutOfRange
  | invalidEscape
  | controlCharacter
  /-- A high surrogate with no second escape after it. -/
  | loneHighSurrogate
  /-- A low surrogate by itself, or a high one before an escape that is not a low one. -/
  | unpairedSurrogate
  | invalidCodePoint
  | unexpected (found : Found) (wanted : Expectation)
  | integerOutOfRange (n : Int)
  | duplicateField (name : String)
  | missingField (name : String)
  /-- A record written as a list of `given` fields lacks a field it must have. -/
  | tooFewFields (given : Nat) (kind : String) (fields : Nat)

/-- The kinds of faults. -/
inductive Category
  /-- The document is no JSON. -/
  | malformed
  /-- The document is JSON and holds the wrong data. -/
  | data
  /-- The document breaks off. -/
  | cutOff
  deriving DecidableEq

namespace Fault

/-- Which kind of fault it is. -/
def category : Fault → Category
  | endInValue | endInText | endInMap | endInList => .cutOff
  | unexpected .. | integerOutOfRange .. | duplicateField .. | missingField ..
  | tooFewFields .. => .data
  | _ => .malformed

/-- The fault in words. -/
def message : Fault → String
  | endInValue => "EOF while parsing a value"
  | endInText => "EOF while parsing a string"
  | endInMap => "EOF while parsing an object"
  | endInList => "EOF while parsing a list"
  | expectedValue => "expected value"
  | expectedWord => "expected ident"
  | expectedColon => "expected `:`"
  | expectedCommaInMap => "expected `,` or `\x7d`"
  | expectedCommaInList => "expected `,` or `]`"
  | keyNotText => "key must be a string"
  | trailingComma => "trailing comma"
  | trailingCharacters => "trailing characters"
  | invalidNumber => "invalid number"
  | numberOutOfRange => "number out of range"
  | invalidEscape => "invalid escape"
  | controlCharacter => "control character (\\u0000-\\u001F) found while parsing a string"
  | loneHighSurrogate => "unexpected end of hex escape"
  | unpairedSurrogate => "lone leading surrogate in hex escape"
  | invalidCodePoint => "invalid unicode code point"
  | unexpected found wanted => "invalid type: " ++ found.words ++ ", expected " ++ wanted.words
  | integerOutOfRange n =>
    "invalid value: " ++ (Found.integer n).words ++ ", expected " ++ Expectation.int32.words
  | duplicateField name => "duplicate field `" ++ name ++ "`"
  | missingField name => "missing field `" ++ name ++ "`"
  | tooFewFields given kind fields =>
    "invalid length " ++ toString given ++ ", expected " ++ (Expectation.record kind).words
      ++ " with " ++ toString fields ++ " elements"

end Fault

end VisualNovel.Json
