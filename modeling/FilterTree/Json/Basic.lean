import FilterTree.Decimal
import FilterTree.Text.Basic

/-!
# JSON values, their text, and why a text is not read

* `Json.Number` : a number is a signed word, an unsigned word or a double.
* `Json` : the values. An object keeps its members in order, repeated keys included.
* `Json.quote` : a text between quotes, with the escapes that JSON demands and no others.
* `Json.compact` : the text without any blank.
* `Json.pretty` : the text with a line for each element and member, two blanks deeper at each level.
* `Json.sorted` : the same value with the members of every object in order of their keys.
* `Found`, `Expected` : what stands in a text and what was wanted in its place.
* `Cause` : every reason to refuse a text.
* `Place` : a line and a column, counted in bytes.
* `Error` : a cause and, for most, its place.
* `Cause.message`, `Error.message` : their wording.
-/

namespace FilterTree

/-- A number: a signed word, an unsigned word or a double. -/
inductive Json.Number where
  | int (n : Int64)
  | uint (n : UInt64)
  | float (x : Float)
deriving BEq

/-- A JSON value. -/
inductive Json where
  | null
  | bool (b : Bool)
  | number (n : Json.Number)
  | text (s : String)
  | list (items : List Json)
  | object (members : List (String × Json))
deriving Inhabited

namespace Json

/-- The text of a number. What is not finite is written as null. -/
def Number.chars : Number → List Char
  | .int n => Decimal.ofInt n.toInt
  | .uint n => Decimal.ofNat n.toNat
  | .float x => ((Decimal.json? x).getD "null").toList

def hexDigit (n : Nat) : Char := n.digitChar

/-- The written form of a character: an escape for the two marks and the controls below the space. -/
def escape (c : Char) : List Char :=
  if c = '"' then ['\\', '"']
  else if c = '\\' then ['\\', '\\']
  else if c = '\x08' then ['\\', 'b']
  else if c = '\x0c' then ['\\', 'f']
  else if c = '\n' then ['\\', 'n']
  else if c = '\r' then ['\\', 'r']
  else if c = '\t' then ['\\', 't']
  else if c < ' ' then ['\\', 'u', '0', '0', hexDigit (c.toNat / 16), hexDigit (c.toNat % 16)]
  else [c]

def quote (s : String) : List Char := '"' :: s.toList.flatMap escape ++ ['"']

def truth (b : Bool) : List Char := if b then "true".toList else "false".toList

mutual

/-- The text without any blank. -/
def compact : Json → List Char
  | .null => "null".toList
  | .bool b => truth b
  | .number n => n.chars
  | .text s => quote s
  | .list items => '[' :: compactItems items ++ [']']
  | .object members => '\x7b' :: compactMembers members ++ ['\x7d']

def compactItems : List Json → List Char
  | [] => []
  | [v] => compact v
  | v :: vs => compact v ++ ',' :: compactItems vs

def compactMembers : List (String × Json) → List Char
  | [] => []
  | [(k, v)] => quote k ++ ':' :: compact v
  | (k, v) :: ms => quote k ++ ':' :: compact v ++ ',' :: compactMembers ms

end

def newline (depth : Nat) : List Char := '\n' :: List.replicate (2 * depth) ' '

mutual

def prettyAt (depth : Nat) : Json → List Char
  | .list (v :: vs) => '[' :: prettyItems (depth + 1) (v :: vs) ++ newline depth ++ [']']
  | .list [] => ['[', ']']
  | .object (m :: ms) => '\x7b' :: prettyMembers (depth + 1) (m :: ms) ++ newline depth ++ ['\x7d']
  | .object [] => ['\x7b', '\x7d']
  | .null => "null".toList
  | .bool b => truth b
  | .number n => n.chars
  | .text s => quote s

def prettyItems (depth : Nat) : List Json → List Char
  | [] => []
  | [v] => newline depth ++ prettyAt depth v
  | v :: vs => newline depth ++ prettyAt depth v ++ ',' :: prettyItems depth vs

def prettyMembers (depth : Nat) : List (String × Json) → List Char
  | [] => []
  | [(k, v)] => newline depth ++ quote k ++ ':' :: ' ' :: prettyAt depth v
  | (k, v) :: ms =>
    newline depth ++ quote k ++ ':' :: ' ' :: prettyAt depth v ++ ',' :: prettyMembers depth ms

end

def pretty (v : Json) : List Char := prettyAt 0 v

/-- Members in order of their keys, a new one among sorted ones. -/
def placeMember (m : String × Json) : List (String × Json) → List (String × Json)
  | [] => [m]
  | n :: ns => if n.1 < m.1 then n :: placeMember m ns else m :: n :: ns

mutual

def sorted : Json → Json
  | .list items => .list (sortedItems items)
  | .object members => .object (sortedMembers members)
  | v => v

def sortedItems : List Json → List Json
  | [] => []
  | v :: vs => sorted v :: sortedItems vs

def sortedMembers : List (String × Json) → List (String × Json)
  | [] => []
  | (k, v) :: ms => placeMember (k, sorted v) (sortedMembers ms)

end

end Json

end FilterTree

namespace FilterTree.Json

/-! ## Why a text is not read -/

inductive Found where
  | null
  | bool (b : Bool)
  | number (n : Number)
  | text (s : String)
  | list
  | object

inductive Expected where
  | text
  | list
  | node
  | condition

/-- The choices that a plain value is tried against. -/
inductive Choice where
  | literal
  | operand

/-- A reason to refuse a text. -/
inductive Cause where
  | endInValue
  | endInText
  | endInList
  | endInObject
  | expectedValue
  | expectedWord
  | expectedColon
  | expectedListEnd
  | expectedObjectEnd
  | invalidNumber
  | numberOutOfRange
  | invalidEscape
  | loneSurrogate
  | missingSurrogate
  | controlCharacter
  | keyNotText
  | trailingComma
  | trailingCharacters
  | tooNested
  | mismatch (found : Found) (expected : Expected)
  | duplicateKey (key : String)
  | noChoice (choice : Choice)

/-- A place in a text: a line from one, and the bytes before the place on that line. -/
structure Place where
  line : Nat
  column : Nat
deriving DecidableEq

/-- A refusal: its cause, and its place if it has one. -/
structure Error where
  cause : Cause
  place : Option Place

def Found.message : Found → String
  | .null => "null"
  | .bool b => "boolean `" ++ String.ofList (truth b) ++ "`"
  | .number (.float x) => "floating point `" ++ String.ofList (Number.float x).chars ++ "`"
  | .number n => "integer `" ++ String.ofList n.chars ++ "`"
  | .text s => "string " ++ Text.quote s
  | .list => "sequence"
  | .object => "map"

def Expected.message : Expected → String
  | .text => "a string"
  | .list => "a sequence"
  | .node => "struct RawFilter"
  | .condition => "struct Condition"

def Choice.name : Choice → String
  | .literal => "Value"
  | .operand => "Operand"

def Cause.message : Cause → String
  | .endInValue => "EOF while parsing a value"
  | .endInText => "EOF while parsing a string"
  | .endInList => "EOF while parsing a list"
  | .endInObject => "EOF while parsing an object"
  | .expectedValue => "expected value"
  | .expectedWord => "expected ident"
  | .expectedColon => "expected `:`"
  | .expectedListEnd => "expected `,` or `]`"
  | .expectedObjectEnd => "expected `,` or `\x7d`"
  | .invalidNumber => "invalid number"
  | .numberOutOfRange => "number out of range"
  | .invalidEscape => "invalid escape"
  | .loneSurrogate => "lone leading surrogate in hex escape"
  | .missingSurrogate => "unexpected end of hex escape"
  | .controlCharacter => "control character (\\u0000-\\u001F) found while parsing a string"
  | .keyNotText => "key must be a string"
  | .trailingComma => "trailing comma"
  | .trailingCharacters => "trailing characters"
  | .tooNested => "recursion limit exceeded"
  | .mismatch found expected => "invalid type: " ++ found.message ++ ", expected " ++ expected.message
  | .duplicateKey key => "duplicate field `" ++ key ++ "`"
  | .noChoice choice => "data did not match any variant of untagged enum " ++ choice.name

def count (n : Nat) : String := String.ofList (Decimal.ofNat n)

/-- An error in words: the cause, and the place behind it. -/
def Error.message (e : Error) : String :=
  match e.place with
  | none => e.cause.message
  | some p => e.cause.message ++ " at line " ++ count p.line ++ " column " ++ count p.column

/-- The place that has a given number of bytes of the text behind it. -/
def Place.before (text : String) (left : Nat) : Place :=
  let passed := text.toUTF8.toList.take (text.utf8ByteSize - left)
  ⟨passed.count 10 + 1, (passed.reverse.takeWhile (· != 10)).length⟩

theorem eq_ok_of_map {ε α β : Type} {f : α → β} {x : Except ε α} {b : β} (h : x.map f = .ok b) :
    ∃ a, x = .ok a ∧ f a = b := by
  cases x with
  | error e => cases h
  | ok a => exact ⟨a, rfl, Except.ok.inj h⟩

end FilterTree.Json
