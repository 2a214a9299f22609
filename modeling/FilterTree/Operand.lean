import FilterTree.Error
import FilterTree.Json.Basic

/-!
# Literals and operands

* `Literal` : a value that a query binds to a placeholder.
* `Literal.present` : the values that count as given. Null does not.
* `Literal.display` : the text for a reader.
* `Literal.same` : equality of values. Doubles are compared as numbers, so NaN differs from itself.
* `Literal.ofJson?`, `Literal.toJson` : literals are the JSON values without brackets.
* `Operand` : one literal or a list of them. A list of one is not that one.
* `Operand.size` : how many values it carries. A single null carries none.
* `Operand.single`, `Operand.bounds` : the shape that an operator asks for, or an arity mismatch.
* `Operand.ofJson?`, `Operand.toJson` : operands are the JSON values with at most one level of brackets.
-/

namespace FilterTree

/-! ## Literals -/

/-- A value that a query binds to a placeholder. -/
inductive Literal where
  | null
  | bool (b : Bool)
  | int (n : Int64)
  | uint (n : UInt64)
  | float (x : Float)
  | text (s : String)
deriving DecidableEq, Inhabited

namespace Literal

def isNull : Literal → Bool
  | .null => true
  | _ => false

def present (v : Literal) : Option Literal := if v.isNull then none else some v

def display : Literal → String
  | .null => "NULL"
  | .bool b => String.ofList (Json.truth b)
  | .int n => String.ofList (Decimal.ofInt n.toInt)
  | .uint n => String.ofList (Decimal.ofNat n.toNat)
  | .float x => Decimal.plain x
  | .text s => "'" ++ s ++ "'"

/-- Equality of values: of numbers for doubles, of the contents for all others. -/
def same : Literal → Literal → Bool
  | .float x, .float y => x == y
  | v, w => v = w

def sameAll : List Literal → List Literal → Bool
  | [], [] => true
  | v :: vs, w :: ws => v.same w && sameAll vs ws
  | _, _ => false

def ofJson? : Json → Option Literal
  | .null => some .null
  | .bool b => some (.bool b)
  | .number (.int n) => some (.int n)
  | .number (.uint n) => some (.uint n)
  | .number (.float x) => some (.float x)
  | .text s => some (.text s)
  | .list _ => none
  | .object _ => none

def toJson : Literal → Json
  | .null => .null
  | .bool b => .bool b
  | .int n => .number (.int n)
  | .uint n => .number (.uint n)
  | .float x => .number (.float x)
  | .text s => .text s

theorem ofJson?_toJson (v : Literal) : ofJson? v.toJson = some v := by
  cases v <;> rfl

theorem toJson_of_ofJson? {j : Json} {v : Literal} (h : ofJson? j = some v) : v.toJson = j := by
  unfold ofJson? at h
  split at h <;> cases h <;> rfl

end Literal

/-! ## Operands -/

/-- What an operator is applied to besides its field. -/
inductive Operand where
  | one (v : Literal)
  | many (vs : List Literal)
deriving DecidableEq, Inhabited

/-- The two ends of a range, either of which may be open. -/
structure Bounds where
  low : Option Literal
  high : Option Literal
deriving DecidableEq

namespace Operand

def absent : Operand := .one .null

/-- How many values are carried. -/
def size : Operand → Nat
  | .one v => if v.isNull then 0 else 1
  | .many vs => vs.length

def isEmpty (x : Operand) : Bool := x.size == 0

/-- The value for an operator that takes one. A list is refused whatever its length. -/
def single (x : Operand) (operator : String) : Except Error Literal :=
  match x with
  | .one v => .ok v
  | .many vs => .error (.arityMismatch operator 1 vs.length)

/-- The ends of a range, from a list of two. Null leaves an end open. -/
def bounds (x : Operand) (operator : String) : Except Error Bounds :=
  match x with
  | .many [low, high] => .ok ⟨low.present, high.present⟩
  | x => .error (.arityMismatch operator 2 x.size)

def display : Operand → String
  | .one v => v.display
  | .many vs => "[" ++ String.intercalate ", " (vs.map Literal.display) ++ "]"

def same : Operand → Operand → Bool
  | .one v, .one w => v.same w
  | .many vs, .many ws => Literal.sameAll vs ws
  | _, _ => false

def ofJson? : Json → Option Operand
  | .list items => (items.mapM Literal.ofJson?).map .many
  | j => (Literal.ofJson? j).map .one

def toJson : Operand → Json
  | .one v => v.toJson
  | .many vs => .list (vs.map Literal.toJson)

end Operand

end FilterTree
