import FilterTree.Operand
import FilterTree.Text.Basic
import FilterTree.Text.Class

/-!
# Clauses, templates and built-in operators

A template is SQL with marks for the field and for the values. Every question mark takes one value, wherever
it stands.

* `Clause` : the text of a condition in SQL with the values for its placeholders, from left to right.
* `Clause.join` : the clause of several, with a joiner between their texts. A single clause stays as it is.
* `Clause.toJson` : its JSON value.
* `marker` : the mark for the field.
* `fill` : the text with the field in place of its marks. What has been put in is not searched again.
* `Template` : a text with more than blanks in it.
* `Template.arity`, `Template.apply` : the number of its values, and the clause for a field and an operand.
* `Operator` : the operators that need no registration.
* `Operator.keyword`, `Operator.ofKeyword?` : their keywords.
* `Operator.template` : the SQL of each.
* `Operator.isRange` : the two that take the ends of a range. An open end drops its half of the test.
* `Operator.compile` : the clause for a field and an operand.
-/

namespace FilterTree

/-! ## Clauses -/

/-- A condition in SQL with the values for its placeholders. -/
structure Clause where
  sql : String
  params : List Literal
deriving DecidableEq, Inhabited

namespace Clause

/-- The clause that restricts nothing. -/
def empty : Clause := ⟨"", []⟩

def isEmpty (c : Clause) : Bool := c.sql.isEmpty

/-- The texts with a joiner between them, and all values in order. Several are put in parentheses. -/
def join (joiner : String) (cs : List Clause) : Clause :=
  let sql := String.intercalate joiner (cs.map sql)
  ⟨if cs.length > 1 then "( " ++ sql ++ " )" else sql, cs.flatMap params⟩

theorem join_singleton (joiner : String) (k : Clause) : join joiner [k] = k := by
  simp [join]

def toJson (c : Clause) : Json :=
  .object [("sql", .text c.sql), ("params", .list (c.params.map Literal.toJson))]

end Clause

/-! ## Templates -/

def marker : Text.Mark := ⟨'\x7b', ['f', 'i', 'e', 'l', 'd', '\x7d']⟩

/-- The text with the field in place of its marks. -/
def fill (field : String) (text : String) : String :=
  String.ofList (marker.fill field.toList text.toList)

/-- A text with more than blanks in it. -/
structure Template where
  text : String
  not_blank : ¬Text.AllBlank text

namespace Template

def ofText (text : String) : Except Error Template :=
  if h : Text.AllBlank text then .error (.config .emptyTemplate) else .ok ⟨text, h⟩

/-- How many values are taken. -/
def arity (t : Template) : Nat := t.text.toList.count '?'

/-- The values of an operand for a template: one literal, or a list of as many as it takes. -/
def values (arity : Nat) (operator : String) (x : Operand) : Except Error (List Literal) :=
  match arity with
  | 0 => .ok []
  | 1 => x.single operator |>.map fun v => [v]
  | n => match x with
    | .many vs => if vs.length = n then .ok vs else .error (.arityMismatch operator n vs.length)
    | x => .error (.arityMismatch operator n x.size)

def apply (t : Template) (field operator : String) (x : Operand) : Except Error Clause :=
  match values t.arity operator x with
  | .ok vs => .ok ⟨fill field t.text, vs⟩
  | .error e => .error e

end Template

/-! ## Built-in operators -/

/-- The operators that need no registration. -/
inductive Operator where
  | equal
  | notEqual
  | contains
  | notContains
  | lessOrEqual
  | greaterOrEqual
  | less
  | greater
  | beginsWith
  | notBeginsWith
  | endsWith
  | notEndsWith
  | between
  | notBetween
deriving DecidableEq, Inhabited

namespace Operator

/-- The operators in the order of their listing. -/
def all : List Operator :=
  [.equal, .notEqual, .contains, .notContains, .lessOrEqual, .greaterOrEqual, .less, .greater,
    .beginsWith, .notBeginsWith, .endsWith, .notEndsWith, .between, .notBetween]

def keyword : Operator → String
  | .equal => "equal"
  | .notEqual => "notEqual"
  | .contains => "contains"
  | .notContains => "notContains"
  | .lessOrEqual => "lessOrEqual"
  | .greaterOrEqual => "greaterOrEqual"
  | .less => "less"
  | .greater => "greater"
  | .beginsWith => "beginsWith"
  | .notBeginsWith => "notBeginsWith"
  | .endsWith => "endsWith"
  | .notEndsWith => "notEndsWith"
  | .between => "between"
  | .notBetween => "notBetween"

/-- The SQL of an operator. A range shows the form with both ends given. -/
def template : Operator → String
  | .equal => "\x7bfield\x7d = ?"
  | .notEqual => "\x7bfield\x7d <> ?"
  | .contains => "INSTR(\x7bfield\x7d, ?) > 0"
  | .notContains => "INSTR(\x7bfield\x7d, ?) = 0"
  | .lessOrEqual => "\x7bfield\x7d <= ?"
  | .greaterOrEqual => "\x7bfield\x7d >= ?"
  | .less => "\x7bfield\x7d < ?"
  | .greater => "\x7bfield\x7d > ?"
  | .beginsWith => "\x7bfield\x7d LIKE CONCAT(?, '%')"
  | .notBeginsWith => "\x7bfield\x7d NOT LIKE CONCAT(?, '%')"
  | .endsWith => "\x7bfield\x7d LIKE CONCAT('%', ?)"
  | .notEndsWith => "\x7bfield\x7d NOT LIKE CONCAT('%', ?)"
  | .between => "( \x7bfield\x7d > ? AND \x7bfield\x7d < ? )"
  | .notBetween => "( \x7bfield\x7d < ? OR \x7bfield\x7d > ? )"

def ofKeyword? (keyword : String) : Option Operator := all.find? (·.keyword == keyword)

def isRange : Operator → Bool
  | .between => true
  | .notBetween => true
  | _ => false

/-- The comparisons with the ends of a range, and what connects them. -/
structure Range where
  low : String
  connective : String
  high : String

def comparison (field sign : String) : String := field ++ " " ++ sign ++ " ?"

/-- The test of a field against the ends that are given. -/
def Range.compile (r : Range) (field : String) (b : Bounds) : Clause :=
  match b.low, b.high with
  | some low, some high =>
    ⟨"( " ++ comparison field r.low ++ " " ++ r.connective ++ " " ++ comparison field r.high ++ " )",
      [low, high]⟩
  | some low, none => ⟨comparison field r.low, [low]⟩
  | none, some high => ⟨comparison field r.high, [high]⟩
  | none, none => .empty

def range? : Operator → Option Range
  | .between => some ⟨">", "AND", "<"⟩
  | .notBetween => some ⟨"<", "OR", ">"⟩
  | _ => none

/-- The clause for a field and an operand. -/
def compile (o : Operator) (field : String) (x : Operand) : Except Error Clause :=
  match o.range? with
  | some r => (x.bounds o.keyword).map (r.compile field)
  | none => (x.single o.keyword).map fun v => ⟨fill field o.template, [v]⟩

theorem isRange_eq (o : Operator) : o.isRange = o.range?.isSome := by
  cases o <;> rfl

theorem mem_all (o : Operator) : o ∈ all := by
  cases o <;> decide

@[simp] theorem ofKeyword?_keyword (o : Operator) : ofKeyword? o.keyword = some o := by
  cases o <;> decide

theorem keyword_of_ofKeyword? {keyword : String} {o : Operator} (h : ofKeyword? keyword = some o) :
    o.keyword = keyword := by
  have := List.find?_some h
  simpa using this

theorem ofKeyword?_eq_none_iff {keyword : String} : ofKeyword? keyword = none ↔ ∀ o : Operator, o.keyword ≠ keyword := by
  rw [ofKeyword?, List.find?_eq_none]
  constructor
  · intro h o
    simpa using h o (mem_all o)
  · intro h o _
    simpa using h o

end Operator

end FilterTree
