import FilterTree.Filter
import FilterTree.Json.Record

/-!
# Filters as JSON

A filter is a record of five fields, all of which may be missing or null. It is a group if it has rules, even
none, and a leaf otherwise; the fields of the other kind are checked and dropped.

* `Filter.toJson` : the JSON value of a filter. A leaf leaves out a condition without operator and an empty set
  of values.
* `Filter.normal` : the filter without the operands that this drops.
* `Filter.wire` : the text of that value.
* `Condition.Entry`, `Filter.Entry` : one field of a record with its value.
* `Condition.ofEntries`, `Filter.ofEntries` : what the fields of a record amount to.
* `Literal.reader`, `Operand.reader`, `Condition.reader`, `Filter.reader` : readers within a number of levels of
  brackets.
* `Literal.ofText`, `Operand.ofText`, `Filter.ofText` : the value that makes up a text.
-/

namespace FilterTree

/-! ## Writing -/

def Condition.toJson (c : Condition) : Json :=
  .object [("type", .text c.operator), ("filter", c.operand.toJson)]

/-- The condition, or none where it has no operator. -/
def Condition.normal (c : Condition) : Condition := if c.operator.isEmpty then .vacant else c

def Leaf.members (l : Leaf) : List (String × Json) :=
  [("field", .text l.field)] ++
    (if l.condition.operator.isEmpty then [] else [("condition", l.condition.toJson)]) ++
    (if l.includes.isEmpty then [] else [("includes", .list (l.includes.map Literal.toJson))])

def Leaf.normal (l : Leaf) : Leaf := { l with condition := l.condition.normal }

namespace Filter

mutual

/-- The JSON value of a filter. -/
def toJson : Filter → Json
  | .leaf l => .object l.members
  | .group glue rules => .object [("glue", .text glue.keyword), ("rules", .list (toJsonAll rules))]

def toJsonAll : List Filter → List Json
  | [] => []
  | f :: fs => f.toJson :: toJsonAll fs

end

mutual

/-- The filter with every condition in normal form. -/
def normal : Filter → Filter
  | .leaf l => .leaf l.normal
  | .group glue rules => .group glue (normalAll rules)

def normalAll : List Filter → List Filter
  | [] => []
  | f :: fs => f.normal :: normalAll fs

end

/-- The text of a filter. -/
def wire (f : Filter) : String := String.ofList f.toJson.compact

end Filter

open Json (Reader Fields)

/-! ## Reading -/

/-- The levels of brackets that a text may have. -/
def maxLevels : Nat := 127

def Literal.reader (levels : Nat) : Reader Literal :=
  (Json.reader levels).choose (.noChoice .literal) Literal.ofJson?

def Literal.listReader : Nat → Reader (List Literal)
  | 0 => .list none
  | levels + 1 => .list (some (Literal.reader levels))

def Operand.reader (levels : Nat) : Reader Operand :=
  (Json.reader levels).choose (.noChoice .operand) Operand.ofJson?

namespace Condition

inductive Entry where
  | operator (keyword : Option String)
  | operand (x : Operand)

def Entry.operator? : Entry → Option String
  | .operator keyword => keyword
  | .operand _ => none

def Entry.operand? : Entry → Option Operand
  | .operator _ => none
  | .operand x => some x

def ofEntries (entries : List Entry) : Condition :=
  ⟨(entries.findSome? Entry.operator?).getD "", (entries.findSome? Entry.operand?).getD .absent⟩

def fields (levels : Nat) : Fields Entry :=
  [("type", Reader.text.orNull.map .operator), ("filter", (Operand.reader levels).map .operand)]

/-- A condition. -/
def reader : Nat → Reader Condition
  | 0 => (Reader.record .condition none).map ofEntries
  | levels + 1 => (Reader.record .condition (some (fields levels))).map ofEntries

end Condition

namespace Filter

inductive Entry where
  | glue (keyword : Option String)
  | field (name : Option String)
  | condition (x : Option Condition)
  | includes (vs : Option (List Literal))
  | rules (fs : Option (List Filter))

def Entry.glue? : Entry → Option String
  | .glue keyword => keyword
  | _ => none

def Entry.field? : Entry → Option String
  | .field name => name
  | _ => none

def Entry.condition? : Entry → Option Condition
  | .condition x => x
  | _ => none

def Entry.includes? : Entry → Option (List Literal)
  | .includes vs => vs
  | _ => none

def Entry.rules? : Entry → Option (List Filter)
  | .rules fs => fs
  | _ => none

def ofEntries (entries : List Entry) : Filter :=
  match entries.findSome? Entry.rules? with
  | some rules => .group (.ofKeyword ((entries.findSome? Entry.glue?).getD "")) rules
  | none => .leaf ⟨(entries.findSome? Entry.field?).getD "",
      (entries.findSome? Entry.condition?).getD .vacant, (entries.findSome? Entry.includes?).getD []⟩

/-- The fields of a filter, of which the rules are read by a given reader. -/
def fields (levels : Nat) (rules : Reader (List Filter)) : Fields Entry :=
  [("glue", Reader.text.orNull.map .glue), ("field", Reader.text.orNull.map .field),
    ("condition", (Condition.reader levels).orNull.map .condition),
    ("includes", (Literal.listReader levels).orNull.map .includes), ("rules", rules.orNull.map .rules)]

mutual

/-- A filter. -/
def reader : Nat → Reader Filter
  | 0 => (Reader.record .node none).map ofEntries
  | levels + 1 => (Reader.record .node (some (fields levels (listReader levels)))).map ofEntries

def listReader : Nat → Reader (List Filter)
  | 0 => .list none
  | levels + 1 => .list (some (reader levels))

end

end Filter

/-- The item that makes up a text, with an error of this library where there is none. -/
def readWhole {α : Type} (r : Reader α) (text : String) : Except Error α :=
  match r.read text with
  | .ok a => .ok a
  | .error e => .error (.json e)

def Literal.ofText (text : String) : Except Error Literal := readWhole (Literal.reader maxLevels) text

def Operand.ofText (text : String) : Except Error Operand := readWhole (Operand.reader maxLevels) text

/-- The filter that makes up a text. -/
def Filter.ofText (text : String) : Except Error Filter := readWhole (Filter.reader maxLevels) text

end FilterTree
