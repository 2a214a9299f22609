import FilterTree.Filter.Wire
import FilterTree.Proofs.Json.Record

/-!
# The filter that a script denotes

* `Literal.ofScript?`, `Operand.ofScript?`, `Condition.ofScript?`, `Filter.ofScript?` : what a script denotes, within a number
  of levels of brackets. Each has the shape of the reader.
* `Filter.decodes` : the reader of filters makes just that of a script.
* `Filter.ofText_eq_ok_iff` : so a text is the text of a filter just when it is the text of a script that denotes it.
-/

namespace FilterTree

open Json (Script Reader Decoders FieldsDecode MayDecode)

def Literal.ofScript? (levels : Nat) (d : Script) : Option Literal := (d.json? levels).bind Literal.ofJson?

def Literal.listOfScript? : Nat → Script → Option (List Literal)
  | 0 => Script.list? none
  | levels + 1 => Script.list? (some (Literal.ofScript? levels))

def Operand.ofScript? (levels : Nat) (d : Script) : Option Operand := (d.json? levels).bind Operand.ofJson?

theorem Operand.ofScript?_null (levels : Nat) : ofScript? levels .null = some .absent := by
  cases levels <;> rfl

namespace Condition

def decoders (levels : Nat) : Decoders Entry :=
  [("type", fun d => (d.orNull Script.text?).map .operator), ("filter", fun d => (Operand.ofScript? levels d).map .operand)]

theorem mem_decoders {levels : Nat} {f : String × (Script → Option Entry)} (h : f ∈ decoders levels) :
    f = ("type", fun d => (d.orNull Script.text?).map .operator) ∨
    f = ("filter", fun d => (Operand.ofScript? levels d).map .operand) := by
  simpa only [decoders, List.mem_cons, List.not_mem_nil, or_false] using h

def ofScript? : Nat → Script → Option Condition
  | 0 => fun d => (d.record? none).map ofEntries
  | levels + 1 => fun d => (d.record? (some (decoders levels))).map ofEntries

end Condition

namespace Filter

/-- The fields of a filter, of which the rules are taken by a given function. -/
def decoders (levels : Nat) (rules : Script → Option (List Filter)) : Decoders Entry :=
  [("glue", fun d => (d.orNull Script.text?).map .glue), ("field", fun d => (d.orNull Script.text?).map .field),
    ("condition", fun d => (d.orNull (Condition.ofScript? levels)).map .condition),
    ("includes", fun d => (d.orNull (Literal.listOfScript? levels)).map .includes),
    ("rules", fun d => (d.orNull rules).map .rules)]

theorem mem_decoders {levels : Nat} {rules : Script → Option (List Filter)} {f : String × (Script → Option Entry)}
    (h : f ∈ decoders levels rules) :
    f = ("glue", fun d => (d.orNull Script.text?).map .glue) ∨ f = ("field", fun d => (d.orNull Script.text?).map .field) ∨
    f = ("condition", fun d => (d.orNull (Condition.ofScript? levels)).map .condition) ∨
    f = ("includes", fun d => (d.orNull (Literal.listOfScript? levels)).map .includes) ∨
    f = ("rules", fun d => (d.orNull rules).map .rules) := by
  simpa only [decoders, List.mem_cons, List.not_mem_nil, or_false] using h

mutual

def ofScript? : Nat → Script → Option Filter
  | 0 => fun d => (d.record? none).map ofEntries
  | levels + 1 => fun d => (d.record? (some (decoders levels (listOfScript? levels)))).map ofEntries

def listOfScript? : Nat → Script → Option (List Filter)
  | 0 => Script.list? none
  | levels + 1 => Script.list? (some (ofScript? levels))

end

end Filter

/-! ## The readers -/

theorem Literal.decodes (levels : Nat) : (Literal.reader levels).Decodes (Literal.ofScript? levels) :=
  (Json.decodes_reader levels).choose (.noChoice .literal) Literal.ofJson?

theorem Literal.decodes_list (levels : Nat) : (Literal.listReader levels).Decodes (Literal.listOfScript? levels) := by
  cases levels with
  | zero => exact MayDecode.none.list
  | succ levels => exact (MayDecode.some (Literal.decodes levels)).list

theorem Operand.decodes (levels : Nat) : (Operand.reader levels).Decodes (Operand.ofScript? levels) :=
  (Json.decodes_reader levels).choose (.noChoice .operand) Operand.ofJson?

theorem Condition.fieldsDecode (levels : Nat) : FieldsDecode (fields levels) (decoders levels) :=
  .cons ⟨rfl, Reader.decodes_text.orNull.map _⟩ (.cons ⟨rfl, (Operand.decodes levels).map _⟩ .nil)

theorem Condition.decodes (levels : Nat) : (Condition.reader levels).Decodes (Condition.ofScript? levels) := by
  cases levels with
  | zero => exact (Json.decodes_record .condition .none).map ofEntries
  | succ levels => exact (Json.decodes_record .condition (.some (fieldsDecode levels))).map ofEntries

namespace Filter

theorem fieldsDecode (levels : Nat) {rules : Reader (List Filter)} {δ : Script → Option (List Filter)}
    (h : rules.Decodes δ) : FieldsDecode (fields levels rules) (decoders levels δ) :=
  .cons ⟨rfl, Reader.decodes_text.orNull.map _⟩ <|
    .cons ⟨rfl, Reader.decodes_text.orNull.map _⟩ <|
    .cons ⟨rfl, (Condition.decodes levels).orNull.map _⟩ <|
    .cons ⟨rfl, (Literal.decodes_list levels).orNull.map _⟩ <|
    .cons ⟨rfl, h.orNull.map _⟩ .nil

theorem decodes_both (levels : Nat) :
    (reader levels).Decodes (ofScript? levels) ∧ (listReader levels).Decodes (listOfScript? levels) := by
  induction levels with
  | zero =>
    constructor
    · rw [reader, ofScript?]
      exact (Json.decodes_record .node .none).map ofEntries
    · rw [listReader, listOfScript?]
      exact MayDecode.none.list
  | succ levels ih =>
    obtain ⟨node, list⟩ := ih
    constructor
    · rw [reader, ofScript?]
      exact (Json.decodes_record .node (.some (fieldsDecode levels list))).map ofEntries
    · rw [listReader, listOfScript?]
      exact (MayDecode.some node).list

/-- The reader of filters makes of every text of a script the filter that the script denotes. -/
theorem decodes (levels : Nat) : (reader levels).Decodes (ofScript? levels) := (decodes_both levels).1

theorem ofText_eq_ok_iff {text : String} {f : Filter} :
    ofText text = .ok f ↔ ∃ d : Script, d.Spans text ∧ ofScript? maxLevels d = some f := by
  rw [← (decodes maxLevels).read_eq_ok_iff, ofText, readWhole]
  cases (reader maxLevels).read text <;> simp

theorem toOption_ofText {d : Script} {text : String} (spans : d.Spans text) :
    (ofText text).toOption = ofScript? maxLevels d := by
  rw [← (decodes maxLevels).toOption_read spans, ofText, readWhole]
  cases (reader maxLevels).read text <;> rfl

end Filter

end FilterTree
