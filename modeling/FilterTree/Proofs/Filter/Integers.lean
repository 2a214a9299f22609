import FilterTree.Proofs.Filter.Respelling
import FilterTree.Proofs.Filter.Roundtrip
import FilterTree.Proofs.Json.Gap
import FilterTree.Proofs.Json.Integer
import Mathlib

/-!
# Integers in filters

* `Operand.Gap`, `Filter.Gap` : the places in the text of an operand, and of a filter, where a literal stands.
* `Literal.Placed` : literals of which one is a given number, and the others do not depend on it.
* `Operand.fills`, `Condition.fills`, `Filter.fills` : a number in such a place becomes one of the literals.
* `Filter.ofText_integer` : so an integer that fits a word is read as that word, is written as it was and is shown as it was;
  no other integer is read as a word, and every word but the small unsigned ones comes from an integer.
-/

namespace FilterTree

open Json (Number Numeral Reader Script Decoders FieldsDecode)
open Json.Script (Slot Field)

/-! ## Places of literals -/

def Literal.ofNumber : Number → Literal
  | .int n => .int n
  | .uint n => .uint n
  | .float x => .float x

theorem Literal.ofJson?_number (n : Number) : ofJson? (.number n) = some (ofNumber n) := by
  cases n <;> rfl

/-- Literals of which one is a given number, and the others do not depend on it. -/
def Literal.Placed {α : Type} (literals : α → List Literal) (G : Number → α) : Prop :=
  ∃ before after, ∀ n, literals (G n) = before ++ ofNumber n :: after

theorem Literal.Placed.around {α β : Type} {literals : α → List Literal} {G : Number → α} (h : Placed literals G)
    {literals' : β → List Literal} {G' : Number → β} (front back : List Literal)
    (same : ∀ n, literals' (G' n) = front ++ (literals (G n) ++ back)) : Placed literals' G' := by
  obtain ⟨before, after, placed⟩ := h
  refine ⟨front ++ before, after ++ back, fun n => ?_⟩
  rw [same, placed, List.append_assoc, List.append_assoc, List.cons_append]

def Condition.fieldNames : List String := ["type", "filter"]

def Filter.fieldNames : List String := ["glue", "field", "condition", "includes", "rules"]

/-- An operand with a gap for a literal: the literal alone, or an element of a list. -/
inductive Operand.Gap : (Script → Script) → Prop where
  | alone : Gap fun d => d
  | listed (ds es : List Script) : Gap fun d => .list (ds ++ d :: es)

/-- A filter with a gap for a literal: in the operand of a leaf, in its set of values, or in one of the rules of a group. A
filter with rules is no leaf. -/
inductive Filter.Gap : (Script → Script) → Prop where
  | operand {A B C : Script → Script} (node : Slot fieldNames "condition" A)
    (leaf : ∀ d e, Field fieldNames "rules" (A d) e → e = .null) (condition : Slot Condition.fieldNames "filter" B)
    (operand : Operand.Gap C) : Gap fun d => A (B (C d))
  | includes {A : Script → Script} (node : Slot fieldNames "includes" A)
    (leaf : ∀ d e, Field fieldNames "rules" (A d) e → e = .null) (ds es : List Script) :
    Gap fun d => A (.list (ds ++ d :: es))
  | rule {A C : Script → Script} (node : Slot fieldNames "rules" A) (ds es : List Script) (rule : Gap C) :
    Gap fun d => A (.list (ds ++ C d :: es))

/-! ## Numbers in these places -/

theorem Literal.fills (levels : Nat) :
    (Literal.reader levels).Fills (Literal.ofScript? levels) (fun d => d) fun G => G = ofNumber := by
  refine (Reader.fills_number levels).choose _ _ ?_
  rintro G rfl
  exact .inr ⟨ofNumber, rfl, ofJson?_number⟩

theorem Literal.fills_list (levels : Nat) (ds es : List Script) :
    (Literal.listReader levels).Fills (Literal.listOfScript? levels) (fun d => .list (ds ++ d :: es)) (Placed id) := by
  cases levels with
  | zero => exact .never fun m => rfl
  | succ levels =>
    refine ((Literal.fills levels).list (Literal.decodes levels) ds es).imp ?_
    rintro G ⟨H, vs, ws, rfl, rfl⟩
    exact ⟨vs, ws, fun n => rfl⟩

theorem Operand.fills {C : Script → Script} (gap : Gap C) (levels : Nat) :
    (Operand.reader levels).Fills (Operand.ofScript? levels) C (Literal.Placed literals) := by
  cases gap with
  | alone =>
    refine (Reader.fills_number levels).choose _ _ ?_
    rintro G rfl
    refine .inr ⟨fun n => .one (.ofNumber n), ⟨[], [], fun n => rfl⟩, fun n => ?_⟩
    show (Literal.ofJson? (.number n)).map one = _
    rw [Literal.ofJson?_number, Option.map_some]
  | listed ds es =>
    cases levels with
    | zero => exact .never fun m => rfl
    | succ levels =>
      have filled := (Reader.fills_number levels).value (Json.decodes_reader levels) ds es
      refine filled.choose _ _ ?_
      rintro G ⟨H, vs, ws, rfl, rfl⟩
      have inserts : Json.Script.Inserts (fun j => (vs ++ j :: ws).mapM Literal.ofJson?) Literal.ofJson? := .mapM _ vs ws
      rcases inserts with never | ⟨before, after, values⟩
      · refine .inl fun n => ?_
        exact congrArg (Option.map many) (never (.number n))
      · refine .inr ⟨fun n => .many (before ++ .ofNumber n :: after), ⟨before, after, fun n => rfl⟩, fun n => ?_⟩
        refine (congrArg (Option.map many) (values (.number n))).trans ?_
        rw [Literal.ofJson?_number, Option.map_some, Option.map_some]

namespace Condition

theorem fills {B C : Script → Script} (slot : Slot fieldNames "filter" B) (gap : Operand.Gap C) (levels : Nat) :
    (Condition.reader levels).Fills (ofScript? levels) (fun d => B (C d))
      (Literal.Placed fun c : Condition => c.operand.literals) := by
  cases levels with
  | zero =>
    refine .never fun m => ?_
    show ((B (C (.number m))).record? none).map ofEntries = none
    rw [Json.Script.record?_none, Option.map_none]
  | succ levels =>
    have nodup := (regular levels).nodup
    have entry := (Operand.fills gap levels).map Entry.operand
    have record := (fieldsDecode levels).fills nodup (.tail _ (.head _)) (.tail _ (.head _)) slot entry .condition
    refine (record.map ofEntries).imp ?_
    rintro _ ⟨_, ⟨_, vs, ws, ⟨H, placed, rfl⟩, rfl, d, n, read⟩, rfl⟩
    refine placed.around [] [] fun k => ?_
    have distinct := Json.Script.nodup_of_record? name_of_decoders nodup read
    have distinct' : ((vs ++ .operand (H k) :: ws).map Entry.name).Nodup := by simpa [Entry.name] using distinct
    have amount := congrArg (fun c => c.operand.literals) (ofEntries_perm List.perm_middle distinct')
    exact amount.trans (List.append_nil _).symm

end Condition

namespace Filter

variable {levels : Nat} {rules : Script → Option (List Filter)}

theorem bare_of_record? {d : Script} {vs : List Entry} (read : d.record? (some (decoders levels rules)) = some vs)
    (leaf : ∀ e, Field fieldNames "rules" d e → e = .null) : ∀ v ∈ vs, v.rules? = none := by
  intro v hv
  obtain ⟨f, hf, e, field, value⟩ := Json.Script.exists_of_mem_record? read v hv
  rcases mem_decoders hf with rfl | rfl | rfl | rfl | rfl
  case inr.inr.inr.inr =>
    obtain rfl := leaf e field
    cases value
    rfl
  all_goals
    obtain ⟨_, -, rfl⟩ := Option.map_eq_some_iff.1 value
    rfl

theorem literals_ofEntries {vs : List Entry} (bare : ∀ v ∈ vs, v.rules? = none) :
    (ofEntries vs).literals = ((vs.findSome? Entry.condition?).getD .vacant).operand.literals ++
      (vs.findSome? Entry.includes?).getD [] := by
  rw [ofEntries, List.findSome?_eq_none_iff.2 bare, literals_leaf]
  rfl

theorem ofScript?_zero (d : Script) : ofScript? 0 d = none := by
  rw [ofScript?]
  show (d.record? none).map ofEntries = none
  rw [Json.Script.record?_none, Option.map_none]

/-- A gap in a field of a filter. The field comes first, as their order does not count. -/
theorem fills_node {α : Type} {list : Reader (List Filter)} (decodes : list.Decodes rules) {name : String}
    {r : Reader α} {δ : Script → Option α} {entry : Option α → Entry}
    (here : (name, r.orNull.map entry) ∈ fields levels list)
    (field : (name, fun d => (d.orNull δ).map entry) ∈ decoders levels rules) (kind : ∀ x, (entry x).name = name)
    {A C : Script → Script} (slot : Slot fieldNames name A) {P : (Number → α) → Prop} (value : r.Fills δ C P)
    (given : ∀ m, C (.number m) ≠ .null) :
    ((Reader.record .node (some (fields levels list))).map ofEntries).Fills
      (fun d => (d.record? (some (decoders levels rules))).map ofEntries) (fun d => A (C d)) fun G =>
        ∃ H us, P H ∧ (∀ k, G k = ofEntries (entry (some (H k)) :: us)) ∧
          ((∀ d e, Field fieldNames "rules" (A d) e → e = .null) → ∀ u ∈ us, u.rules? = none) := by
  have nodup := (regular levels rules).nodup
  have record := (fieldsDecode levels decodes).fills nodup here field slot ((value.orNull given).map entry) .node
  refine (record.map ofEntries).imp ?_
  rintro _ ⟨_, ⟨_, vs, ws, ⟨_, ⟨H, property, rfl⟩, rfl⟩, rfl, d, n, read⟩, rfl⟩
  have distinct := Json.Script.nodup_of_record? name_of_decoders nodup read
  refine ⟨H, vs ++ ws, property, fun k => ?_, fun leaf u hu => ?_⟩
  · refine ofEntries_perm List.perm_middle ?_
    simpa only [List.map_append, List.map_cons, kind] using distinct
  · have bare := bare_of_record? read (leaf (C d))
    refine bare u ?_
    rcases List.mem_append.1 hu with hu | hu
    · exact List.mem_append_left _ hu
    · exact List.mem_append_right _ (List.mem_cons_of_mem _ hu)

theorem fills_operand {A B C : Script → Script} (node : Slot fieldNames "condition" A)
    (leaf : ∀ d e, Field fieldNames "rules" (A d) e → e = .null) (condition : Slot Condition.fieldNames "filter" B)
    (operand : Operand.Gap C) (levels : Nat) :
    (reader (levels + 1)).Fills (ofScript? (levels + 1)) (fun d => A (B (C d))) (Literal.Placed literals) := by
  rw [reader, ofScript?]
  have value := Condition.fills condition operand levels
  refine (fills_node (decodes_both levels).2 (.tail _ (.tail _ (.head _))) (.tail _ (.tail _ (.head _))) (fun x => rfl)
    node value fun m => condition.ne_null _).imp ?_
  rintro G ⟨H, us, placed, amount, bare⟩
  refine placed.around [] ((us.findSome? Entry.includes?).getD []) fun k => ?_
  rw [amount k, literals_ofEntries (List.forall_mem_cons.2 ⟨rfl, bare leaf⟩)]
  rfl

theorem fills_includes {A : Script → Script} (node : Slot fieldNames "includes" A)
    (leaf : ∀ d e, Field fieldNames "rules" (A d) e → e = .null) (ds es : List Script) (levels : Nat) :
    (reader (levels + 1)).Fills (ofScript? (levels + 1)) (fun d => A (.list (ds ++ d :: es))) (Literal.Placed literals) := by
  rw [reader, ofScript?]
  have value := Literal.fills_list levels ds es
  refine (fills_node (decodes_both levels).2 (.tail _ (.tail _ (.tail _ (.head _)))) (.tail _ (.tail _ (.tail _ (.head _))))
    (fun x => rfl) node value fun m eq => by cases eq).imp ?_
  rintro G ⟨H, us, placed, amount, bare⟩
  refine placed.around ((us.findSome? Entry.condition?).getD .vacant).operand.literals [] fun k => ?_
  rw [amount k, literals_ofEntries (List.forall_mem_cons.2 ⟨rfl, bare leaf⟩), List.append_nil]
  rfl

theorem fills_rule {A C : Script → Script} (node : Slot fieldNames "rules" A) (ds es : List Script)
    (rule : ∀ levels, (reader levels).Fills (ofScript? levels) C (Literal.Placed literals)) (levels : Nat) :
    (reader (levels + 1)).Fills (ofScript? (levels + 1)) (fun d => A (.list (ds ++ C d :: es)))
      (Literal.Placed literals) := by
  have value : (listReader levels).Fills (listOfScript? levels) (fun d => .list (ds ++ C d :: es))
      (Literal.Placed (List.flatMap literals)) := by
    cases levels with
    | zero =>
      rw [listReader, listOfScript?]
      exact .never fun m => rfl
    | succ levels =>
      rw [listReader, listOfScript?]
      refine ((rule levels).list (decodes levels) ds es).imp ?_
      rintro G ⟨H, vs, ws, placed, rfl⟩
      refine placed.around (vs.flatMap literals) (ws.flatMap literals) fun k => ?_
      rw [List.flatMap_append, List.flatMap_cons]
  rw [reader, ofScript?]
  refine (fills_node (decodes_both levels).2 (.tail _ (.tail _ (.tail _ (.tail _ (.head _)))))
    (.tail _ (.tail _ (.tail _ (.tail _ (.head _))))) (fun x => rfl) node value fun m eq => by cases eq).imp ?_
  rintro G ⟨H, us, placed, amount, -⟩
  refine placed.around [] [] fun k => ?_
  rw [amount k, List.append_nil]
  exact literals_group _ (H k)

theorem fills {C : Script → Script} (gap : Gap C) (levels : Nat) :
    (reader levels).Fills (ofScript? levels) C (Literal.Placed literals) := by
  induction gap generalizing levels with
  | operand node leaf condition operand =>
    cases levels with
    | zero => exact .never fun m => ofScript?_zero _
    | succ levels => exact fills_operand node leaf condition operand levels
  | includes node leaf ds es =>
    cases levels with
    | zero => exact .never fun m => ofScript?_zero _
    | succ levels => exact fills_includes node leaf ds es levels
  | rule node ds es _ ih =>
    cases levels with
    | zero => exact .never fun m => ofScript?_zero _
    | succ levels => exact fills_rule node ds es ih levels

end Filter

/-! ## Unsigned words -/

theorem le_of_json? {levels : Nat} {d : Script} {n : UInt64} (h : d.json? levels = some (.number (.uint n))) :
    2 ^ 63 ≤ n.toNat := by
  obtain ⟨m, -, number⟩ := Json.Script.number_of_json? h
  exact Numeral.signedBound_le_of_number number

theorem Literal.le_of_ofScript? {levels : Nat} {d : Script} {n : UInt64} (h : ofScript? levels d = some (.uint n)) :
    2 ^ 63 ≤ n.toNat := by
  obtain ⟨j, value, eq⟩ := Option.bind_eq_some_iff.1 h
  obtain rfl := toJson_of_ofJson? eq
  exact le_of_json? value

theorem Operand.le_of_ofScript? {levels : Nat} {d : Script} {x : Operand} (h : ofScript? levels d = some x) {n : UInt64}
    (hn : .uint n ∈ x.literals) : 2 ^ 63 ≤ n.toNat := by
  obtain ⟨j, value, eq⟩ := Option.bind_eq_some_iff.1 h
  obtain rfl := toJson_of_ofJson? eq
  cases x with
  | one v =>
    obtain rfl := List.mem_singleton.1 hn
    exact le_of_json? value
  | many vs =>
    obtain ⟨inner, ds, -, values⟩ := Json.Script.list_of_json? value
    obtain ⟨e, -, element⟩ := Json.exists_of_mem_mapM values _ (List.mem_map_of_mem hn)
    exact le_of_json? element

namespace Filter

/-- The unsigned words in a filter that has been read are no signed words. -/
theorem le_of_ofScript? {levels : Nat} {d : Script} {f : Filter} (h : ofScript? levels d = some f) {n : UInt64}
    (hn : .uint n ∈ f.literals) : 2 ^ 63 ≤ n.toNat := by
  -- A rule has two levels of brackets less than its group.
  induction levels using Nat.strongRecOn generalizing d f with
  | _ levels ih =>
    cases levels with
    | zero =>
      rw [ofScript?_zero] at h
      cases h
    | succ levels =>
      rcases ofScript?_cases h with ⟨glue, fs, e, rfl, rules⟩ | ⟨l, rfl, condition, includes⟩
      · obtain ⟨r, hr, hn⟩ := List.mem_flatMap.1 (literals_group glue fs ▸ hn)
        rw [listOfScript?.eq_def] at rules
        cases levels with
        | zero => cases e <;> cases rules
        | succ inner =>
          cases e with
          | list ds =>
            obtain ⟨e, -, rule⟩ := Json.exists_of_mem_mapM rules r hr
            exact ih inner (by omega) rule hn
          | _ => cases rules
      · rw [literals_leaf] at hn
        rcases List.mem_append.1 hn with hn | hn
        · rcases condition with vacant | ⟨e, value⟩
          · rw [vacant] at hn
            cases List.mem_singleton.1 hn
          · obtain ⟨inner, -, absent | ⟨e, operand⟩⟩ := Condition.ofScript?_cases value
            · rw [absent] at hn
              cases List.mem_singleton.1 hn
            · exact Operand.le_of_ofScript? operand hn
        · rcases includes with empty | ⟨e, value⟩
          · rw [empty] at hn
            cases hn
          · cases levels with
            | zero => cases e <;> cases value
            | succ levels =>
              cases e with
              | list ds =>
                obtain ⟨e, -, literal⟩ := Json.exists_of_mem_mapM value _ hn
                exact Literal.le_of_ofScript? literal
              | _ => cases value

end Filter

/-! ## Texts -/

/-- The text of a word is read back, but for the unsigned words that are signed words as well. -/
theorem Literal.ofText_compact {v : Literal} (word : (∃ n, v = .int n) ∨ ∃ n, v = .uint n ∧ 2 ^ 63 ≤ n.toNat) :
    ofText (String.ofList v.toJson.compact) = .ok v := by
  obtain ⟨n, number, m, written, value⟩ : ∃ n, v = ofNumber n ∧ ∃ m : Numeral, m.Written n.chars ∧ m.number = .ok n := by
    rcases word with ⟨n, rfl⟩ | ⟨n, rfl, large⟩
    · exact ⟨.int n, rfl, Numeral.exists_written_int n⟩
    · exact ⟨.uint n, rfl, Numeral.exists_written_uint large⟩
  have compact : v.toJson.compact = n.chars := by
    rw [number]
    cases n <;> rfl
  have spans : Script.Spans (.number m) (String.ofList n.chars) :=
    ⟨[], n.chars, [], Json.blank_nil, .number written, Json.blank_nil, by simp⟩
  have denoted : ofScript? maxLevels (.number m) = some v := by
    show (m.number.toOption.map Json.number).bind ofJson? = _
    rw [value, number]
    exact ofJson?_number n
  have read := (Literal.decodes maxLevels).read_eq_ok_iff.2 ⟨_, spans, denoted⟩
  rw [compact, ofText, readWhole, read]

namespace Filter

theorem exists_error_of_ofScript? {d : Script} {text : String} (spans : d.Spans text) (none : ofScript? maxLevels d = none) :
    ∃ e, ofText text = .error e :=
  Json.eq_error_of_toOption ((toOption_ofText spans).trans none)

end Filter

end FilterTree
