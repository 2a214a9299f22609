import FilterTree.Compile
import FilterTree.Filter.Wire
import FilterTree.Proofs.Filter.Decoders
import FilterTree.Proofs.Json.Readback
import FilterTree.Proofs.Layout
import Mathlib

/-!
# Filters through their texts

* `Filter.wire_normal`, `Filter.depth_normal`, `Filter.compile_normal` : a filter in normal form has the same text, the same depth
  and the same clauses.
* `Filter.normal_eq_self_iff` : a filter is in normal form just when the leaves without operator have no operand.
* `Filter.literals` : the literals of all leaves.
* `Condition.ofScript?_cases`, `Filter.ofScript?_cases` : what a condition or a filter that has been read consists of.
* `Literal.recovers`, `Operand.recovers`, `Condition.recovers`, `Filter.recovers` : what has been read within some levels of
  brackets, and has no doubles, is read back from its JSON value within these levels. A filter comes back in normal form.
* `Filter.ofText_wire` : the text of a filter that has been read.
-/

namespace FilterTree

/-! ## What the normal form keeps -/

namespace Condition

theorem isEmpty_operator_normal (c : Condition) : c.normal.operator.isEmpty = c.operator.isEmpty := by
  unfold normal
  by_cases vacant : c.operator.isEmpty = true
  · rw [if_pos vacant, vacant]
    rfl
  · rw [if_neg vacant]

theorem normal_of_ne {c : Condition} (h : c.operator ≠ "") : c.normal = c :=
  if_neg (by simpa using h)

theorem normal_eq_self_iff {c : Condition} : c.normal = c ↔ (c.operator = "" → c.operand = .absent) := by
  obtain ⟨operator, operand⟩ := c
  constructor
  · rintro normal rfl
    exact (congrArg Condition.operand normal).symm
  · intro h
    by_cases vacant : operator = ""
    · rw [vacant, show operand = .absent from h vacant]
      rfl
    · exact normal_of_ne vacant

theorem compile_normal (x : Condition) (field : String) (c : Catalog) : x.normal.compile field c = x.compile field c := by
  by_cases vacant : x.operator.isEmpty = true
  · rw [compile, compile, if_pos vacant, if_pos (by rw [isEmpty_operator_normal, vacant])]
  · rw [normal_of_ne (by simpa using vacant)]

end Condition

namespace Leaf

theorem members_normal (l : Leaf) : l.normal.members = l.members := by
  rw [members, members, normal, Condition.isEmpty_operator_normal]
  by_cases vacant : l.condition.operator.isEmpty = true
  · rw [if_pos vacant, if_pos vacant]
  · rw [Condition.normal_of_ne (by simpa using vacant)]

theorem compile_normal (l : Leaf) (c : Catalog) : l.normal.compile c = l.compile c := by
  have degenerate : l.normal.isDegenerate = l.isDegenerate := by
    rw [isDegenerate, isDegenerate, normal, Condition.isEmpty_operator_normal]
  rw [compile, compile, degenerate]
  simp only [normal, Condition.compile_normal]

theorem normal_eq_self_iff {l : Leaf} : l.normal = l ↔ (l.condition.operator = "" → l.condition.operand = .absent) := by
  rw [← Condition.normal_eq_self_iff]
  constructor
  · exact congrArg Leaf.condition
  · intro h
    rw [normal, h]

end Leaf

namespace Filter

theorem toJsonAll_eq_map (fs : List Filter) : toJsonAll fs = fs.map toJson := by
  induction fs with
  | nil => rfl
  | cons f fs ih => rw [toJsonAll, ih, List.map_cons]

theorem normalAll_eq_map (fs : List Filter) : normalAll fs = fs.map normal := by
  induction fs with
  | nil => rfl
  | cons f fs ih => rw [normalAll, ih, List.map_cons]

theorem toJson_normal (f : Filter) : f.normal.toJson = f.toJson := by
  induction f using Filter.induction with
  | leaf l => rw [normal, toJson, toJson, Leaf.members_normal]
  | group glue rules ih =>
    have same : toJsonAll (normalAll rules) = toJsonAll rules := by
      rw [toJsonAll_eq_map, toJsonAll_eq_map, normalAll_eq_map, List.map_map]
      exact List.map_congr_left ih
    rw [normal, toJson, toJson, same]

theorem wire_normal (f : Filter) : f.normal.wire = f.wire := by
  rw [wire, wire, toJson_normal]

theorem depth_normal (f : Filter) : f.normal.depth = f.depth := by
  induction f using Filter.induction with
  | leaf l => rfl
  | group glue rules ih =>
    rw [normal, depth, depth]
    congr 1
    induction rules with
    | nil => rfl
    | cons r rules ih' =>
      rw [normalAll, depthAll_cons, depthAll_cons, ih r List.mem_cons_self]
      rw [ih' fun r hr => ih r (List.mem_cons_of_mem _ hr)]

theorem compile_normal (f : Filter) (c : Catalog) : f.normal.compile c = f.compile c := by
  induction f using Filter.induction with
  | leaf l => exact l.compile_normal c
  | group glue rules ih =>
    have same : compileAll c (normalAll rules) = compileAll c rules := by
      induction rules with
      | nil => rfl
      | cons r rules ih' =>
        rw [normalAll, compileAll, compileAll, ih r List.mem_cons_self]
        rw [ih' fun r hr => ih r (List.mem_cons_of_mem _ hr)]
    rw [normal, compile, compile, same]

theorem normal_eq_self_iff {f : Filter} :
    f.normal = f ↔ ∀ l ∈ f.leaves, l.condition.operator = "" → l.condition.operand = .absent := by
  induction f using Filter.induction with
  | leaf l =>
    simp only [normal, leaves, List.mem_singleton, forall_eq, leaf.injEq, Leaf.normal_eq_self_iff]
  | group glue rules ih =>
    have list : normalAll rules = rules.map id ↔ ∀ r ∈ rules, r.normal = id r := by
      rw [normalAll_eq_map, List.map_inj_left]
    rw [List.map_id] at list
    rw [normal, group.injEq]
    simp only [true_and, list, id_eq]
    constructor
    · intro same l hl
      obtain ⟨r, hr, hl⟩ := mem_leavesAll.1 hl
      exact (ih r hr).1 (same r hr) l hl
    · intro idle r hr
      exact (ih r hr).2 fun l hl => idle l (mem_leaves_of_mem hr hl)

end Filter

open Json (Script Recovers RecoversField)

/-! ## Literals without doubles -/

def Literal.IsFloat : Literal → Prop
  | .float _ => True
  | _ => False

def Operand.literals : Operand → List Literal
  | .one v => [v]
  | .many vs => vs

/-- The literals in a leaf, those of its condition first. -/
def Leaf.literals (l : Leaf) : List Literal := l.condition.operand.literals ++ l.includes

/-- The literals of all leaves. -/
def Filter.literals (f : Filter) : List Literal := f.leaves.flatMap Leaf.literals

@[simp] theorem Filter.literals_leaf (l : Leaf) : (leaf l).literals = l.literals := by
  rw [literals, leaves, List.flatMap_singleton]

theorem Filter.literals_group (glue : Glue) (fs : List Filter) : (group glue fs).literals = fs.flatMap literals := by
  induction fs with
  | nil => rfl
  | cons f fs ih =>
    rw [List.flatMap_cons, ← ih]
    exact List.flatMap_append

theorem Filter.mem_literals_of_mem {glue : Glue} {rules : List Filter} {r : Filter} {v : Literal} (hr : r ∈ rules)
    (hv : v ∈ r.literals) : v ∈ (group glue rules).literals := by
  rw [literals_group]
  exact List.mem_flatMap.2 ⟨r, hr, hv⟩

theorem Literal.exact_toJson {v : Literal} (h : ¬v.IsFloat) : v.toJson.Exact := by
  cases v with
  | null => exact .null
  | bool b => exact .bool b
  | int n => exact .number nofun
  | uint n => exact .number nofun
  | float x => exact absurd trivial h
  | text s => exact .text s

theorem Operand.exact_toJson {x : Operand} (h : ∀ v ∈ x.literals, ¬v.IsFloat) : x.toJson.Exact := by
  cases x with
  | one v => exact Literal.exact_toJson (h v List.mem_cons_self)
  | many vs =>
    refine .list ?_
    intro j hj
    obtain ⟨v, hv, rfl⟩ := List.mem_map.1 hj
    exact Literal.exact_toJson (h v hv)

theorem Literal.map_toJson_of_ofJson? {js : List Json} {vs : List Literal} (h : js.mapM ofJson? = some vs) :
    vs.map toJson = js := by
  induction js generalizing vs with
  | nil =>
    cases h
    rfl
  | cons j js ih =>
    rw [List.mapM_cons] at h
    obtain ⟨v, value, rest⟩ := Option.bind_eq_some_iff.1 h
    obtain ⟨us, values, eq⟩ := Option.bind_eq_some_iff.1 rest
    cases eq
    rw [List.map_cons, toJson_of_ofJson? value, ih values]

theorem Operand.toJson_of_ofJson? {j : Json} {x : Operand} (h : ofJson? j = some x) : x.toJson = j := by
  unfold ofJson? at h
  split at h
  · obtain ⟨vs, values, rfl⟩ := Option.map_eq_some_iff.1 h
    rw [toJson, Literal.map_toJson_of_ofJson? values]
  · obtain ⟨v, value, rfl⟩ := Option.map_eq_some_iff.1 h
    exact Literal.toJson_of_ofJson? value

/-! ## Reading back -/

theorem Literal.recovers {levels : Nat} {d : Script} {v : Literal} (h : ofScript? levels d = some v) (noFloat : ¬v.IsFloat) :
    Recovers (ofScript? levels) v.toJson v := by
  obtain ⟨j, value, eq⟩ := Option.bind_eq_some_iff.1 h
  have same := toJson_of_ofJson? eq
  rw [← same] at value
  exact (Json.recovers_json value (exact_toJson noFloat)).bind (ofJson?_toJson v)

theorem Literal.recovers_list {levels : Nat} {d : Script} {vs : List Literal} (h : listOfScript? levels d = some vs)
    (noFloat : ∀ v ∈ vs, ¬v.IsFloat) : Recovers (listOfScript? levels) (.list (vs.map toJson)) vs := by
  cases levels with
  | zero => cases d <;> cases h
  | succ levels =>
    cases d with
    | list ds =>
      have each : List.Forall₂ (Recovers (ofScript? levels)) (vs.map toJson) vs := by
        rw [List.forall₂_map_left_iff, List.forall₂_same]
        intro v hv
        obtain ⟨d, -, value⟩ := Json.exists_of_mem_mapM h v hv
        exact recovers value (noFloat v hv)
      exact Recovers.list each
    | _ => cases h

theorem Operand.recovers {levels : Nat} {d : Script} {x : Operand} (h : ofScript? levels d = some x)
    (noFloat : ∀ v ∈ x.literals, ¬v.IsFloat) : Recovers (ofScript? levels) x.toJson x := by
  obtain ⟨j, value, eq⟩ := Option.bind_eq_some_iff.1 h
  obtain rfl := toJson_of_ofJson? eq
  exact (Json.recovers_json value (exact_toJson noFloat)).bind eq

theorem Operand.recovers_absent (levels : Nat) : Recovers (ofScript? levels) absent.toJson absent :=
  ⟨.null, .null, ofScript?_null levels⟩

namespace Condition

/-- A condition that has been read took a level of brackets, and its operand has been read inside them if there is any. -/
theorem ofScript?_cases {levels : Nat} {d : Script} {c : Condition} (h : ofScript? levels d = some c) :
    ∃ inner, levels = inner + 1 ∧ (c.operand = .absent ∨ ∃ e, Operand.ofScript? inner e = some c.operand) := by
  cases levels with
  | zero =>
    obtain ⟨vs, read, -⟩ := Option.map_eq_some_iff.1 h
    rw [Script.record?_none] at read
    cases read
  | succ inner =>
    obtain ⟨vs, read, rfl⟩ := Option.map_eq_some_iff.1 h
    refine ⟨inner, rfl, ?_⟩
    rw [ofEntries]
    cases given : vs.findSome? Entry.operand? with
    | none => exact .inl rfl
    | some x =>
      obtain ⟨v, hv, entry⟩ := List.exists_of_findSome?_eq_some given
      obtain ⟨f, hf, e, -, value⟩ := Script.exists_of_mem_record? read v hv
      rcases mem_decoders hf with rfl | rfl
      · obtain ⟨_, -, rfl⟩ := Option.map_eq_some_iff.1 value
        cases entry
      · obtain ⟨_, found, rfl⟩ := Option.map_eq_some_iff.1 value
        cases entry
        exact .inr ⟨e, found⟩

theorem recovers {levels : Nat} {d : Script} {c : Condition} (h : ofScript? levels d = some c)
    (noFloat : ∀ v ∈ c.operand.literals, ¬v.IsFloat) : Recovers (ofScript? levels) c.toJson c := by
  obtain ⟨inner, rfl, origin⟩ := ofScript?_cases h
  have operand : Recovers (Operand.ofScript? inner) c.operand.toJson c.operand := by
    rcases origin with absent | ⟨e, value⟩
    · rw [absent]
      exact Operand.recovers_absent inner
    · exact Operand.recovers value noFloat
  have fields : List.Forall₂ (RecoversField (decoders inner))
      [("type", .text c.operator), ("filter", c.operand.toJson)] [.operator (some c.operator), .operand c.operand] :=
    .cons ⟨_, rfl, ((Recovers.text c.operator).orNull rfl).map _⟩ (.cons ⟨_, rfl, operand.map _⟩ .nil)
  have nodup : ["type", "filter"].Nodup := by decide
  exact (Recovers.record fields nodup).map ofEntries

end Condition

namespace Filter

variable {levels : Nat} {rules : Script → Option (List Filter)}

/-- What an entry holds has been read from a script. -/
def Entry.From (levels : Nat) (rules : Script → Option (List Filter)) (e : Script) : Entry → Prop
  | .condition (some x) => Condition.ofScript? levels e = some x
  | .includes (some vs) => Literal.listOfScript? levels e = some vs
  | .rules (some fs) => rules e = some fs
  | _ => True

theorem from_of_record? {d : Script} {vs : List Entry} (h : d.record? (some (decoders levels rules)) = some vs) :
    ∀ v ∈ vs, ∃ e, v.From levels rules e := by
  intro v hv
  obtain ⟨f, hf, e, -, value⟩ := Script.exists_of_mem_record? h v hv
  refine ⟨e, ?_⟩
  rcases mem_decoders hf with rfl | rfl | rfl | rfl | rfl
  all_goals
    obtain ⟨held, read, rfl⟩ := Option.map_eq_some_iff.1 value
    cases held
  all_goals first | trivial | exact Script.of_orNull read

/-- A filter that has been read is a group of rules that have been read, or a leaf whose condition and set of values have
been read if there are any. -/
theorem ofScript?_cases {d : Script} {f : Filter} (h : ofScript? (levels + 1) d = some f) :
    (∃ glue fs e, f = .group glue fs ∧ listOfScript? levels e = some fs) ∨
    ∃ l, f = .leaf l ∧ (l.condition = .vacant ∨ ∃ e, Condition.ofScript? levels e = some l.condition) ∧
      (l.includes = [] ∨ ∃ e, Literal.listOfScript? levels e = some l.includes) := by
  rw [ofScript?] at h
  obtain ⟨vs, read, rfl⟩ := Option.map_eq_some_iff.1 h
  have origin := from_of_record? read
  rw [ofEntries]
  cases given : vs.findSome? Entry.rules? with
  | some fs =>
    obtain ⟨v, hv, entry⟩ := List.exists_of_findSome?_eq_some given
    obtain ⟨e, found⟩ := origin v hv
    cases v <;> cases entry
    exact .inl ⟨_, fs, e, rfl, found⟩
  | none =>
    refine .inr ⟨_, rfl, ?_, ?_⟩
    · cases held : vs.findSome? Entry.condition? with
      | none => exact .inl rfl
      | some x =>
        obtain ⟨v, hv, entry⟩ := List.exists_of_findSome?_eq_some held
        obtain ⟨e, found⟩ := origin v hv
        cases v <;> cases entry
        exact .inr ⟨e, found⟩
    · cases held : vs.findSome? Entry.includes? with
      | none => exact .inl rfl
      | some us =>
        obtain ⟨v, hv, entry⟩ := List.exists_of_findSome?_eq_some held
        obtain ⟨e, found⟩ := origin v hv
        cases v <;> cases entry
        exact .inr ⟨e, found⟩

theorem listOfScript?_null (levels : Nat) : listOfScript? levels .null = none := by
  cases levels <;> rw [listOfScript?] <;> rfl

theorem recovers_group {fs : List Filter} (glue : Glue) (list : Recovers rules (.list (toJsonAll fs)) (normalAll fs))
    (null : rules .null = none) :
    Recovers (fun d => (d.record? (some (decoders levels rules))).map ofEntries) (group glue fs).toJson
      (group glue fs).normal := by
  have fields : List.Forall₂ (RecoversField (decoders levels rules))
      [("glue", .text glue.keyword), ("rules", .list (toJsonAll fs))] [.glue (some glue.keyword), .rules (some (normalAll fs))] :=
    .cons ⟨_, rfl, ((Recovers.text glue.keyword).orNull rfl).map _⟩ (.cons ⟨_, rfl, (list.orNull null).map _⟩ .nil)
  have nodup : ["glue", "rules"].Nodup := by decide
  have amount : (group glue fs).normal = ofEntries [.glue (some glue.keyword), .rules (some (normalAll fs))] := by
    show group glue (normalAll fs) = group (.ofKeyword glue.keyword) (normalAll fs)
    rw [Glue.ofKeyword_keyword]
  rw [amount, toJson]
  exact (Recovers.record fields nodup).map ofEntries

theorem nodup_members (l : Leaf) : (l.members.map Prod.fst).Nodup := by
  unfold Leaf.members
  split <;> split <;> simp

theorem recovers_leaf {l : Leaf}
    (condition : l.condition.operator ≠ "" → Recovers (Condition.ofScript? levels) l.condition.toJson l.condition)
    (includes : l.includes ≠ [] → Recovers (Literal.listOfScript? levels) (.list (l.includes.map Literal.toJson)) l.includes) :
    Recovers (fun d => (d.record? (some (decoders levels rules))).map ofEntries) (leaf l).toJson (leaf l).normal := by
  have field : List.Forall₂ (RecoversField (decoders levels rules)) [("field", .text l.field)] [.field (some l.field)] :=
    .cons ⟨_, rfl, ((Recovers.text l.field).orNull rfl).map _⟩ .nil
  have noCondition : Condition.ofScript? levels .null = none := by cases levels <;> rfl
  have second : List.Forall₂ (RecoversField (decoders levels rules))
      (if l.condition.operator.isEmpty then [] else [("condition", l.condition.toJson)])
      (if l.condition.operator.isEmpty then [] else [.condition (some l.condition)]) :=
    RecoversField.unless fun given => ⟨_, rfl, ((condition (by simpa using given)).orNull noCondition).map _⟩
  have noIncludes : Literal.listOfScript? levels .null = none := by cases levels <;> rfl
  have third : List.Forall₂ (RecoversField (decoders levels rules))
      (if l.includes.isEmpty then [] else [("includes", .list (l.includes.map Literal.toJson))])
      (if l.includes.isEmpty then [] else [.includes (some l.includes)]) :=
    RecoversField.unless fun given => ⟨_, rfl, ((includes (by simpa using given)).orNull noIncludes).map _⟩
  have amount : (leaf l).normal = ofEntries ([.field (some l.field)] ++
      (if l.condition.operator.isEmpty then [] else [.condition (some l.condition)]) ++
      (if l.includes.isEmpty then [] else [.includes (some l.includes)])) := by
    obtain ⟨field, c, vs⟩ := l
    rw [normal, Leaf.normal, Condition.normal]
    by_cases vacant : c.operator.isEmpty = true
    · rw [if_pos vacant, if_pos vacant]
      cases vs <;> rfl
    · rw [if_neg vacant, if_neg vacant]
      cases vs <;> rfl
  rw [amount, toJson]
  exact (Recovers.record (List.rel_append (List.rel_append field second) third) (nodup_members l)).map ofEntries

theorem recovers_both (levels : Nat) :
    (∀ d f, ofScript? levels d = some f → (∀ v ∈ f.literals, ¬v.IsFloat) → Recovers (ofScript? levels) f.toJson f.normal) ∧
    ∀ d fs, listOfScript? levels d = some fs → (∀ f ∈ fs, ∀ v ∈ f.literals, ¬v.IsFloat) →
      Recovers (listOfScript? levels) (.list (toJsonAll fs)) (normalAll fs) := by
  induction levels with
  | zero =>
    constructor
    · intro d f h
      rw [ofScript?] at h
      obtain ⟨vs, read, -⟩ := Option.map_eq_some_iff.1 h
      rw [Script.record?_none] at read
      cases read
    · intro d fs h
      rw [listOfScript?] at h
      cases d <;> cases h
  | succ levels ih =>
    obtain ⟨node, list⟩ := ih
    constructor
    · intro d f h noFloat
      rcases ofScript?_cases h with ⟨glue, fs, e, rfl, value⟩ | ⟨l, rfl, condition, includes⟩
      · rw [ofScript?]
        refine recovers_group glue (list e fs value ?_) (listOfScript?_null levels)
        intro f hf v hv
        exact noFloat v (mem_literals_of_mem hf hv)
      · simp only [literals_leaf, Leaf.literals, List.mem_append] at noFloat
        rw [ofScript?]
        refine recovers_leaf ?_ ?_
        · intro named
          rcases condition with vacant | ⟨e, value⟩
          · rw [vacant] at named
            exact absurd rfl named
          · exact Condition.recovers value fun v hv => noFloat v (.inl hv)
        · intro nonempty
          rcases includes with empty | ⟨e, value⟩
          · exact absurd empty nonempty
          · exact Literal.recovers_list value fun v hv => noFloat v (.inr hv)
    · intro d fs h noFloat
      rw [listOfScript?] at h ⊢
      cases d with
      | list ds =>
        have each : List.Forall₂ (Recovers (ofScript? levels)) (toJsonAll fs) (normalAll fs) := by
          rw [toJsonAll_eq_map, normalAll_eq_map, List.forall₂_map_left_iff, List.forall₂_map_right_iff, List.forall₂_same]
          intro f hf
          obtain ⟨e, -, value⟩ := Json.exists_of_mem_mapM h f hf
          exact node e f value (noFloat f hf)
        exact Recovers.list each
      | _ => cases h

theorem recovers {d : Script} {f : Filter} (h : ofScript? levels d = some f) (noFloat : ∀ v ∈ f.literals, ¬v.IsFloat) :
    Recovers (ofScript? levels) f.toJson f.normal :=
  (recovers_both levels).1 d f h noFloat

/-- A filter without doubles that a text denotes is denoted by its own text, too, up to the operands of conditions without
operator; the levels of brackets that a text may have are enough for it. The filter without these operands has the same text,
the same depth and the same clauses. -/
theorem ofText_wire {s : String} {f : Filter} (h : ofText s = .ok f) :
    ((∀ v ∈ f.literals, ¬v.IsFloat) → ofText f.wire = .ok f.normal ∧
      (ofText f.wire = .ok f ↔ ∀ l ∈ f.leaves, l.condition.operator = "" → l.condition.operand = .absent)) ∧
    f.normal.wire = f.wire ∧ f.normal.depth = f.depth ∧ ∀ c, f.normal.compile c = f.compile c := by
  refine ⟨?_, f.wire_normal, f.depth_normal, f.compile_normal⟩
  intro noFloat
  obtain ⟨d, -, value⟩ := ofText_eq_ok_iff.1 h
  obtain ⟨e, written, back⟩ := recovers value noFloat
  have spans : e.Spans f.wire := ⟨[], f.toJson.compact, [], Json.blank_nil, written, Json.blank_nil, by simp [wire]⟩
  have again : ofText f.wire = .ok f.normal := ofText_eq_ok_iff.2 ⟨e, spans, back⟩
  refine ⟨again, ?_⟩
  rw [again, Except.ok.injEq]
  exact normal_eq_self_iff

/-- The text of a leaf with an operand and no operator, and what is left of it. -/
theorem ofText_wire_idle :
    ofText "\x7b\"field\":\"a\",\"condition\":\x7b\"filter\":1\x7d\x7d" = .ok (test "a" ⟨"", .one (.int 1)⟩) ∧
    ofText "\x7b\"field\":\"a\"\x7d" = .ok (test "a" .vacant) := by
  have blank := Json.blank_nil
  have quoted : ∀ s ∈ ["field", "a", "condition", "filter"], Json.WellQuoted s.toList := by
    intro s hs
    have plain : ∀ s ∈ ["field", "a", "condition", "filter"], Json.PlainText s := by decide
    exact (Json.textWritten_plain (plain s hs)).wellQuoted
  have condition : Script.Written (.object [("filter".toList, .number (.ofDigits false 1))]) "\x7b\"filter\":1\x7d".toList :=
    .object (.cons (.first blank) (quoted "filter" (by decide)) blank blank (.number (Json.Numeral.written_ofDigits .plus 1))
      (.nil blank))
  have spans : Script.Spans (.object [("field".toList, .text "a".toList),
      ("condition".toList, .object [("filter".toList, .number (.ofDigits false 1))])])
      "\x7b\"field\":\"a\",\"condition\":\x7b\"filter\":1\x7d\x7d" :=
    ⟨[], _, [], blank, .object (.cons (.first blank) (quoted "field" (by decide)) blank blank (.text (quoted "a" (by decide)))
      (.cons (.more blank blank) (quoted "condition" (by decide)) blank blank condition (.nil blank))), blank, by decide⟩
  have denoted : ofText "\x7b\"field\":\"a\",\"condition\":\x7b\"filter\":1\x7d\x7d" = .ok (test "a" ⟨"", .one (.int 1)⟩) :=
    ofText_eq_ok_iff.2 ⟨_, spans, by cbv⟩
  have noFloat : ∀ v ∈ (test "a" ⟨"", .one (.int 1)⟩).literals, ¬v.IsFloat := by
    intro v hv
    rw [test, literals_leaf] at hv
    rw [List.mem_singleton.1 hv]
    exact id
  exact ⟨denoted, ((ofText_wire denoted).1 noFloat).1⟩

end Filter

end FilterTree
