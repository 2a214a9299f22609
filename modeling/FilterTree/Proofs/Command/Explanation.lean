import FilterTree.Proofs.Command.Run
import FilterTree.Proofs.Filter.Respelling
import FilterTree.Proofs.Filter.Roundtrip
import FilterTree.Proofs.Printed

/-!
# Printed explanations

* `Resorts` : the text of a value, and that of the value with all members in order, are spellings of the same.
* `Resorts.list`, `Resorts.object` : this holds of a list of nodes and of a record if it holds of what stands inside.
* `Filter.resorts` : it holds of every filter.
* `Filter.exists_renders_sorted` : a filter that a text denotes is denoted by its text in order, too, up to the operands that have
  no operator.
* `sorted_explanation` : an explanation has the clause before the filter.
* `exists_around_prettyMember` : what is printed of an object holds the text of each of its values.
* `Command.run_explained` : what is printed for a filter that is explained as JSON. Its filter is read back, and has its clause.
-/

namespace FilterTree

open Json Json.Script

/-! ## Changes inside brackets -/

theorem eqvGen_map {α β : Type} {r : α → α → Prop} {s : β → β → Prop} (f : α → β)
    (step : ∀ a b, r a b → s (f a) (f b)) {a b : α} (h : Relation.EqvGen r a b) : Relation.EqvGen s (f a) (f b) := by
  induction h with
  | rel a b h => exact .rel _ _ (step a b h)
  | refl a => exact .refl _
  | symm a b _ ih => exact .symm _ _ ih
  | trans a b c _ _ ih ih' => exact .trans _ _ _ ih ih'

theorem eqvGen_member {role : Role} {name : String} {key : List Char} {d e : Script} {ms ns : List (List Char × Script)}
    (named : TextWritten name.toList key) (h : Relation.EqvGen (Rewrite (role.member name)) d e) :
    Relation.EqvGen (Rewrite role) (.object (ms ++ (key, d) :: ns)) (.object (ms ++ (key, e) :: ns)) :=
  eqvGen_map (fun d => Script.object (ms ++ (key, d) :: ns)) (fun _ _ change => Rewrite.member named change) h

theorem eqvGen_node {d e : Script} {ds es : List Script} (h : Relation.EqvGen (Rewrite .node) d e) :
    Relation.EqvGen (Rewrite .rules) (.list (ds ++ d :: es)) (.list (ds ++ e :: es)) :=
  eqvGen_map (fun d => Script.list (ds ++ d :: es)) (fun _ _ change => Rewrite.item change) h

/-! ## Values in order -/

/-- The text of a value, and that of the value with all members in order, are those of scripts that differ by changes of the
spelling. -/
def Resorts (role : Role) (v : Json) : Prop :=
  ∃ d e : Script, d.Renders v ∧ e.Renders v.sorted ∧ Relation.EqvGen (Rewrite role) d e

namespace Resorts

variable {role : Role}

theorem of_renders {d : Script} {v : Json} (h : d.Renders v) (same : v.sorted = v) : Resorts role v :=
  ⟨d, d, h, by rwa [same], .refl d⟩

theorem text (s : String) : Resorts role (.text s) := of_renders (.text s) rfl

theorem list {vs : List Json} (h : ∀ v ∈ vs, Resorts .node v) : Resorts .rules (.list vs) := by
  have each : ∃ ds es, List.Forall₂ Renders ds vs ∧ List.Forall₂ Renders es (vs.map sorted) ∧
      ∀ front, Relation.EqvGen (Rewrite .rules) (.list (front ++ ds)) (.list (front ++ es)) := by
    induction vs with
    | nil => exact ⟨[], [], .nil, .nil, fun front => .refl _⟩
    | cons v vs ih =>
      obtain ⟨d, e, plain, ordered, same⟩ := h v List.mem_cons_self
      obtain ⟨ds, es, plains, ordereds, sames⟩ := ih fun v hv => h v (List.mem_cons_of_mem _ hv)
      refine ⟨d :: ds, e :: es, .cons plain plains, .cons ordered ordereds, ?_⟩
      intro front
      have rest := sames (front ++ [e])
      rw [List.append_assoc, List.append_assoc] at rest
      exact .trans _ _ _ (eqvGen_node same) rest
  obtain ⟨ds, es, plain, ordered, same⟩ := each
  refine ⟨.list ds, .list es, .list plain, ?_, same []⟩
  rw [sorted, sortedItems_eq_map]
  exact .list ordered

/-- The members of a record are each put in order, and then one behind the other. -/
theorem object {names : List String} (record : role.fields? = some names) {js : List (String × Json)}
    (h : ∀ j ∈ js, Resorts (role.member j.1) j.2) : Resorts role (.object js) := by
  have each : ∃ ms ns, List.Forall₂ RendersMember ms js ∧
      List.Forall₂ RendersMember ns (js.map fun j => (j.1, j.2.sorted)) ∧
      ∀ front, Relation.EqvGen (Rewrite role) (.object (front ++ ms)) (.object (front ++ ns)) := by
    clear record
    induction js with
    | nil => exact ⟨[], [], .nil, .nil, fun front => .refl _⟩
    | cons j js ih =>
      obtain ⟨name, v⟩ := j
      obtain ⟨d, e, plain, ordered, same⟩ := h (name, v) List.mem_cons_self
      obtain ⟨ms, ns, plains, ordereds, sames⟩ := ih fun j hj => h j (List.mem_cons_of_mem _ hj)
      have named : TextWritten name.toList (name.toList.flatMap escape) := textWritten_escape name.toList
      refine ⟨(_, d) :: ms, (_, e) :: ns, .cons ⟨rfl, plain⟩ plains, .cons ⟨rfl, ordered⟩ ordereds, ?_⟩
      intro front
      have rest := sames (front ++ [(name.toList.flatMap escape, e)])
      rw [List.append_assoc, List.append_assoc] at rest
      exact .trans _ _ _ (eqvGen_member named same) rest
  obtain ⟨ms, ns, plain, each, same⟩ := each
  obtain ⟨ns', perm, ordered⟩ := exists_perm_renders each (sortedMembers_perm js).symm
  refine ⟨.object ms, .object ns', .object plain, ?_, ?_⟩
  · rw [sorted]
    exact .object ordered
  · exact .trans _ _ _ (same []) (.rel _ _ (.permute record perm))

end Resorts

/-! ## Filters in order -/

theorem Literal.resorts_list {role : Role} (vs : List Literal) : Resorts role (.list (vs.map toJson)) := by
  obtain ⟨ds, renders, -⟩ := exists_renders_list vs
  refine .of_renders (.list renders) ?_
  rw [sorted, sortedItems_map_toJson]

theorem Operand.resorts {role : Role} (x : Operand) : Resorts role x.toJson := by
  cases x with
  | one v =>
    obtain ⟨d, renders, -⟩ := v.exists_renders
    exact .of_renders renders v.sorted_toJson
  | many vs => exact Literal.resorts_list vs

theorem Condition.resorts (c : Condition) : Resorts .condition c.toJson := by
  refine .object rfl ?_
  intro j hj
  simp only [List.mem_cons, List.not_mem_nil, or_false] at hj
  rcases hj with rfl | rfl
  · exact .text c.operator
  · exact c.operand.resorts

theorem Leaf.resorts (l : Leaf) : Resorts .node (.object l.members) := by
  refine .object rfl ?_
  intro j hj
  rw [members] at hj
  rcases List.mem_append.1 hj with hj | hj
  · rcases List.mem_append.1 hj with hj | hj
    · rw [List.mem_singleton.1 hj]
      exact .text l.field
    · split at hj
      · cases hj
      · rw [List.mem_singleton.1 hj]
        exact l.condition.resorts
  · split at hj
    · cases hj
    · rw [List.mem_singleton.1 hj]
      exact Literal.resorts_list l.includes

namespace Filter

theorem resorts (f : Filter) : Resorts .node f.toJson := by
  induction f using Filter.induction with
  | leaf l =>
    rw [toJson]
    exact l.resorts
  | group glue rules ih =>
    rw [toJson, toJsonAll_eq_map]
    refine .object rfl ?_
    intro j hj
    simp only [List.mem_cons, List.not_mem_nil, or_false] at hj
    rcases hj with rfl | rfl
    · exact .text glue.keyword
    · refine .list ?_
      intro v hv
      obtain ⟨r, hr, rfl⟩ := List.mem_map.1 hv
      exact ih r hr

/-- If a text denotes a filter without doubles, then every text of its script in order denotes it, too, up to the operands that
have no operator. -/
theorem exists_renders_sorted {s : String} {f : Filter} (h : ofText s = .ok f) :
    ∃ e : Script, e.Renders f.toJson.sorted ∧
      ((∀ v ∈ f.literals, ¬v.IsFloat) → ∀ t, e.Spans t → ofText t = .ok f.normal) := by
  obtain ⟨origin, -, value⟩ := ofText_eq_ok_iff.1 h
  obtain ⟨d, e, plain, ordered, same⟩ := f.resorts
  refine ⟨e, ordered, ?_⟩
  intro noFloat t shown
  obtain ⟨back, written, recovered⟩ := recovers value noFloat
  have spans : ∀ {d : Script}, d.Written f.toJson.compact → d.Spans f.wire := fun written =>
    ⟨[], f.toJson.compact, [], blank_nil, written, blank_nil, by simp [wire]⟩
  -- `back` and `d` have the text of the filter in common.
  have shared : ofScript? maxLevels d = some f.normal := by
    rw [← toOption_ofText (spans plain.compact), toOption_ofText (spans written), recovered]
  apply eq_ok_of_toOption
  rw [toOption_ofText shown, ← ofScript?_eqvGen same, shared]

end Filter

/-! ## Explanations -/

theorem sorted_explanation (f k : Json) :
    (Json.object [("filter", f), ("clause", k)]).sorted = .object [("clause", k.sorted), ("filter", f.sorted)] := by
  have first : "clause" < "filter" := by decide
  rw [Json.sorted]
  simp only [Json.sortedMembers, Json.placeMember, if_pos first]

theorem exists_around_flatMap {α β : Type} (g : α → List β) {x : α} {xs : List α} (h : x ∈ xs) :
    ∃ before behind, xs.flatMap g = before ++ (g x ++ behind) := by
  obtain ⟨ys, zs, rfl⟩ := List.append_of_mem h
  exact ⟨ys.flatMap g, zs.flatMap g, by rw [List.flatMap_append, List.flatMap_cons]⟩

theorem exists_around_prettyMember (depth : Nat) {js : List (String × Json)} {j : String × Json} (h : j ∈ js) :
    ∃ before behind, Json.prettyMembers depth js = before ++ (j.2.prettyAt depth ++ behind) := by
  cases js with
  | nil => cases h
  | cons m ms =>
    rw [Json.prettyMembers_cons]
    rcases List.mem_cons.1 h with rfl | later
    · generalize (ms.flatMap _) = behind
      exact ⟨Json.newline depth ++ Json.quote j.1 ++ [':', ' '], behind, by simp⟩
    · obtain ⟨before, behind, eq⟩ := exists_around_flatMap
        (fun m : String × Json => ',' :: (Json.newline depth ++ Json.quote m.1 ++ ':' :: ' ' :: m.2.prettyAt depth)) later
      rw [eq]
      refine ⟨Json.newline depth ++ Json.quote m.1 ++ ':' :: ' ' :: m.2.prettyAt depth ++ before ++
        ',' :: (Json.newline depth ++ Json.quote j.1 ++ [':', ' ']), behind, ?_⟩
      simp

theorem exists_shown_member {js : List (String × Json)} {j : String × Json} (h : j ∈ js) {d : Script}
    (renders : d.Renders j.2) :
    ∃ before shown behind, (printValue (.object js)).output = before ++ shown ++ behind ∧ d.Spans shown := by
  obtain ⟨m, ms, rfl⟩ := List.exists_cons_of_ne_nil (List.ne_nil_of_mem h)
  obtain ⟨before, behind, eq⟩ := exists_around_prettyMember 1 h
  refine ⟨String.ofList ('\x7b' :: before), String.ofList (j.2.prettyAt 1),
    String.ofList (behind ++ Json.newline 0 ++ ['\x7d', '\n']), ?_, ?_⟩
  · show unlines [String.ofList ('\x7b' :: Json.prettyMembers 1 (m :: ms) ++ Json.newline 0 ++ ['\x7d'])] = _
    rw [eq, ← String.toList_inj]
    simp [unlines]
  · exact ⟨[], _, [], Json.blank_nil, renders.pretty 1, Json.blank_nil, by simp⟩

namespace Command

variable {words : List String} {w : Surroundings} {r : Request} {filter : Option String}

/-- A filter that is explained as JSON, in a run that goes well, is printed as an object with its clause and itself. If it has no
doubles, then each text of the printed filter denotes it, up to the operands that have no operator; under the settings of the run
this is not too deep, and has the printed clause. -/
theorem run_explained (asked : ofWords w.config words = some (.request r)) (job : r.job = .explain filter)
    (format : r.format = .json) (well : (run words w).code = 0) :
    ∃ s text f c k, r.Stages w s text f c k ∧ ∃ clauseKey filterKey d e,
      Json.textOf? clauseKey = some "clause" ∧ Json.textOf? filterKey = some "filter" ∧
      (Script.object [(clauseKey, d), (filterKey, e)]).Spans (run words w).output ∧ k.SaidBy d ∧
      (∃ before shown behind, (run words w).output = before ++ shown ++ behind ∧ e.Spans shown) ∧
      ((∀ v ∈ f.literals, ¬v.IsFloat) → ∀ shown, e.Spans shown →
        Filter.ofText shown = .ok f.normal ∧ s.checkDepth f.normal = .ok () ∧ f.normal.compile c = .ok k) := by
  rw [run_eq asked] at well ⊢
  have given : r.job.filter? = some filter := by rw [job, Job.filter?]
  rw [Course.code_report_eq_zero_iff] at well
  obtain ⟨s, text, f, c, k, stages⟩ := (Request.outcome_course_iff given).1 well
  obtain ⟨d, clause, said⟩ := k.exists_renders_sorted
  obtain ⟨e, shownFilter, back⟩ := Filter.exists_renders_sorted stages.denotes
  have members : List.Forall₂ RendersMember
      [("clause".toList.flatMap escape, d), ("filter".toList.flatMap escape, e)]
      [("clause", k.toJson.sorted), ("filter", f.toJson.sorted)] :=
    .cons ⟨rfl, clause⟩ (.cons ⟨rfl, shownFilter⟩ .nil)
  have output : ((r.course w).report w.colour).output =
      (printValue (.object [("clause", k.toJson.sorted), ("filter", f.toJson.sorted)])).output := by
    rw [Course.output_report, Request.output_course given stages, job, format, ← sorted_explanation]
    rfl
  refine ⟨s, text, f, c, k, stages, _, _, d, e, textOf?_escape "clause", textOf?_escape "filter", ?_, said, ?_, ?_⟩
  · rw [output]
    exact spans_printValue (.object members)
  · rw [output]
    exact exists_shown_member (List.mem_cons_of_mem _ List.mem_cons_self) shownFilter
  · intro noFloat shown spans
    refine ⟨back noFloat shown spans, ?_, ?_⟩
    · rw [Settings.checkDepth_eq_ok_iff, f.depth_normal]
      exact Settings.checkDepth_eq_ok_iff.1 stages.shallow
    · rw [f.compile_normal]
      exact stages.compiles

/-- A test in list form is printed with an object that denotes it. -/
theorem run_explained_equal :
    let text := "[null,\"a\",[\"equal\",1]]"
    let f : Filter := .test "a" ⟨"equal", .one (.int 1)⟩
    let w : Surroundings := ⟨fun _ => .error .notFound, fun _ => false, .empty, none, none, false, .usual⟩
    (run ["explain", "-f", "json", text] w).code = 0 ∧
    ∃ before shown behind, (run ["explain", "-f", "json", text] w).output = before ++ shown ++ behind ∧
      Filter.ofText shown = .ok f := by
  intro text f w
  let r : Request := ⟨.explain (some text), none, [], none, .json, false⟩
  have asked : ofWords w.config ["explain", "-f", "json", text] = some (.request r) := by decide
  have given : r.job.filter? = some (some text) := rfl
  have compiles : f.compile .unrestricted = .ok ⟨"a = ?", [.int 1]⟩ := by cbv
  have stages : r.Stages w .standard text f .unrestricted ⟨"a = ?", [.int 1]⟩ :=
    ⟨rfl, .line given (by decide) rfl, ofText_equal, rfl, rfl, compiles⟩
  have well : (run ["explain", "-f", "json", text] w).code = 0 := by
    rw [run_eq asked, Course.code_report_eq_zero_iff, Request.outcome_course_iff given]
    exact ⟨_, _, _, _, _, stages⟩
  obtain ⟨_, _, f', _, _, stages', -, -, -, e, -, -, -, -, ⟨before, shown, behind, output, part⟩, back⟩ :=
    run_explained asked rfl rfl well
  have same : f' = f := by
    have read := (Request.delivers_iff given).1 stages'.delivers
    cases read
    have denoted := ofText_equal.symm.trans stages'.denotes
    exact (Except.ok.inj denoted).symm
  subst same
  have noFloat : ∀ v ∈ f.literals, ¬v.IsFloat := by
    intro v hv
    rw [List.mem_singleton.1 hv]
    exact id
  exact ⟨well, before, shown, behind, output, (back noFloat shown part).1⟩

end Command

end FilterTree
