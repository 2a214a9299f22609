import FilterTree.Proofs.Layout
import Mathlib

/-!
# Filters within filters

* `Filter.Context` : a filter with a hole in the place of a node. `Context.plug` puts a filter there.
* `Filter.mem_nodes_iff_exists_plug` : the places in a filter are those of its nodes.
* `Filter.wrapped` : a filter in groups that hold nothing else.
* `Filter.compile_group_congr` : a group takes nothing from its rules but their clauses, or their errors.
* `Filter.compile_group_of_length_le` : a group of at most one rule has no use for its glue.
* `Filter.compile_plug` : so a filter with the same clause, or the same error, may stand in any place for another.
-/

namespace FilterTree.Filter

variable {c : Catalog}

/-- A filter with a hole in the place of one of its nodes. -/
inductive Context where
  | hole
  | group (glue : Glue) (before : List Filter) (inner : Context) (after : List Filter)

/-- The filter with another one in the place of the hole. -/
def Context.plug (s : Filter) : Context → Filter
  | .hole => s
  | .group glue before inner after => .group glue (before ++ inner.plug s :: after)

/-- A filter in groups that hold nothing else, the first glue outermost. -/
def wrapped (glues : List Glue) (s : Filter) : Filter := glues.foldr (fun glue f => .group glue [f]) s

/-! ## Places -/

theorem exists_plug_of_mem_nodes {s t : Filter} (h : s ∈ t.nodes) : ∃ C : Context, C.plug s = t := by
  induction t using Filter.induction with
  | leaf l => exact ⟨.hole, List.mem_singleton.1 h⟩
  | group glue rules ih =>
    rcases List.mem_cons.1 h with rfl | below
    · exact ⟨.hole, rfl⟩
    · obtain ⟨r, hr, hs⟩ := mem_nodesAll.1 below
      obtain ⟨C, rfl⟩ := ih r hr hs
      obtain ⟨before, after, rfl⟩ := List.append_of_mem hr
      exact ⟨.group glue before C after, rfl⟩

theorem mem_nodes_plug (C : Context) (s : Filter) : s ∈ (C.plug s).nodes := by
  induction C with
  | hole => exact self_mem_nodes s
  | group glue before inner after ih => exact mem_nodes_of_mem (List.mem_append_right _ List.mem_cons_self) ih

theorem mem_nodes_iff_exists_plug {s t : Filter} : s ∈ t.nodes ↔ ∃ C : Context, C.plug s = t := by
  refine ⟨exists_plug_of_mem_nodes, ?_⟩
  rintro ⟨C, rfl⟩
  exact mem_nodes_plug C s

/-! ## Groups -/

theorem compileAll_congr {fs gs : List Filter} (h : List.Forall₂ (fun f g => f.compile c = g.compile c) fs gs) :
    compileAll c fs = compileAll c gs := by
  induction h with
  | nil => rfl
  | cons first _ ih => rw [compileAll, compileAll, first, ih]

/-- A group takes nothing from its rules but their clauses, or the first of their errors. -/
theorem compile_group_congr (glue : Glue) {fs gs : List Filter}
    (h : List.Forall₂ (fun f g => f.compile c = g.compile c) fs gs) :
    (group glue fs).compile c = (group glue gs).compile c := by
  rw [compile_group, compile_group, compileAll_congr h]

theorem compile_group_singleton (glue : Glue) (r : Filter) : (group glue [r]).compile c = r.compile c := by
  rw [compile_group, compileAll, compileAll]
  cases r.compile c with
  | error e => rfl
  | ok k => rw [Except.map, Clause.join_singleton]

theorem compile_group_of_length_le (g h : Glue) {rules : List Filter} (few : rules.length ≤ 1) :
    (group g rules).compile c = (group h rules).compile c := by
  rcases rules with _ | ⟨r, _ | ⟨s, rest⟩⟩
  · rfl
  · rw [compile_group_singleton, compile_group_singleton]
  · simp at few

theorem compile_wrapped (glues : List Glue) (s : Filter) : (s.wrapped glues).compile c = s.compile c := by
  induction glues with
  | nil => rfl
  | cons glue glues ih =>
    show (group glue [s.wrapped glues]).compile c = s.compile c
    rw [compile_group_singleton, ih]

/-! ## Exchange of a node -/

/-- Around what comes to the same, a context comes to the same: from the hole outwards, each group has the same rules beside
the one that was exchanged. -/
theorem compile_plug_congr (C : Context) {s s' : Filter} (same : s.compile c = s'.compile c) :
    (C.plug s).compile c = (C.plug s').compile c := by
  induction C with
  | hole => exact same
  | group glue before inner after ih =>
    have beside : ∀ fs : List Filter, List.Forall₂ (fun f g => f.compile c = g.compile c) fs fs :=
      fun fs => List.forall₂_same.2 fun f _ => rfl
    exact compile_group_congr glue (List.rel_append (beside before) (.cons ih (beside after)))

/-- Each node of a filter has its place, which may be taken by any filter with the same clause or the same error: the whole keeps
its clause, or its error. So it does where a node is wrapped in groups of one rule, whatever their glue, and where a group of at
most one rule changes its glue. -/
theorem compile_plug (c : Catalog) :
    (∀ s t : Filter, s ∈ t.nodes ↔ ∃ C : Context, C.plug s = t) ∧
    ∀ C : Context,
      (∀ s s' : Filter, s.compile c = s'.compile c → (C.plug s).compile c = (C.plug s').compile c) ∧
      (∀ (glues : List Glue) (s : Filter), (C.plug (s.wrapped glues)).compile c = (C.plug s).compile c) ∧
      ∀ (g h : Glue) (rules : List Filter), rules.length ≤ 1 →
        (C.plug (group g rules)).compile c = (C.plug (group h rules)).compile c := by
  refine ⟨fun s t => mem_nodes_iff_exists_plug, fun C => ⟨fun s s' => compile_plug_congr C, ?_, ?_⟩⟩
  · intro glues s
    exact compile_plug_congr C (compile_wrapped glues s)
  · intro g h rules few
    exact compile_plug_congr C (compile_group_of_length_le g h few)

/-- Between two tests, a range with an open end and a comparison have one clause, and a refused test and a group that begins with
one have one error. -/
theorem compile_plug_between :
    let refuse : Handler := fun _ _ _ => .error (.operation "refused")
    let c := Catalog.unrestricted.register "odd" refuse
    let C : Context :=
      .group .or [test "x" (.ofValue "equal" (.int 1))] (.group .and [] .hole [test "y" (.ofValue "less" .null)]) []
    (C.plug (test "a" ⟨"between", .many [.int 1, .null]⟩)).compile c =
      (C.plug (test "a" (.ofValue "greater" (.int 1)))).compile c ∧
    (C.plug (test "a" (.ofValue "odd" .null))).compile c =
      (C.plug (all [test "b" (.ofValue "odd" .null), test "c" (.ofValue "unknown" .null)])).compile c ∧
    (C.plug (group .and [])).compile c = (C.plug (group .or [])).compile c := by
  intro refuse c C
  have clause : (test "a" ⟨"between", .many [.int 1, .null]⟩).compile c =
      (test "a" (.ofValue "greater" (.int 1))).compile c := by
    cbv
  obtain ⟨exchange, -, glue⟩ := (compile_plug c).2 C
  exact ⟨exchange _ _ clause, exchange _ _ rfl, glue .and .or [] (Nat.zero_le 1)⟩

end FilterTree.Filter
