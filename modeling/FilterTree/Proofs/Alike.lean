import FilterTree.Proofs.Layout
import FilterTree.Proofs.Outline

/-!
# Literals do not reach the text

* `Filter.Alike` : filters that differ in their literals only. A null stands opposite a null, and a list opposite a
  list of the same length.
* `Agree` : two outcomes with one error, or with results that are related.
* `Filter.compile_alike` : filters that are alike fail alike, or have clauses with one text and as many values.
-/

namespace FilterTree

/-! ## Alike -/

/-- Operands of one shape, with nulls in the same places. -/
def Operand.Alike : Operand → Operand → Prop
  | .one v, .one w => v.isNull = w.isNull
  | .many vs, .many ws => List.Forall₂ (fun v w => v.isNull = w.isNull) vs ws
  | _, _ => False

/-- Leaves that differ in their literals only. -/
structure Leaf.Alike (a b : Leaf) : Prop where
  field : a.field = b.field
  operator : a.condition.operator = b.condition.operator
  operand : a.condition.operand.Alike b.condition.operand
  includes : a.includes.length = b.includes.length

namespace Filter

mutual

/-- Filters that differ in their literals only. -/
def Alike : Filter → Filter → Prop
  | .leaf a, .leaf b => a.Alike b
  | .group g fs, .group h gs => g = h ∧ AlikeEach fs gs
  | _, _ => False

def AlikeEach : List Filter → List Filter → Prop
  | [], [] => True
  | f :: fs, g :: gs => f.Alike g ∧ AlikeEach fs gs
  | _, _ => False

end

end Filter

/-! ## Agreement -/

/-- Outcomes with one error, or with results that are related. -/
def Agree {α : Type} (r : α → α → Prop) (x y : Except Error α) : Prop :=
  (∃ e, x = .error e ∧ y = .error e) ∨ ∃ a b, x = .ok a ∧ y = .ok b ∧ r a b

namespace Agree

theorem error {α : Type} {r : α → α → Prop} (e : Error) : Agree r (.error e) (.error e) :=
  Or.inl ⟨e, rfl, rfl⟩

theorem ok {α : Type} {r : α → α → Prop} {a b : α} (h : r a b) : Agree r (.ok a) (.ok b) :=
  Or.inr ⟨a, b, rfl, rfl, h⟩

theorem map {α β : Type} {r : α → α → Prop} {s : β → β → Prop} {x y : Except Error α} {f g : α → β}
    (h : Agree r x y) (hfg : ∀ a b, r a b → s (f a) (g b)) : Agree s (x.map f) (y.map g) := by
  rcases h with ⟨e, rfl, rfl⟩ | ⟨a, b, rfl, rfl, hab⟩
  · exact error e
  · exact ok (hfg a b hab)

end Agree

/-- Clauses with one text and as many values. -/
def Clause.SameFrame (j k : Clause) : Prop := j.sql = k.sql ∧ j.params.length = k.params.length

theorem Clause.sameFrame_join (joiner : String) {js ks : List Clause} (h : List.Forall₂ SameFrame js ks) :
    (join joiner js).SameFrame (join joiner ks) := by
  have hlen : js.length = ks.length := h.length_eq
  have hsql : js.map sql = ks.map sql := by
    rw [← List.forall₂_eq_eq_eq, List.forall₂_map_left_iff, List.forall₂_map_right_iff]
    exact h.imp fun _ _ same => same.1
  have hparams : js.map (fun k => k.params.length) = ks.map (fun k => k.params.length) := by
    rw [← List.forall₂_eq_eq_eq, List.forall₂_map_left_iff, List.forall₂_map_right_iff]
    exact h.imp fun _ _ same => same.2
  constructor
  · rw [join, join, hsql, hlen]
  · rw [join, join, List.length_flatMap, List.length_flatMap, hparams]

/-! ## Operands -/

namespace Operand.Alike

theorem size_eq {x y : Operand} (h : x.Alike y) : x.size = y.size := by
  cases x with
  | one v =>
    cases y with
    | one w => rw [size, size, show v.isNull = w.isNull from h]
    | many ws => cases h
  | many vs =>
    cases y with
    | one w => cases h
    | many ws => exact List.Forall₂.length_eq h

theorem single {x y : Operand} (h : x.Alike y) (operator : String) :
    Agree (fun _ _ => True) (x.single operator) (y.single operator) := by
  cases x with
  | one v =>
    cases y with
    | one w => exact Agree.ok trivial
    | many ws => cases h
  | many vs =>
    cases y with
    | one w => cases h
    | many ws =>
      rw [Operand.single, Operand.single, List.Forall₂.length_eq h]
      exact Agree.error _

theorem isSome_present {v w : Literal} (h : v.isNull = w.isNull) : v.present.isSome = w.present.isSome := by
  rw [Literal.present, Literal.present, h]
  split <;> rfl

theorem bounds {x y : Operand} (h : x.Alike y) (operator : String) :
    Agree (fun a b => a.low.isSome = b.low.isSome ∧ a.high.isSome = b.high.isSome)
      (x.bounds operator) (y.bounds operator) := by
  cases x with
  | one v =>
    cases y with
    | one w =>
      rw [Operand.bounds, Operand.bounds, h.size_eq]
      · exact Agree.error _
      · rintro _ _ ⟨⟩
      · rintro _ _ ⟨⟩
    | many ws => cases h
  | many vs =>
    cases y with
    | one w => cases h
    | many ws =>
      have hsize : (many vs).size = (many ws).size := h.size_eq
      -- Both lists have two elements, or neither has.
      cases show List.Forall₂ _ vs ws from h with
      | nil => exact Agree.error _
      | cons hlow rest =>
        cases rest with
        | nil => exact Agree.error _
        | cons hhigh rest =>
          cases rest with
          | nil => exact Agree.ok ⟨isSome_present hlow, isSome_present hhigh⟩
          | cons _ _ =>
            rw [Operand.bounds, Operand.bounds, hsize]
            · exact Agree.error _
            · rintro _ _ ⟨⟩
            · rintro _ _ ⟨⟩

end Operand.Alike

/-! ## Leaves -/

theorem Operator.Range.sameFrame_compile (r : Range) (field : String) {a b : Bounds}
    (hlow : a.low.isSome = b.low.isSome) (hhigh : a.high.isSome = b.high.isSome) :
    (r.compile field a).SameFrame (r.compile field b) := by
  obtain ⟨low, high⟩ := a
  obtain ⟨low', high'⟩ := b
  cases low <;> cases low' <;> cases hlow <;> cases high <;> cases high' <;> cases hhigh <;> exact ⟨rfl, rfl⟩

theorem Operator.agree_compile (o : Operator) (field : String) {x y : Operand} (h : x.Alike y) :
    Agree Clause.SameFrame (o.compile field x) (o.compile field y) := by
  unfold compile
  cases o.range? with
  | some r => exact (h.bounds o.keyword).map fun a b ends => r.sameFrame_compile field ends.1 ends.2
  | none => exact (h.single o.keyword).map fun v w _ => ⟨rfl, rfl⟩

theorem Template.agree_values (arity : Nat) (operator : String) {x y : Operand} (h : x.Alike y) :
    Agree (fun vs ws => vs.length = ws.length) (values arity operator x) (values arity operator y) := by
  match arity with
  | 0 => exact Agree.ok rfl
  | 1 => exact (h.single operator).map fun v w _ => rfl
  | n + 2 =>
    cases x with
    | one v =>
      cases y with
      | one w =>
        simp only [values, h.size_eq]
        exact Agree.error _
      | many ws => cases h
    | many vs =>
      cases y with
      | one w => cases h
      | many ws =>
        have hlen : vs.length = ws.length := List.Forall₂.length_eq h
        simp only [values, hlen]
        split
        · exact Agree.ok hlen
        · exact Agree.error _

theorem Template.agree_apply (t : Template) (field operator : String) {x y : Operand} (h : x.Alike y) :
    Agree Clause.SameFrame (t.apply field operator x) (t.apply field operator y) := by
  unfold apply
  rcases agree_values t.arity operator h with ⟨e, hx, hy⟩ | ⟨vs, ws, hx, hy, hlen⟩
  · rw [hx, hy]
    exact Agree.error e
  · rw [hx, hy]
    exact Agree.ok ⟨rfl, hlen⟩

theorem Condition.agree_compile {c : Catalog} {t? : String → Option Template} (hc : c.Templated t?)
    {p q : Condition} (field : String) (ho : p.operator = q.operator) (hx : p.operand.Alike q.operand) :
    Agree Clause.SameFrame (p.compile field c) (q.compile field c) := by
  rw [compile, compile, ho]
  split
  · exact Agree.ok ⟨rfl, rfl⟩
  · split
    · exact Operator.agree_compile _ field hx
    · rw [hc]
      cases t? q.operator with
      | none => exact Agree.error _
      | some t => exact t.agree_apply field q.operator hx

theorem sameFrame_memberClause (field : String) {vs ws : List Literal} (h : vs.length = ws.length) :
    (memberClause field vs).SameFrame (memberClause field ws) := by
  rw [memberClause, memberClause, List.map_const', List.map_const', h]
  exact ⟨rfl, h⟩

theorem Leaf.agree_compile {c : Catalog} {t? : String → Option Template} (hc : c.Templated t?)
    {a b : Leaf} (h : a.Alike b) : Agree Clause.SameFrame (a.compile c) (b.compile c) := by
  have hempty : a.includes.isEmpty = b.includes.isEmpty := by
    rw [Bool.eq_iff_iff, List.isEmpty_iff_length_eq_zero, List.isEmpty_iff_length_eq_zero, h.includes]
  rw [compile, compile, isDegenerate, isDegenerate, h.field, h.operator, hempty]
  split
  · exact Agree.ok ⟨rfl, rfl⟩
  · split
    · exact Agree.error _
    · split
      · exact Agree.ok (sameFrame_memberClause b.field h.includes)
      · exact Condition.agree_compile hc b.field h.operator h.operand

/-! ## Filters -/

namespace Filter

theorem agree_compileAll {c : Catalog} {fs gs : List Filter} (h : AlikeEach fs gs)
    (ih : ∀ f ∈ fs, ∀ g, f.Alike g → Agree Clause.SameFrame (f.compile c) (g.compile c)) :
    Agree (List.Forall₂ Clause.SameFrame) (compileAll c fs) (compileAll c gs) := by
  induction fs generalizing gs with
  | nil =>
    cases gs with
    | nil => exact Agree.ok .nil
    | cons g gs => cases h
  | cons f fs ihs =>
    cases gs with
    | nil => cases h
    | cons g gs =>
      unfold compileAll
      rcases ih f List.mem_cons_self g h.1 with ⟨e, hx, hy⟩ | ⟨j, k, hx, hy, head⟩
      · rw [hx, hy]
        exact Agree.error e
      · rw [hx, hy]
        rcases ihs h.2 fun f' hf' => ih f' (List.mem_cons_of_mem f hf') with
          ⟨e, hxs, hys⟩ | ⟨js, ks, hxs, hys, tail⟩
        · rw [hxs, hys]
          exact Agree.error e
        · rw [hxs, hys]
          exact Agree.ok (.cons head tail)

theorem agree_compile {c : Catalog} {t? : String → Option Template} (hc : c.Templated t?)
    {f g : Filter} (h : f.Alike g) : Agree Clause.SameFrame (f.compile c) (g.compile c) := by
  induction f using Filter.induction generalizing g with
  | leaf a =>
    cases g with
    | leaf b => exact Leaf.agree_compile hc h
    | group glue rules => cases h
  | group glue fs ih =>
    cases g with
    | leaf b => cases h
    | group glue' gs =>
      obtain ⟨rfl, hrules⟩ := h
      rw [compile_group, compile_group]
      exact (agree_compileAll hrules fun f hf g hg => ih f hf hg).map fun js ks same =>
        Clause.sameFrame_join glue.joiner same

/-- Filters that are alike fail with one error, or have clauses with one text and as many values. -/
theorem compile_alike {c : Catalog} {t? : String → Option Template} (hc : c.Templated t?)
    {f g : Filter} (h : f.Alike g) :
    (∃ e, f.compile c = .error e ∧ g.compile c = .error e) ∨
      ∃ j k, f.compile c = .ok j ∧ g.compile c = .ok k ∧ j.sql = k.sql ∧ j.params.length = k.params.length :=
  agree_compile hc h

theorem compile_alike_regex :
    let c := Catalog.unrestricted.register "regex" (Template.apply ⟨"\x7bfield\x7d REGEXP ?", by decide⟩)
    let f := fun v w => any [test "a" (.ofValue "regex" v), test "b" (.range "between" none (some w))]
    (f (.text "'; --") (.int 1)).Alike (f (.bool true) (.text "?")) ∧
    ((∃ e, (f (.text "'; --") (.int 1)).compile c = .error e ∧ (f (.bool true) (.text "?")).compile c = .error e) ∨
      ∃ j k, (f (.text "'; --") (.int 1)).compile c = .ok j ∧ (f (.bool true) (.text "?")).compile c = .ok k ∧
        j.sql = k.sql ∧ j.params.length = k.params.length) := by
  have alike :
      (any [test "a" (.ofValue "regex" (.text "'; --")), test "b" (.range "between" none (some (.int 1)))]).Alike
        (any [test "a" (.ofValue "regex" (.bool true)), test "b" (.range "between" none (some (.text "?")))]) :=
    ⟨rfl, ⟨rfl, rfl, rfl, rfl⟩, ⟨rfl, rfl, .cons rfl (.cons rfl .nil), rfl⟩, trivial⟩
  exact ⟨alike, compile_alike
    (Catalog.templated_unrestricted.register "regex" ⟨"\x7bfield\x7d REGEXP ?", by decide⟩) alike⟩

end Filter

end FilterTree
