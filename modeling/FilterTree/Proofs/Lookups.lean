import FilterTree.Proofs.Layout
import Mathlib

/-!
# How a filter depends on its catalog

* `Catalog.limitedTo`, `Catalog.unlimited` : a catalog with a whitelist, and without one.
* `Leaf.Outside` : the leaves that a whitelist is about: those that are not degenerate and whose field it lacks.
* `Filter.compile_limitedTo` : where no leaf is outside, the whitelist changes nothing. Else compilation fails, with the
  field of the first such leaf unless an earlier leaf fails by itself.
* `Operator.Reserved` : the keywords that no catalog is asked for: the empty one and those of built-in operators.
* `Leaf.Consults` : the leaves that ask a catalog for the handler of a keyword.
* `Leaf.compile_of_consults` : such a leaf means what the handler says, or fails for want of one.
* `Filter.compile_eq_of_lookups` : a filter depends on a catalog by its two look-ups only.
* `Filter.compile_register` : a further operator changes no filter but those that fail for want of it. One in place of
  another changes no filter but those that ask for it.
-/

namespace FilterTree

/-! ## The effect of a whitelist -/

namespace Catalog

def limitedTo (c : Catalog) (w : NameSet) : Catalog := { c with whitelist := some w }

def unlimited (c : Catalog) : Catalog := { c with whitelist := none }

theorem isAllowed_limitedTo {c : Catalog} {w : NameSet} {field : String} :
    (c.limitedTo w).isAllowed field = true ↔ field ∈ w.keys := by
  rw [isAllowed, limitedTo, List.contains_iff_mem]

end Catalog

theorem Condition.compile_whitelist (x : Condition) (field : String) (c : Catalog) (w : NameSet) :
    x.compile field (c.limitedTo w) = x.compile field c.unlimited := rfl

namespace Leaf

/-- A leaf that tests something, of a field that a set lacks. -/
def Outside (w : NameSet) (l : Leaf) : Prop := l.isDegenerate = false ∧ l.field ∉ w.keys

instance (w : NameSet) (l : Leaf) : Decidable (l.Outside w) :=
  inferInstanceAs (Decidable (_ ∧ _))

theorem compile_of_outside {c : Catalog} {w : NameSet} {l : Leaf} (h : l.Outside w) :
    l.compile (c.limitedTo w) = .error (.fieldNotAllowed l.field) := by
  have denied : (c.limitedTo w).isAllowed l.field = false :=
    Bool.eq_false_iff.2 fun allowed => h.2 (Catalog.isAllowed_limitedTo.1 allowed)
  rw [compile, h.1, denied]
  rfl

theorem compile_of_not_outside {c : Catalog} {w : NameSet} {l : Leaf} (h : ¬l.Outside w) :
    l.compile (c.limitedTo w) = l.compile c.unlimited := by
  rw [compile, compile, Condition.compile_whitelist]
  cases hd : l.isDegenerate with
  | true => rfl
  | false =>
    have field_mem : l.field ∈ w.keys := by
      by_contra hf
      exact h ⟨hd, hf⟩
    rw [Catalog.isAllowed_limitedTo.2 field_mem]
    rfl

theorem Outside.anti {v w : NameSet} {l : Leaf} (hvw : ∀ x ∈ w.keys, x ∈ v.keys) (h : l.Outside v) :
    l.Outside w :=
  ⟨h.1, fun hw => h.2 (hvw l.field hw)⟩

end Leaf

namespace Filter

theorem compile_eq_unlimited {c : Catalog} {w : NameSet} {f : Filter} (h : ∀ l ∈ f.leaves, ¬l.Outside w) :
    f.compile (c.limitedTo w) = f.compile c.unlimited :=
  compile_congr fun l hl => Leaf.compile_of_not_outside (h l hl)

theorem compile_of_first_outside {c : Catalog} {w : NameSet} {f : Filter} {before after : List Leaf} {l : Leaf}
    (hf : f.leaves = before ++ l :: after) (hb : ∀ b ∈ before, ¬b.Outside w) (hl : l.Outside w) :
    f.compile (c.limitedTo w) =
      .error ((firstFault? c.unlimited before).getD (.fieldNotAllowed l.field)) :=
  compile_of_fails hf (fun b hm => Leaf.compile_of_not_outside (hb b hm)) (Leaf.compile_of_outside hl)

/-- What is left over by a whitelist names no field outside of it. -/
theorem not_outside_of_compile {c : Catalog} {w : NameSet} {f : Filter} {k : Clause}
    (h : f.compile (c.limitedTo w) = .ok k) : ∀ l ∈ f.leaves, ¬l.Outside w := by
  intro l hl out
  obtain ⟨before, m, after, hf, hb, hm⟩ := exists_first ⟨l, hl, out⟩
  rw [compile_of_first_outside hf hb hm] at h
  cases h

/-- A whitelist changes nothing for a filter without leaves outside of it. Any other filter fails: with the field of the
first leaf outside, unless a leaf in front of that one fails without a whitelist. So a clause that is compiled under a
whitelist is the clause under any larger one and under none. -/
theorem compile_limitedTo (c : Catalog) (w : NameSet) (f : Filter) :
    ((∀ l ∈ f.leaves, ¬l.Outside w) → f.compile (c.limitedTo w) = f.compile c.unlimited) ∧
    ((∃ l ∈ f.leaves, l.Outside w) → ∃ before l after,
      f.leaves = before ++ l :: after ∧ (∀ b ∈ before, ¬b.Outside w) ∧ l.Outside w ∧
      f.compile (c.limitedTo w) =
        .error ((firstFault? c.unlimited before).getD (.fieldNotAllowed l.field))) ∧
    ∀ k, f.compile (c.limitedTo w) = .ok k →
      (∀ l ∈ f.leaves, ¬l.Outside w) ∧ f.compile c.unlimited = .ok k ∧
      ∀ v : NameSet, (∀ x ∈ w.keys, x ∈ v.keys) → f.compile (c.limitedTo v) = .ok k := by
  refine ⟨compile_eq_unlimited, ?_, ?_⟩
  · intro out
    obtain ⟨before, l, after, hf, hb, hl⟩ := exists_first out
    exact ⟨before, l, after, hf, hb, hl, compile_of_first_outside hf hb hl⟩
  · intro k hk
    have inside := not_outside_of_compile hk
    have open_ok : f.compile c.unlimited = .ok k := (compile_eq_unlimited inside).symm.trans hk
    refine ⟨inside, open_ok, ?_⟩
    intro v hvw
    rw [compile_eq_unlimited fun l hl out => inside l hl (out.anti hvw)]
    exact open_ok

theorem compile_limitedTo_name :
    (∃ before l after,
      (all [member "name" [.int 1], any [test "secret" (.ofValue "equal" .null), blank]]).leaves =
        before ++ l :: after ∧
      (∀ b ∈ before, ¬b.Outside (.ofList ["name"])) ∧ l.Outside (.ofList ["name"]) ∧
      (all [member "name" [.int 1], any [test "secret" (.ofValue "equal" .null), blank]]).compile
          (Catalog.unrestricted.limitedTo (.ofList ["name"])) =
        .error ((firstFault? Catalog.unrestricted.unlimited before).getD (.fieldNotAllowed l.field))) ∧
    (∀ v : NameSet, (∀ x ∈ (NameSet.ofList ["name"]).keys, x ∈ v.keys) →
      (all [member "name" [.int 1], blank]).compile (Catalog.unrestricted.limitedTo v) =
        .ok ⟨"( name IN(?) AND  )", [.int 1]⟩) :=
  ⟨(compile_limitedTo .unrestricted (.ofList ["name"]) _).2.1 (by decide),
    ((compile_limitedTo .unrestricted (.ofList ["name"]) _).2.2 _ rfl).2.2⟩

end Filter

/-! ## What a further operator changes -/

/-- The keywords that no catalog is asked for. -/
def Operator.Reserved (keyword : String) : Prop := keyword = "" ∨ ∃ o : Operator, o.keyword = keyword

/-- The leaf asks a catalog for the handler of a keyword. -/
structure Leaf.Consults (c : Catalog) (keyword : String) (l : Leaf) : Prop where
  allowed : c.isAllowed l.field = true
  bare : l.includes = []
  asks : l.condition.operator = keyword
  free : ¬Operator.Reserved keyword

theorem Operator.not_reserved_iff {keyword : String} :
    ¬Reserved keyword ↔ keyword ≠ "" ∧ ofKeyword? keyword = none := by
  rw [Reserved, not_or, not_exists, ofKeyword?_eq_none_iff]

variable {c d : Catalog} {keyword : String} {handler : Handler}

/-! ## What is looked up -/

theorem Condition.compile_congr {x : Condition} (field : String)
    (h : ¬Operator.Reserved x.operator → c.handler? x.operator = d.handler? x.operator) :
    x.compile field c = x.compile field d := by
  unfold compile
  by_cases vacant : x.operator.isEmpty = true
  · rw [if_pos vacant, if_pos vacant]
  · rw [if_neg vacant, if_neg vacant]
    cases own : Operator.ofKeyword? x.operator with
    | some o => rfl
    | none => rw [h (Operator.not_reserved_iff.2 ⟨by simpa using vacant, own⟩)]

namespace Leaf

variable {l : Leaf}

/-- A leaf asks whether its field is allowed. Only if it is, and without a set of values, does it ask for a handler. -/
theorem compile_eq_of_lookups (allowed : c.isAllowed l.field = d.isAllowed l.field)
    (found : l.Consults c l.condition.operator → c.handler? l.condition.operator = d.handler? l.condition.operator) :
    l.compile c = l.compile d := by
  unfold compile
  rw [← allowed]
  split
  · rfl
  · split
    · rfl
    · rename_i field_allowed
      split
      · rfl
      · rename_i bare
        refine Condition.compile_congr l.field fun free => found ⟨?_, ?_, rfl, free⟩
        · simpa using field_allowed
        · simpa using bare

theorem compile_of_consults (h : l.Consults c keyword) :
    l.compile c = (c.handler? keyword).elim (.error (.unknownOperator keyword)) fun handler =>
      handler l.field keyword l.condition.operand := by
  obtain ⟨allowed, bare, rfl, free⟩ := h
  obtain ⟨given, own⟩ := Operator.not_reserved_iff.1 free
  have tests : l.isDegenerate = false := by simp [isDegenerate, given]
  rw [compile, tests, allowed, bare, Condition.compile, own]
  cases c.handler? l.condition.operator <;> simp [given]

theorem compile_register_of_not_consults (h : ¬l.Consults c keyword) :
    l.compile (c.register keyword handler) = l.compile c := by
  have other : l.Consults c l.condition.operator → l.condition.operator ≠ keyword := by
    rintro consults rfl
    exact h consults
  symm
  refine compile_eq_of_lookups rfl fun consults => ?_
  rw [Catalog.handler?_register, if_neg (other consults)]

theorem Consults.register (h : l.Consults c keyword) : l.Consults (c.register keyword handler) keyword :=
  ⟨h.allowed, h.bare, h.asks, h.free⟩

end Leaf

namespace Filter

variable {f : Filter}

/-- A filter depends on a catalog by its two look-ups only, and these do not concern reserved keywords. -/
theorem compile_eq_of_lookups (allowed : ∀ field, c.isAllowed field = d.isAllowed field)
    (found : ∀ keyword, ¬Operator.Reserved keyword → c.handler? keyword = d.handler? keyword) :
    f.compile c = f.compile d :=
  compile_congr fun l _ => Leaf.compile_eq_of_lookups (allowed l.field) fun consults => found _ consults.free

theorem compile_register_of_forall (h : ∀ l ∈ f.leaves, ¬l.Consults c keyword) :
    f.compile (c.register keyword handler) = f.compile c :=
  compile_congr fun l hl => Leaf.compile_register_of_not_consults (h l hl)

/-- A keyword that is not registered yet changes only what fails for want of it. -/
theorem compile_register_of_missing (missing : c.handler? keyword = none) :
    f.compile (c.register keyword handler) = f.compile c ∨ f.compile c = .error (.unknownOperator keyword) := by
  by_cases asked : ∃ l ∈ f.leaves, l.Consults c keyword
  · obtain ⟨before, l, after, hf, hb, hl⟩ := exists_first asked
    have unknown : l.compile c = .error (.unknownOperator keyword) := by
      rw [Leaf.compile_of_consults hl, missing]
      rfl
    have fails := compile_of_fails (d := c.register keyword handler) hf
      (fun b hm => (Leaf.compile_register_of_not_consults (hb b hm)).symm) unknown
    -- A leaf in front that fails does so under both catalogs, and before the keyword is looked for.
    cases earlier : firstFault? (c.register keyword handler) before with
    | none =>
      rw [earlier] at fails
      exact .inr fails
    | some e =>
      rw [earlier] at fails
      refine .inl (Eq.trans ?_ fails.symm)
      rw [compile_eq_error_iff, hf, firstFault?, List.findSome?_append, ← firstFault?, earlier]
      rfl
  · rw [not_exists] at asked
    exact .inl (compile_register_of_forall fun l hl consults => asked l ⟨hl, consults⟩)

/-- A handler for a reserved keyword counts for nothing. One for a keyword without handler changes no filter but those that
fail for want of it, and so leaves every clause as it is. One in place of another can change only the filters that ask for
it. Where it is asked for, it says what the leaf means. -/
theorem compile_register (c : Catalog) (keyword : String) (handler : Handler) (f : Filter) :
    (Operator.Reserved keyword → f.compile (c.register keyword handler) = f.compile c) ∧
    (c.handler? keyword = none →
      (f.compile (c.register keyword handler) ≠ f.compile c → f.compile c = .error (.unknownOperator keyword)) ∧
      ∀ k, f.compile c = .ok k → f.compile (c.register keyword handler) = .ok k) ∧
    (f.compile (c.register keyword handler) ≠ f.compile c → ∃ l ∈ f.leaves, l.Consults c keyword) ∧
    ∀ l : Leaf, l.Consults c keyword →
      (leaf l).compile (c.register keyword handler) = handler l.field keyword l.condition.operand := by
  refine ⟨?_, ?_, ?_, ?_⟩
  · intro reserved
    exact compile_register_of_forall fun l _ consults => consults.free reserved
  · intro missing
    rcases compile_register_of_missing missing with same | unknown
    · exact ⟨fun differ => absurd same differ, fun k hk => same.trans hk⟩
    · refine ⟨fun _ => unknown, fun k hk => ?_⟩
      rw [unknown] at hk
      cases hk
  · intro differ
    by_contra unasked
    rw [not_exists] at unasked
    exact differ (compile_register_of_forall fun l hl consults => unasked l ⟨hl, consults⟩)
  · intro l consults
    rw [compile, Leaf.compile_of_consults consults.register, Catalog.handler?_register, if_pos rfl]
    rfl

/-- A filter with one operator that is built in, and with one that is not. A handler for the first is not used. One for the
second gives a clause to what had none, and another one in its place gives another clause. -/
theorem compile_register_odd :
    let f := all [test "a" (.ofValue "equal" (.int 1)), test "b" (.ofValue "odd" .null)]
    let yes : Handler := fun _ _ _ => .ok ⟨"1 = 1", []⟩
    let odd : Handler := fun field _ _ => .ok ⟨field ++ " % 2 = 1", []⟩
    let c := Catalog.unrestricted
    f.compile (c.register "equal" yes) = f.compile c ∧
    f.compile c = .error (.unknownOperator "odd") ∧
    (test "a" (.ofValue "equal" (.int 1))).compile (c.register "odd" odd) = .ok ⟨"a = ?", [.int 1]⟩ ∧
    (leaf ⟨"b", .ofValue "odd" .null, []⟩).compile (c.register "odd" odd) = .ok ⟨"b % 2 = 1", []⟩ ∧
    ∃ l ∈ f.leaves, l.Consults (c.register "odd" odd) "odd" := by
  intro f yes odd c
  have missing : c.handler? "odd" = none := rfl
  have first : f.compile (c.register "odd" odd) = .ok ⟨"( a = ? AND b % 2 = 1 )", [.int 1]⟩ := by cbv
  have second : f.compile ((c.register "odd" odd).register "odd" yes) = .ok ⟨"( a = ? AND 1 = 1 )", [.int 1]⟩ := by cbv
  have free : ¬Operator.Reserved "odd" := Operator.not_reserved_iff.2 ⟨by decide, by decide⟩
  refine ⟨?_, ?_, ?_, ?_, ?_⟩
  · exact (compile_register c "equal" yes f).1 (.inr ⟨.equal, rfl⟩)
  · refine ((compile_register c "odd" odd f).2.1 missing).1 ?_
    have unknown : f.compile c = .error (.unknownOperator "odd") := by cbv
    rw [first, unknown]
    intro same
    cases same
  · exact ((compile_register c "odd" odd _).2.1 missing).2 _ (by cbv)
  · exact (compile_register c "odd" odd f).2.2.2 ⟨"b", .ofValue "odd" .null, []⟩ ⟨rfl, rfl, rfl, free⟩
  · refine (compile_register (c.register "odd" odd) "odd" yes f).2.2.1 ?_
    rw [first, second, ne_eq, Except.ok.injEq]
    decide

end Filter

end FilterTree
