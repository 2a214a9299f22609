import FilterTree.Proofs.Layout
import FilterTree.Proofs.Outline
import Mathlib

/-!
# Which filters have a clause

* `Leaf.Compiles` : a leaf that has a clause.
* `params_assemble` : the values of a layout are those of its leaves, from left to right.
* `firstFault?_eq_some_iff` : the first fault of leaves is that of a leaf behind ones that compile.
* `Filter.compile_leaves` : a filter has a clause just when each of its leaves has one. Then its values are theirs in
  order. Otherwise it fails as the first leaf that fails.
* `Operand.Fits` : the operands that suit a number of values. No values suit every operand, one value is a single one, and
  more are a list of just as many.
* `arityOf?` : how many values the operator with a keyword takes.
* `Leaf.Accepted` : the leaves that have a clause, told by their field, their keyword and the shape of their operand.
* `Leaf.Refusal` : the errors of all other leaves, each with its reason.
* `Filter.compile_accepted` : a filter has a clause just when its leaves are accepted, and else the refusal of its first leaf
  that is not.
-/

namespace FilterTree

/-! ## The order of the leaves -/

/-- The leaf has a clause. -/
def Leaf.Compiles (c : Catalog) (l : Leaf) : Prop := ∃ m, l.compile c = .ok m

theorem Leaf.fault?_eq_none_iff {c : Catalog} {l : Leaf} : l.fault? c = none ↔ l.Compiles c := by
  unfold fault? Compiles
  cases l.compile c <;> simp

theorem firstFault?_eq_none_iff {c : Catalog} {ls : List Leaf} :
    firstFault? c ls = none ↔ ∀ l ∈ ls, l.Compiles c := by
  rw [firstFault?, List.findSome?_eq_none_iff]
  exact forall₂_congr fun l _ => Leaf.fault?_eq_none_iff

theorem firstFault?_eq_some_iff {c : Catalog} {ls : List Leaf} {e : Error} :
    firstFault? c ls = some e ↔
      ∃ before l after, ls = before ++ l :: after ∧ (∀ b ∈ before, b.Compiles c) ∧ l.compile c = .error e := by
  rw [firstFault?, List.findSome?_eq_some_iff]
  constructor
  · rintro ⟨before, l, after, split, fails, earlier⟩
    exact ⟨before, l, after, split, fun b hb => Leaf.fault?_eq_none_iff.1 (earlier b hb),
      Leaf.fault?_eq_some_iff.1 fails⟩
  · rintro ⟨before, l, after, split, earlier, fails⟩
    exact ⟨before, l, after, split, Leaf.fault?_eq_some_iff.2 fails,
      fun b hb => Leaf.fault?_eq_none_iff.2 (earlier b hb)⟩

/-- The values of a layout are those of its leaves, from left to right. What groups write adds none. -/
theorem params_assemble {c : Catalog} {ps : List Piece} {k : Clause} (h : assemble c ps = .ok k) :
    ∃ ms, List.Forall₂ (fun l m => l.compile c = .ok m) (leavesOf ps) ms ∧ k.params = ms.flatMap Clause.params := by
  induction ps generalizing k with
  | nil =>
    cases h
    exact ⟨[], .nil, rfl⟩
  | cons p ps ih =>
    rw [assemble_cons] at h
    obtain ⟨a, b, ha, hb, rfl⟩ := chain_eq_ok h
    obtain ⟨ms, each, params⟩ := ih hb
    cases p with
    | fixed x =>
      cases ha
      exact ⟨ms, each, params⟩
    | leaf l => exact ⟨a :: ms, .cons ha each, by rw [Clause.params_append, params, List.flatMap_cons]⟩

theorem map_params_assemble {c : Catalog} {ps qs : List Piece} (h : leavesOf ps = leavesOf qs) :
    (assemble c ps).map Clause.params = (assemble c qs).map Clause.params := by
  cases hp : assemble c ps with
  | error e =>
    have fault := assemble_eq_error_iff.1 hp
    rw [h] at fault
    rw [assemble_eq_error_iff.2 fault]
  | ok j =>
    cases hq : assemble c qs with
    | error e =>
      have fault := assemble_eq_error_iff.1 hq
      rw [← h] at fault
      rw [assemble_eq_error_iff.2 fault] at hp
      cases hp
    | ok k =>
      obtain ⟨ms, hms, hj⟩ := params_assemble hp
      obtain ⟨ns, hns, hk⟩ := params_assemble hq
      -- A leaf has one clause at most, so the leaves have one list of clauses.
      have unique : Relator.RightUnique fun (l : Leaf) m => l.compile c = .ok m := by
        intro l a b ha hb
        rw [ha] at hb
        exact Except.ok.inj hb
      rw [h] at hms
      rw [Except.map, Except.map, hj, hk, List.right_unique_forall₂' unique hms hns]

namespace Filter

/-- A filter has a clause just when each of its leaves has one by itself. Then the values of the clause are those of the
leaves' clauses, from left to right; groups and glue do not count. Otherwise the filter fails with the very error of the
first leaf that fails by itself, whatever stands behind that leaf. -/
theorem compile_leaves (c : Catalog) (f : Filter) :
    ((∃ k, f.compile c = .ok k) ↔ ∀ l ∈ f.leaves, l.Compiles c) ∧
    (∀ k, f.compile c = .ok k → ∃ ms, List.Forall₂ (fun l m => l.compile c = .ok m) f.leaves ms ∧
      k.params = ms.flatMap Clause.params) ∧
    (∀ g : Filter, g.leaves = f.leaves →
      (g.compile c).map Clause.params = (f.compile c).map Clause.params) ∧
    ∀ e, f.compile c = .error e ↔
      ∃ before l after, f.leaves = before ++ l :: after ∧ (∀ b ∈ before, b.Compiles c) ∧ l.compile c = .error e := by
  refine ⟨?_, ?_, ?_, ?_⟩
  · rw [← firstFault?_eq_none_iff]
    cases h : f.compile c with
    | error e => simp [compile_eq_error_iff.1 h]
    | ok k =>
      have sound : firstFault? c f.leaves = none := by
        rw [Option.eq_none_iff_forall_ne_some]
        intro e he
        rw [compile_eq_error_iff.2 he] at h
        cases h
      simp [sound]
  · intro k hk
    rw [compile_eq_assemble] at hk
    obtain ⟨ms, each, params⟩ := params_assemble hk
    rw [leavesOf_pieces] at each
    exact ⟨ms, each, params⟩
  · intro g hg
    rw [compile_eq_assemble, compile_eq_assemble]
    apply map_params_assemble
    rw [leavesOf_pieces, leavesOf_pieces, hg]
  · intro e
    rw [compile_eq_error_iff, firstFault?_eq_some_iff]

/-- A handler's refusal in the middle of a group is the error of the whole, though a leaf behind it fails as well. -/
theorem compile_leaves_refused :
    let refuse : Handler := fun _ _ _ => .error (.operation "refused")
    let f := all [test "a" (.ofValue "equal" (.int 1)), any [test "b" (.ofValue "odd" .null), all []],
      test "c" (.ofValue "unknown" .null)]
    f.compile (Catalog.unrestricted.register "odd" refuse) = .error (.operation "refused") := by
  intro refuse f
  refine ((compile_leaves (Catalog.unrestricted.register "odd" refuse) f).2.2.2 _).2
    ⟨[⟨"a", .ofValue "equal" (.int 1), []⟩], ⟨"b", .ofValue "odd" .null, []⟩,
      [⟨"c", .ofValue "unknown" .null, []⟩], rfl, ?_, rfl⟩
  intro b hb
  rw [List.mem_singleton] at hb
  exact ⟨⟨"a = ?", [.int 1]⟩, by rw [hb]; cbv⟩

end Filter

/-! ## Accepted leaves -/

/-- The operands for so many values. -/
def Operand.Fits : Nat → Operand → Prop
  | 0, _ => True
  | 1, x => ∃ v, x = .one v
  | n + 2, x => ∃ vs, x = .many vs ∧ vs.length = n + 2

def Operator.arity (o : Operator) : Nat := if o.isRange then 2 else 1

/-- How many values the operator with a keyword takes, if there is one. Built-in operators come before templates. -/
def arityOf? (t? : String → Option Template) (keyword : String) : Option Nat :=
  match Operator.ofKeyword? keyword with
  | some o => some o.arity
  | none => (t? keyword).map Template.arity

namespace Leaf

/-- The leaves that have a clause. A degenerate leaf is one of them, whatever its field. Any other needs an allowed field, and
its operator and operand count only where it has no set of values. -/
def Accepted (c : Catalog) (t? : String → Option Template) (l : Leaf) : Prop :=
  l.isDegenerate = true ∨
    (c.isAllowed l.field = true ∧
      (l.includes ≠ [] ∨ l.condition.operator = "" ∨
        ∃ n, arityOf? t? l.condition.operator = some n ∧ l.condition.operand.Fits n))

/-- The errors of a leaf. The field comes first, and a set of values shields operator and operand. -/
inductive Refusal (c : Catalog) (t? : String → Option Template) (l : Leaf) : Error → Prop where
  | field (tests : l.isDegenerate = false) (denied : c.isAllowed l.field = false) :
    Refusal c t? l (.fieldNotAllowed l.field)
  | arity {n : Nat} (allowed : c.isAllowed l.field = true) (bare : l.includes = []) (given : l.condition.operator ≠ "")
    (takes : arityOf? t? l.condition.operator = some n) (misfit : ¬l.condition.operand.Fits n) :
    Refusal c t? l (.arityMismatch l.condition.operator n l.condition.operand.size)
  | unknown (allowed : c.isAllowed l.field = true) (bare : l.includes = []) (given : l.condition.operator ≠ "")
    (missing : arityOf? t? l.condition.operator = none) : Refusal c t? l (.unknownOperator l.condition.operator)

end Leaf

/-! ## Operands -/

namespace Operand

variable {x : Operand} {operator : String} {e : Error}

theorem fits_one_iff : x.Fits 1 ↔ ∃ v, x = .one v := Iff.rfl

theorem fits_two_iff : x.Fits 2 ↔ ∃ low high, x = .many [low, high] := by
  constructor
  · rintro ⟨vs, rfl, two⟩
    obtain ⟨low, high, rfl⟩ := List.length_eq_two.1 two
    exact ⟨low, high, rfl⟩
  · rintro ⟨low, high, rfl⟩
    exact ⟨[low, high], rfl, rfl⟩

theorem single_eq_error_iff : x.single operator = .error e ↔ ¬x.Fits 1 ∧ e = .arityMismatch operator 1 x.size := by
  rw [fits_one_iff]
  cases x with
  | one v => simp [single]
  | many vs => simp [single, size, eq_comm]

theorem bounds_eq_error_iff : x.bounds operator = .error e ↔ ¬x.Fits 2 ∧ e = .arityMismatch operator 2 x.size := by
  rw [fits_two_iff]
  unfold bounds
  split
  · simp
  · rename_i other
    have misfit : ¬∃ low high, x = .many [low, high] := by
      rintro ⟨low, high, rfl⟩
      exact other low high rfl
    simp [misfit, eq_comm]

end Operand

theorem Template.values_eq_error_iff {n : Nat} {operator : String} {x : Operand} {e : Error} :
    values n operator x = .error e ↔ ¬x.Fits n ∧ e = .arityMismatch operator n x.size := by
  match n with
  | 0 => simp [values, Operand.Fits]
  | 1 =>
    rw [← Operand.single_eq_error_iff, values]
    cases x.single operator <;> simp [Except.map]
  | n + 2 =>
    cases x with
    | one v => simp [values, Operand.Fits, eq_comm]
    | many vs =>
      by_cases enough : vs.length = n + 2
      · simp [values, Operand.Fits, enough]
      · simp [values, Operand.Fits, Operand.size, enough, eq_comm]

theorem Template.apply_eq_error_iff {t : Template} {field operator : String} {x : Operand} {e : Error} :
    t.apply field operator x = .error e ↔ ¬x.Fits t.arity ∧ e = .arityMismatch operator t.arity x.size := by
  rw [← values_eq_error_iff, apply]
  cases values t.arity operator x <;> simp

theorem Operator.arity_of_range {o : Operator} {r : Range} (h : o.range? = some r) : o.arity = 2 := by
  rw [arity, isRange_eq, h, Option.isSome_some, if_pos rfl]

theorem Operator.arity_of_single {o : Operator} (h : o.range? = none) : o.arity = 1 := by
  rw [arity, isRange_eq, h, Option.isSome_none, if_neg Bool.false_ne_true]

theorem Operator.compile_eq_error_iff {o : Operator} {field : String} {x : Operand} {e : Error} :
    o.compile field x = .error e ↔ ¬x.Fits o.arity ∧ e = .arityMismatch o.keyword o.arity x.size := by
  have map_error : ∀ {α β : Type} {y : Except Error α} {f : α → β}, y.map f = .error e ↔ y = .error e := by
    intro α β y f
    cases y <;> simp [Except.map]
  unfold compile
  cases range : o.range? with
  | some r => rw [map_error, Operand.bounds_eq_error_iff, arity_of_range range]
  | none => rw [map_error, Operand.single_eq_error_iff, arity_of_single range]

/-! ## Leaves -/

section

variable {c : Catalog} {t? : String → Option Template}

theorem Condition.compile_eq_error_iff (hc : c.Templated t?) {x : Condition} {field : String} {e : Error} :
    x.compile field c = .error e ↔ x.operator ≠ "" ∧
      ((∃ n, arityOf? t? x.operator = some n ∧ ¬x.operand.Fits n ∧ e = .arityMismatch x.operator n x.operand.size) ∨
        (arityOf? t? x.operator = none ∧ e = .unknownOperator x.operator)) := by
  unfold compile arityOf?
  by_cases vacant : x.operator = ""
  · simp [vacant]
  · rw [if_neg (by simpa using vacant), and_iff_right vacant]
    cases builtin : Operator.ofKeyword? x.operator with
    | some o => simp [Operator.compile_eq_error_iff, Operator.keyword_of_ofKeyword? builtin]
    | none =>
      rw [hc x.operator]
      cases t? x.operator with
      | some t => simp [Template.apply_eq_error_iff]
      | none => simp [eq_comm]

namespace Leaf

/-- A leaf fails with its refusals and with no other error. -/
theorem compile_eq_error_iff (hc : c.Templated t?) {l : Leaf} {e : Error} : l.compile c = .error e ↔ l.Refusal c t? e := by
  unfold compile
  constructor
  · intro h
    split at h
    · cases h
    · rename_i tests
      split at h
      · rename_i denied
        cases h
        exact .field (by simpa using tests) (by simpa using denied)
      · rename_i allowed
        split at h
        · cases h
        · rename_i bare
          obtain ⟨given, ⟨n, takes, misfit, rfl⟩ | ⟨missing, rfl⟩⟩ := (Condition.compile_eq_error_iff hc).1 h
          · exact .arity (by simpa using allowed) (by simpa using bare) given takes misfit
          · exact .unknown (by simpa using allowed) (by simpa using bare) given missing
  · intro h
    cases h with
    | field tests denied => simp [tests, denied]
    | arity allowed bare given takes misfit =>
      have fails : l.condition.compile l.field c = .error (.arityMismatch _ _ _) :=
        (Condition.compile_eq_error_iff hc).2 ⟨given, .inl ⟨_, takes, misfit, rfl⟩⟩
      simp [isDegenerate, allowed, bare, given, fails]
    | unknown allowed bare given missing =>
      have fails : l.condition.compile l.field c = .error (.unknownOperator _) :=
        (Condition.compile_eq_error_iff hc).2 ⟨given, .inr ⟨missing, rfl⟩⟩
      simp [isDegenerate, allowed, bare, given, fails]

theorem accepted_iff_forall_not_refusal {l : Leaf} : l.Accepted c t? ↔ ∀ e, ¬l.Refusal c t? e := by
  constructor
  · rintro accepted e refused
    cases refused with
    | field tests denied =>
      rcases accepted with degenerate | ⟨allowed, -⟩
      · rw [tests] at degenerate
        cases degenerate
      · rw [denied] at allowed
        cases allowed
    | arity _ bare given takes misfit =>
      rcases accepted with degenerate | ⟨-, filled | vacant | ⟨n, takes', fits⟩⟩
      · simp [isDegenerate, given] at degenerate
      · exact filled bare
      · exact given vacant
      · rw [takes] at takes'
        cases takes'
        exact misfit fits
    | unknown _ bare given missing =>
      rcases accepted with degenerate | ⟨-, filled | vacant | ⟨n, takes, -⟩⟩
      · simp [isDegenerate, given] at degenerate
      · exact filled bare
      · exact given vacant
      · rw [missing] at takes
        cases takes
  · intro sound
    by_contra rejected
    rw [Accepted, not_or, not_and, Bool.not_eq_true] at rejected
    obtain ⟨tests, rejected⟩ := rejected
    cases allowed : c.isAllowed l.field with
    | false => exact sound _ (.field tests allowed)
    | true =>
      have rejected := rejected allowed
      rw [not_or, not_or, not_not] at rejected
      obtain ⟨bare, given, misfit⟩ := rejected
      cases takes : arityOf? t? l.condition.operator with
      | none => exact sound _ (.unknown allowed bare given takes)
      | some n => exact sound _ (.arity allowed bare given takes fun fits => misfit ⟨n, takes, fits⟩)

theorem compiles_iff_accepted (hc : c.Templated t?) {l : Leaf} : l.Compiles c ↔ l.Accepted c t? := by
  rw [accepted_iff_forall_not_refusal, Compiles]
  simp only [← compile_eq_error_iff hc]
  cases l.compile c <;> simp

end Leaf

namespace Filter

theorem exists_compile_iff (hc : c.Templated t?) {f : Filter} :
    (∃ k, f.compile c = .ok k) ↔ ∀ l ∈ f.leaves, l.Accepted c t? := by
  have sound : (∃ k, f.compile c = .ok k) ↔ firstFault? c f.leaves = none := by
    rw [Option.eq_none_iff_forall_ne_some]
    simp only [ne_eq, ← compile_eq_error_iff]
    cases f.compile c <;> simp
  rw [sound, firstFault?_eq_none_iff]
  exact forall₂_congr fun l _ => Leaf.compiles_iff_accepted hc

theorem compile_eq_refusal_iff (hc : c.Templated t?) {f : Filter} {e : Error} :
    f.compile c = .error e ↔
      ∃ before l after, f.leaves = before ++ l :: after ∧ (∀ b ∈ before, b.Accepted c t?) ∧ l.Refusal c t? e := by
  rw [compile_eq_error_iff, firstFault?_eq_some_iff]
  simp only [Leaf.compiles_iff_accepted hc, Leaf.compile_eq_error_iff hc]

/-- A filter has a clause just when each of its leaves is accepted. Otherwise its error is the refusal of its first leaf that
is not: the field of that leaf is not allowed, or its operand does not fit its operator, or there is no such operator. Of one
leaf the field is refused before the operator, and a leaf with a set of values is refused for nothing but its field. -/
theorem compile_accepted (hc : c.Templated t?) (f : Filter) :
    ((∃ k, f.compile c = .ok k) ↔ ∀ l ∈ f.leaves, l.Accepted c t?) ∧
    (∀ e, f.compile c = .error e ↔
      ∃ before l after, f.leaves = before ++ l :: after ∧ (∀ b ∈ before, b.Accepted c t?) ∧ l.Refusal c t? e) ∧
    ∀ l : Leaf,
      (l.isDegenerate = false → c.isAllowed l.field = false → l.compile c = .error (.fieldNotAllowed l.field)) ∧
      (l.includes ≠ [] → c.isAllowed l.field = true → l.compile c = .ok (memberClause l.field l.includes)) := by
  refine ⟨exists_compile_iff hc, fun e => compile_eq_refusal_iff hc, ?_⟩
  intro l
  constructor
  · intro tests denied
    exact (Leaf.compile_eq_error_iff hc).2 (.field tests denied)
  · intro filled allowed
    simp [Leaf.compile, Leaf.isDegenerate, filled, allowed]

/-- Two values for a template that takes three. A template under the keyword of a built-in operator does not count, and neither
does the field that is not allowed, which stands further behind. -/
theorem compile_accepted_within :
    let t : Template := ⟨"\x7bfield\x7d IN(?, ?, ?)", by decide⟩
    let c := ((Catalog.unrestricted.allow ["a"]).register "within" t.apply).register "equal" t.apply
    (all [blank, test "a" (.ofValue "equal" (.int 1)), any [test "a" (.list "within" [.null, .int 2]), member "b" [.null]]]).compile
        c = .error (.arityMismatch "within" 3 2) ∧
      ∃ k, (all [blank, any [test "a" (.list "within" [.null, .int 2, .null]), member "a" [.null]]]).compile c = .ok k := by
  intro t c
  have templated := ((Catalog.templated_unrestricted.allow ["a"]).register "within" t).register "equal" t
  have allowed : c.isAllowed "a" = true := by cbv
  have three : arityOf? (fun x => if x = "equal" then some t else if x = "within" then some t else none) "within" = some 3 := by
    cbv
  constructor
  · refine ((compile_accepted templated _).2.1 _).2 ⟨[.blank, ⟨"a", .ofValue "equal" (.int 1), []⟩],
      ⟨"a", .list "within" [.null, .int 2], []⟩, [⟨"b", .vacant, [.null]⟩], rfl, ?_, ?_⟩
    · intro l hl
      rcases List.mem_cons.1 hl with rfl | hl
      · exact .inl rfl
      · rw [List.mem_singleton.1 hl]
        exact .inr ⟨allowed, .inr (.inr ⟨1, rfl, .int 1, rfl⟩)⟩
    · refine .arity allowed rfl (by decide) three ?_
      rintro ⟨vs, eq, len⟩
      cases eq
      cases len
  · refine (compile_accepted templated _).1.2 ?_
    intro l hl
    rcases List.mem_cons.1 hl with rfl | hl
    · exact .inl rfl
    · rcases List.mem_cons.1 hl with rfl | hl
      · exact .inr ⟨allowed, .inr (.inr ⟨3, three, [.null, .int 2, .null], rfl, rfl⟩)⟩
      · rw [List.mem_singleton.1 hl]
        exact .inr ⟨allowed, .inl (by decide)⟩

end Filter

end

end FilterTree
