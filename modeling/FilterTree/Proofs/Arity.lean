import FilterTree.Proofs.Acceptance
import FilterTree.Proofs.Builtin
import Mathlib

/-!
# What an arity mismatch tells

* `Operand.carried` : the values that an operand carries. Their number is its size.
* `fullForm?` : the SQL of the operator with a keyword, both ends given where it is a range.
* `arityOf?_eq_placeholders` : an operator takes as many values as its full form has question marks.
* `Operand.size_eq_iff_of_misfit` : an operand that does not fit carries another number of values than it should, or it is
  a list of one where a single value is asked for.
* `Filter.compile_arityMismatch` : an arity mismatch names the operator of the first leaf that fails, how many values that
  operator takes and how many it was given. The two numbers differ, but for a list of one.
* `Filter.compile_list_of_one` : such a list is refused with the same number twice.
-/

namespace FilterTree

/-! ## Operands that do not fit -/

namespace Operand

variable {x : Operand} {n : Nat}

/-- The values that are carried. A single null is none. -/
def carried : Operand → List Literal
  | .one v => v.present.toList
  | .many vs => vs

theorem length_carried (x : Operand) : x.carried.length = x.size := by
  cases x with
  | one v => cases v <;> rfl
  | many vs => rfl

theorem size_one_le (v : Literal) : (one v).size ≤ 1 := by
  rw [size]
  split <;> decide

theorem fits_many_iff {vs : List Literal} : (many vs).Fits n ↔ n = 0 ∨ (vs.length = n ∧ n ≠ 1) := by
  match n with
  | 0 => simp [Fits]
  | 1 => simp [Fits]
  | n + 2 => simp [Fits]

theorem fits_one_value_iff {v : Literal} : (one v).Fits n ↔ n ≤ 1 := by
  match n with
  | 0 => simp [Fits]
  | 1 => simp [Fits]
  | n + 2 => simp [Fits]

/-- The number of values tells that an operand does not fit, unless it is a list of one. -/
theorem size_eq_iff_of_misfit (h : ¬x.Fits n) : x.size = n ↔ n = 1 ∧ ∃ v, x = .many [v] := by
  cases x with
  | one v =>
    have few := size_one_le v
    have more : 1 < n := by simpa [fits_one_value_iff] using h
    constructor
    · intro same
      omega
    · rintro ⟨rfl, -⟩
      exact absurd more (lt_irrefl 1)
  | many vs =>
    rw [fits_many_iff, not_or, not_and, not_not] at h
    constructor
    · intro same
      obtain rfl : n = 1 := h.2 same
      obtain ⟨v, rfl⟩ := List.length_eq_one_iff.1 same
      exact ⟨rfl, v, rfl⟩
    · rintro ⟨rfl, v, eq⟩
      cases eq
      rfl

end Operand

/-! ## What an operator takes -/

section

variable {t? : String → Option Template} {keyword : String}

/-- The SQL of the operator with a keyword, if there is one. Built-in operators come before templates. -/
def fullForm? (t? : String → Option Template) (keyword : String) : Option String :=
  match Operator.ofKeyword? keyword with
  | some o => some o.template
  | none => (t? keyword).map Template.text

theorem arityOf?_eq_placeholders (t? : String → Option Template) (keyword : String) :
    arityOf? t? keyword = (fullForm? t? keyword).map placeholders := by
  unfold arityOf? fullForm?
  cases Operator.ofKeyword? keyword with
  | some o => rw [Option.map_some, Operator.placeholders_eq_arity]
  | none =>
    rw [Option.map_map]
    rfl

theorem arityOf?_builtin {o : Operator} {n : Nat} (takes : arityOf? t? keyword = some n)
    (builtin : Operator.ofKeyword? keyword = some o) : n = if o.isRange then 2 else 1 := by
  rw [arityOf?, builtin] at takes
  exact (Option.some.inj takes).symm

theorem arityOf?_registered {n : Nat} (takes : arityOf? t? keyword = some n)
    (other : Operator.ofKeyword? keyword = none) : ∃ t, t? keyword = some t ∧ n = t.arity := by
  rw [arityOf?, other] at takes
  obtain ⟨t, registered, rfl⟩ := Option.map_eq_some_iff.1 takes
  exact ⟨t, registered, rfl⟩

end

/-- A leaf that fails with an arity mismatch has an operator of that arity, and an operand that does not fit it. -/
theorem Leaf.compile_eq_arityMismatch_iff {c : Catalog} {t? : String → Option Template} (hc : c.Templated t?) {l : Leaf}
    {operator : String} {expected got : Nat} :
    l.compile c = .error (.arityMismatch operator expected got) ↔
      (c.isAllowed l.field = true ∧ l.includes = [] ∧ l.condition.operator ≠ "") ∧
        arityOf? t? l.condition.operator = some expected ∧ ¬l.condition.operand.Fits expected ∧
        operator = l.condition.operator ∧ got = l.condition.operand.size := by
  rw [compile_eq_error_iff hc]
  constructor
  · intro refused
    cases refused with
    | arity allowed bare given takes misfit => exact ⟨⟨allowed, bare, given⟩, takes, misfit, rfl, rfl⟩
  · rintro ⟨⟨allowed, bare, given⟩, takes, misfit, rfl, rfl⟩
    exact .arity allowed bare given takes misfit

namespace Filter

/-- An arity mismatch is that of the first leaf that fails. It names the operator of that leaf, the number of question marks
in its full form, which is two for a range, one for any other built-in operator and else the arity of the template, and the
number of values that the operand carries. The last two differ, unless the operator takes one value and is given a list of
one. -/
theorem compile_arityMismatch {c : Catalog} {t? : String → Option Template} (hc : c.Templated t?) {f : Filter}
    {operator : String} {expected got : Nat} (h : f.compile c = .error (.arityMismatch operator expected got)) :
    ∃ before l after text,
      f.leaves = before ++ l :: after ∧ (∀ b ∈ before, b.Compiles c) ∧
      l.compile c = .error (.arityMismatch operator expected got) ∧
      operator = l.condition.operator ∧ got = l.condition.operand.carried.length ∧
      fullForm? t? operator = some text ∧ expected = placeholders text ∧
      (∀ o, Operator.ofKeyword? operator = some o → expected = if o.isRange then 2 else 1) ∧
      (Operator.ofKeyword? operator = none → ∃ t, t? operator = some t ∧ expected = t.arity) ∧
      (got = expected ↔ expected = 1 ∧ ∃ v, l.condition.operand = .many [v]) := by
  obtain ⟨before, l, after, leaves, sound, fails⟩ := firstFault?_eq_some_iff.1 (compile_eq_error_iff.1 h)
  obtain ⟨-, takes, misfit, rfl, rfl⟩ := (Leaf.compile_eq_arityMismatch_iff hc).1 fails
  obtain ⟨text, form, marks⟩ := Option.map_eq_some_iff.1 ((arityOf?_eq_placeholders t? _).symm.trans takes)
  refine ⟨before, l, after, text, leaves, sound, fails, rfl, (Operand.length_carried _).symm, form, marks.symm, ?_, ?_, ?_⟩
  · intro o builtin
    exact arityOf?_builtin takes builtin
  · intro other
    exact arityOf?_registered takes other
  · exact Operand.size_eq_iff_of_misfit misfit

/-- Three values for a range and, behind it, a list of none for a single value. In front of both stand a test that is sound
and a list of one for a template without values. -/
theorem compile_arityMismatch_range :
    let t : Template := ⟨"\x7bfield\x7d IS NULL", by decide⟩
    let f := all [test "a" (.ofValue "equal" (.int 1)), test "b" (.list "absent" [.int 1]),
      any [test "c" (.list "between" [.int 1, .null, .int 2])], test "d" (.list "equal" [])]
    f.compile (Catalog.unrestricted.register "absent" t.apply) = .error (.arityMismatch "between" 2 3) ∧
      ∃ before l after, f.leaves = before ++ l :: after ∧
        (∀ b ∈ before, b.Compiles (Catalog.unrestricted.register "absent" t.apply)) ∧
        "between" = l.condition.operator ∧ 3 = l.condition.operand.carried.length ∧
        (3 = 2 ↔ 2 = 1 ∧ ∃ v, l.condition.operand = .many [v]) := by
  intro t f
  have fails : f.compile (Catalog.unrestricted.register "absent" t.apply) = .error (.arityMismatch "between" 2 3) := by
    cbv
  obtain ⟨before, l, after, -, leaves, sound, -, operator, got, -, -, -, -, differ⟩ :=
    compile_arityMismatch (Catalog.templated_unrestricted.register "absent" t) fails
  exact ⟨fails, before, l, after, leaves, sound, operator, got, differ⟩

/-- A list of one is refused by an operator that takes one value, and the message gives the same number twice. -/
theorem compile_list_of_one :
    Catalog.unrestricted.Templated (fun _ => none) ∧
      (test "a" (.list "equal" [.int 1])).compile .unrestricted = .error (.arityMismatch "equal" 1 1) ∧
      (Error.arityMismatch "equal" 1 1).message = "Operator 'equal' expects 1 value(s), got 1" := by
  refine ⟨Catalog.templated_unrestricted, by cbv, ?_⟩
  have one : Json.count 1 = "1" := by
    rw [Json.count, Decimal.ofNat_of_lt (by decide)]
    rfl
  show "Operator '" ++ "equal" ++ "' expects " ++ Json.count 1 ++ " value(s), got " ++ Json.count 1 = _
  rw [one]
  decide

end Filter

end FilterTree
