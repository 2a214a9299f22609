import FilterTree.Dictionary
import FilterTree.Filter
import FilterTree.Operator
import FilterTree.Text.Basic

/-!
# Catalogs, and from filters to clauses

* `Handler` : the meaning of an operator that is not built in.
* `Catalog` : the fields that a filter may name, and the operators that it may use beyond the built-in ones.
* `Catalog.allow`, `Catalog.register` : a catalog with more fields, and with one more operator.
* `Catalog.isAllowed`, `Catalog.handler?` : the two look-ups.
* `Catalog.isAllowed_allow`, `Catalog.handler?_register` : what they see behind an addition.
* `Catalog.describe` : the text for a reader.
* `Leaf.compile` : the clause of one test.
* `Filter.compile` : the clause of a filter: those of its children with the glue between them. A group of
  several is put in parentheses, however little its children say.
* `Leaf.compile_cases`, `Condition.compile_cases` : what has been written where there is a clause.
-/

namespace FilterTree

/-! ## Catalogs -/

/-- The clause for a field, the operator's keyword and an operand. -/
abbrev Handler := String → String → Operand → Except Error Clause

/-- The fields that a filter may name, where these are limited, and the operators beyond the built-in ones. -/
structure Catalog where
  whitelist : Option NameSet
  operations : Dictionary Handler
deriving Inhabited

namespace Catalog

def unrestricted : Catalog := ⟨none, .empty⟩

/-- The catalog with more fields allowed. Only these are allowed where all were before. -/
def allow (c : Catalog) (fields : List String) : Catalog :=
  { c with whitelist := some (fields.foldl (fun s f => s.insert f ()) (c.whitelist.getD .empty)) }

/-- The catalog with a handler for a keyword, in place of an earlier one. -/
def register (c : Catalog) (keyword : String) (handler : Handler) : Catalog :=
  { c with operations := c.operations.insert keyword handler }

/-- Whether a filter may name a field. -/
def isAllowed (c : Catalog) (field : String) : Bool :=
  match c.whitelist with
  | none => true
  | some s => s.keys.contains field

/-- The fields that are allowed, in order, where they are limited. -/
def fields? (c : Catalog) : Option (List String) := c.whitelist.map Dictionary.keys

/-- The handler for a keyword. -/
def handler? (c : Catalog) (keyword : String) : Option Handler := c.operations.get? keyword

def keywords (c : Catalog) : List String := c.operations.keys

@[simp] theorem isAllowed_unrestricted (field : String) : unrestricted.isAllowed field = true := rfl

@[simp] theorem handler?_unrestricted (keyword : String) : unrestricted.handler? keyword = none := rfl

@[simp] theorem keywords_unrestricted : unrestricted.keywords = [] := rfl

/-- More fields are allowed beside those of a whitelist, but instead of all fields where there is none. -/
theorem isAllowed_allow {c : Catalog} {fields : List String} {field : String} :
    (c.allow fields).isAllowed field = true ↔
      field ∈ fields ∨ c.whitelist.isSome = true ∧ c.isAllowed field = true := by
  unfold isAllowed allow
  cases c.whitelist <;> simp [NameSet.mem_keys_foldl]

@[simp] theorem handler?_allow (c : Catalog) (fields : List String) (keyword : String) :
    (c.allow fields).handler? keyword = c.handler? keyword := rfl

@[simp] theorem keywords_allow (c : Catalog) (fields : List String) : (c.allow fields).keywords = c.keywords := rfl

theorem handler?_register (c : Catalog) (keyword x : String) (handler : Handler) :
    (c.register keyword handler).handler? x = if x = keyword then some handler else c.handler? x :=
  Dictionary.get?_insert _ _ _ _

theorem handler?_eq_none_iff {c : Catalog} {keyword : String} : c.handler? keyword = none ↔ keyword ∉ c.keywords :=
  Dictionary.get?_eq_none_iff

@[simp] theorem mem_keywords_register {c : Catalog} {keyword x : String} {handler : Handler} :
    x ∈ (c.register keyword handler).keywords ↔ x = keyword ∨ x ∈ c.keywords :=
  Dictionary.mem_keys_insert

def describe (c : Catalog) : String :=
  let whitelist := match c.fields? with
    | none => "None"
    | some fields => "Some(\x7b" ++ String.intercalate ", " (fields.map Text.quote) ++ "\x7d)"
  "SqlConfig \x7b whitelist: " ++ whitelist ++ ", operations: " ++ Text.quoteAll c.keywords ++ " \x7d"

end Catalog

/-! ## Clauses of filters -/

/-- Membership of a field in a set of values. -/
def memberClause (field : String) (vs : List Literal) : Clause :=
  ⟨field ++ " IN(" ++ String.intercalate ", " (vs.map fun _ => "?") ++ ")", vs⟩

/-- The clause of a condition on a field. Built-in operators come before registered ones. -/
def Condition.compile (x : Condition) (field : String) (c : Catalog) : Except Error Clause :=
  if x.operator.isEmpty then .ok .empty
  else match Operator.ofKeyword? x.operator with
    | some o => o.compile field x.operand
    | none => match c.handler? x.operator with
      | some h => h field x.operator x.operand
      | none => .error (.unknownOperator x.operator)

/-- The clause of one test. Its field is checked before all else, unless the leaf is degenerate. -/
def Leaf.compile (l : Leaf) (c : Catalog) : Except Error Clause :=
  if l.isDegenerate then .ok .empty
  else if !c.isAllowed l.field then .error (.fieldNotAllowed l.field)
  else if !l.includes.isEmpty then .ok (memberClause l.field l.includes)
  else l.condition.compile l.field c

theorem Condition.compile_cases {x : Condition} {field : String} {c : Catalog} {k : Clause}
    (h : x.compile field c = .ok k) :
    (x.operator = "" ∧ k = .empty) ∨
    (x.operator ≠ "" ∧ ∃ o, Operator.ofKeyword? x.operator = some o ∧ o.compile field x.operand = .ok k) ∨
    (x.operator ≠ "" ∧ Operator.ofKeyword? x.operator = none ∧
      ∃ handler, c.handler? x.operator = some handler ∧ handler field x.operator x.operand = .ok k) := by
  unfold compile at h
  by_cases vacant : x.operator.isEmpty = true
  · rw [if_pos vacant] at h
    exact .inl ⟨by simpa using vacant, (Except.ok.inj h).symm⟩
  · have given : x.operator ≠ "" := by simpa using vacant
    rw [if_neg vacant] at h
    cases ho : Operator.ofKeyword? x.operator with
    | some o =>
      rw [ho] at h
      exact .inr (.inl ⟨given, o, rfl, h⟩)
    | none =>
      rw [ho] at h
      cases hh : c.handler? x.operator with
      | some handler =>
        rw [hh] at h
        exact .inr (.inr ⟨given, rfl, handler, rfl, h⟩)
      | none =>
        rw [hh] at h
        cases h

theorem Leaf.compile_cases {l : Leaf} {c : Catalog} {k : Clause} (h : l.compile c = .ok k) :
    (l.includes ≠ [] ∧ k = memberClause l.field l.includes) ∨
    (l.includes = [] ∧ l.condition.compile l.field c = .ok k) := by
  unfold compile at h
  by_cases degenerate : l.isDegenerate = true
  · rw [if_pos degenerate] at h
    rw [isDegenerate, Bool.and_eq_true, Bool.and_eq_true] at degenerate
    refine .inr ⟨by simpa using degenerate.2, ?_⟩
    rw [Condition.compile, if_pos degenerate.1.2, h]
  · rw [if_neg degenerate] at h
    by_cases refused : (!c.isAllowed l.field) = true
    · rw [if_pos refused] at h
      cases h
    · rw [if_neg refused] at h
      by_cases filled : (!l.includes.isEmpty) = true
      · rw [if_pos filled] at h
        exact .inl ⟨by simpa using filled, (Except.ok.inj h).symm⟩
      · rw [if_neg filled] at h
        exact .inr ⟨by simpa using filled, h⟩

namespace Filter

mutual

/-- The clause of a filter, or the first error from the left. -/
def compile (c : Catalog) : Filter → Except Error Clause
  | .leaf l => l.compile c
  | .group glue rules => match compileAll c rules with
    | .ok clauses => .ok (.join glue.joiner clauses)
    | .error e => .error e

def compileAll (c : Catalog) : List Filter → Except Error (List Clause)
  | [] => .ok []
  | f :: fs => match compile c f with
    | .error e => .error e
    | .ok clause => match compileAll c fs with
      | .error e => .error e
      | .ok clauses => .ok (clause :: clauses)

end

end Filter

end FilterTree
