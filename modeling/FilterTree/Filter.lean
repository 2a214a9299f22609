import FilterTree.Operand

/-!
# Filters

* `Glue` : how the children of a group are combined.
* `Condition` : an operator's keyword with its operand. An empty keyword is no condition.
* `Leaf` : a test of one field.
* `Filter` : a leaf, or a group of filters.
* `Filter.depth` : the number of nodes on the longest way from the root to a leaf or to an empty group.
* `Filter.leaves` : the leaves from left to right.
-/

namespace FilterTree

/-- How the children of a group are combined. -/
inductive Glue where
  | and
  | or
deriving DecidableEq, Inhabited

namespace Glue

/-- The glue that a keyword selects: `or` for that word, `and` for any other text. -/
def ofKeyword (keyword : String) : Glue := if keyword = "or" then .or else .and

def keyword : Glue → String
  | .and => "and"
  | .or => "or"

def display : Glue → String
  | .and => "AND"
  | .or => "OR"

def joiner (g : Glue) : String := " " ++ g.display ++ " "

/-- The glue of a group that names none. -/
def standard : Glue := .and

@[simp] theorem ofKeyword_keyword (g : Glue) : ofKeyword g.keyword = g := by
  cases g <;> rfl

end Glue

structure Condition where
  operator : String
  operand : Operand
deriving DecidableEq, Inhabited

namespace Condition

def vacant : Condition := ⟨"", .absent⟩

def ofValue (operator : String) (v : Literal) : Condition := ⟨operator, .one v⟩

/-- A condition on a range, of which an end without value is open. -/
def range (operator : String) (low high : Option Literal) : Condition :=
  ⟨operator, .many [low.getD .null, high.getD .null]⟩

def list (operator : String) (vs : List Literal) : Condition := ⟨operator, .many vs⟩

/-- Equality by that of literals. -/
def same (a b : Condition) : Bool := a.operator == b.operator && a.operand.same b.operand

end Condition

/-- A test of one field: membership in a set of values where it has any, else a condition. -/
structure Leaf where
  field : String
  condition : Condition
  includes : List Literal
deriving DecidableEq, Inhabited

namespace Leaf

/-- The leaf without field, operator and values, which matches everything. -/
def blank : Leaf := ⟨"", .vacant, []⟩

/-- No field, no operator and no values. -/
def isDegenerate (l : Leaf) : Bool :=
  l.field.isEmpty && l.condition.operator.isEmpty && l.includes.isEmpty

def same (a b : Leaf) : Bool :=
  a.field == b.field && a.condition.same b.condition && Literal.sameAll a.includes b.includes

end Leaf

/-- A tree of tests. -/
inductive Filter where
  | leaf (l : Leaf)
  | group (glue : Glue) (rules : List Filter)
deriving Inhabited

namespace Filter

def test (field : String) (condition : Condition) : Filter := .leaf ⟨field, condition, []⟩

def member (field : String) (vs : List Literal) : Filter := .leaf ⟨field, .vacant, vs⟩

def blank : Filter := .leaf .blank

def all (rules : List Filter) : Filter := .group .and rules

def any (rules : List Filter) : Filter := .group .or rules

mutual

/-- The number of nodes on the longest way down. -/
def depth : Filter → Nat
  | .leaf _ => 1
  | .group _ rules => 1 + depthAll rules

def depthAll : List Filter → Nat
  | [] => 0
  | f :: fs => max f.depth (depthAll fs)

end

mutual

/-- The leaves from left to right. -/
def leaves : Filter → List Leaf
  | .leaf l => [l]
  | .group _ rules => leavesAll rules

def leavesAll : List Filter → List Leaf
  | [] => []
  | f :: fs => f.leaves ++ leavesAll fs

end

mutual

def same : Filter → Filter → Bool
  | .leaf a, .leaf b => a.same b
  | .group g fs, .group h gs => g == h && sameAll fs gs
  | _, _ => false

def sameAll : List Filter → List Filter → Bool
  | [], [] => true
  | f :: fs, g :: gs => f.same g && sameAll fs gs
  | _, _ => false

end

theorem depth_pos (f : Filter) : 0 < f.depth := by
  cases f with
  | leaf _ => exact Nat.one_pos
  | group _ rules => rw [depth]; omega

@[simp] theorem depthAll_cons (f : Filter) (fs : List Filter) :
    depthAll (f :: fs) = max f.depth (depthAll fs) := rfl

end Filter

end FilterTree
