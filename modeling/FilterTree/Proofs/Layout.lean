import FilterTree.Compile
import FilterTree.Filter
import Mathlib.Data.List.Forall2

/-!
# The layout of a clause

* `Filter.induction` : what holds of every leaf, and of a group when it holds of its rules, holds of every filter.
* `Filter.rules` : the filters right below the root.
* `Filter.nodes` : the nodes of a filter, each group in front of its rules.
* `Filter.mem_nodes_of_mem`, `Filter.mem_leaves_of_mem` : what is in a rule of a group is in the group.
* `Piece`, `Filter.pieces` : a filter laid out as a line: its leaves from left to right, and what its groups write
  around them.
* `assemble` : the clauses of pieces one after the other, or the first error from the left.
* `Filter.compile_eq_assemble` : the clause of a filter is that of its layout, so that what is to be shown of a tree
  can be shown along a list.
* `Filter.compile_eq_error_iff` : a filter fails with the error of its first leaf that fails.
-/

namespace FilterTree.Filter

/-! ## Filters as trees -/

@[elab_as_elim]
theorem induction {P : Filter → Prop} (leaf : ∀ l, P (.leaf l))
    (group : ∀ glue rules, (∀ r ∈ rules, P r) → P (.group glue rules)) (f : Filter) : P f := by
  refine Filter.rec (motive_1 := P) (motive_2 := fun rules => ∀ r ∈ rules, P r) leaf group ?_ ?_ f
  · intro r hr
    cases hr
  · intro f fs hf hfs r hr
    rcases List.mem_cons.1 hr with rfl | hr
    · exact hf
    · exact hfs r hr

def rules : Filter → List Filter
  | .leaf _ => []
  | .group _ rules => rules

mutual

/-- The nodes, each in front of those below it, and from left to right. -/
def nodes : Filter → List Filter
  | .leaf l => [.leaf l]
  | .group glue rules => .group glue rules :: nodesAll rules

def nodesAll : List Filter → List Filter
  | [] => []
  | f :: fs => f.nodes ++ nodesAll fs

end

theorem mem_nodesAll {fs : List Filter} {n : Filter} : n ∈ nodesAll fs ↔ ∃ f ∈ fs, n ∈ f.nodes := by
  induction fs with
  | nil => simp [nodesAll]
  | cons f fs ih => simp [nodesAll, ih]

theorem mem_leavesAll {fs : List Filter} {l : Leaf} : l ∈ leavesAll fs ↔ ∃ f ∈ fs, l ∈ f.leaves := by
  induction fs with
  | nil => simp [leavesAll]
  | cons f fs ih => simp [leavesAll, ih]

theorem mem_nodes_of_mem {glue : Glue} {rules : List Filter} {r n : Filter} (hr : r ∈ rules) (hn : n ∈ r.nodes) :
    n ∈ (group glue rules).nodes :=
  List.mem_cons_of_mem _ (mem_nodesAll.2 ⟨r, hr, hn⟩)

theorem mem_leaves_of_mem {glue : Glue} {rules : List Filter} {r : Filter} {l : Leaf} (hr : r ∈ rules)
    (hl : l ∈ r.leaves) : l ∈ (group glue rules).leaves :=
  mem_leavesAll.2 ⟨r, hr, hl⟩

theorem self_mem_nodes (f : Filter) : f ∈ f.nodes := by
  cases f with
  | leaf l => exact List.mem_singleton_self _
  | group glue rules => exact List.mem_cons_self

end FilterTree.Filter

namespace FilterTree

/-! ## Clauses in a row -/

namespace Clause

def append (a b : Clause) : Clause := ⟨a.sql ++ b.sql, a.params ++ b.params⟩

instance : Append Clause := ⟨append⟩

@[simp] theorem sql_append (a b : Clause) : (a ++ b).sql = a.sql ++ b.sql := rfl

@[simp] theorem params_append (a b : Clause) : (a ++ b).params = a.params ++ b.params := rfl

@[simp] theorem sql_empty : empty.sql = "" := rfl

@[simp] theorem params_empty : empty.params = [] := rfl

@[ext] theorem ext {a b : Clause} (hs : a.sql = b.sql) (hp : a.params = b.params) : a = b := by
  cases a
  cases b
  cases hs
  cases hp
  rfl

@[simp] theorem empty_append (a : Clause) : empty ++ a = a :=
  ext (by simp) (by simp)

@[simp] theorem append_empty (a : Clause) : a ++ empty = a :=
  ext (by simp) (by simp)

theorem append_assoc (a b d : Clause) : a ++ b ++ d = a ++ (b ++ d) :=
  ext (String.append_assoc ..) (List.append_assoc ..)

end Clause

/-! ## Pieces -/

/-- What a group writes around its rules. -/
inductive Punctuation where
  | opening
  | closing
  | glue (g : Glue)

/-- The text of a punctuation mark. -/
def Punctuation.text : Punctuation → String
  | .opening => "( "
  | .closing => " )"
  | .glue g => g.joiner

/-- A piece of a clause: a punctuation mark of a group, or the test of a leaf. -/
inductive Piece where
  | fixed (x : Punctuation)
  | leaf (l : Leaf)

namespace Piece

def compile (c : Catalog) : Piece → Except Error Clause
  | .fixed x => .ok ⟨x.text, []⟩
  | .leaf l => l.compile c

def leaf? : Piece → Option Leaf
  | .fixed _ => none
  | .leaf l => some l

/-- Lines of pieces with a glue between them. Several are put in parentheses. -/
def join (glue : Glue) (parts : List (List Piece)) : List Piece :=
  let inner := [.fixed (.glue glue)].intercalate parts
  if parts.length > 1 then .fixed .opening :: inner ++ [.fixed .closing] else inner

end Piece

def leavesOf (ps : List Piece) : List Leaf := ps.filterMap Piece.leaf?

@[simp] theorem leavesOf_nil : leavesOf [] = [] := rfl

@[simp] theorem leavesOf_fixed_cons (x : Punctuation) (ps : List Piece) :
    leavesOf (.fixed x :: ps) = leavesOf ps := rfl

@[simp] theorem leavesOf_leaf_cons (l : Leaf) (ps : List Piece) :
    leavesOf (.leaf l :: ps) = l :: leavesOf ps := rfl

@[simp] theorem leavesOf_append (ps qs : List Piece) : leavesOf (ps ++ qs) = leavesOf ps ++ leavesOf qs :=
  List.filterMap_append

/-- The clauses of two outcomes one after the other, or the first error. -/
def chain : Except Error Clause → Except Error Clause → Except Error Clause
  | .error e, _ => .error e
  | .ok _, .error e => .error e
  | .ok a, .ok b => .ok (a ++ b)

@[simp] theorem chain_error (e : Error) (y : Except Error Clause) : chain (.error e) y = .error e := by
  cases y <;> rfl

@[simp] theorem chain_ok_error (a : Clause) (e : Error) : chain (.ok a) (.error e) = .error e := rfl

@[simp] theorem chain_ok_ok (a b : Clause) : chain (.ok a) (.ok b) = .ok (a ++ b) := rfl

@[simp] theorem chain_empty (x : Except Error Clause) : chain x (.ok .empty) = x := by
  cases x with
  | error e => rfl
  | ok a => rw [chain_ok_ok, Clause.append_empty]

@[simp] theorem empty_chain (x : Except Error Clause) : chain (.ok .empty) x = x := by
  cases x with
  | error e => rfl
  | ok a => rw [chain_ok_ok, Clause.empty_append]

theorem chain_assoc (x y z : Except Error Clause) : chain (chain x y) z = chain x (chain y z) := by
  cases x with
  | error e => simp only [chain_error]
  | ok a =>
    cases y with
    | error e => simp only [chain_ok_error, chain_error]
    | ok b =>
      cases z with
      | error e => rfl
      | ok d => simp only [chain_ok_ok, Clause.append_assoc]

theorem chain_eq_ok {x y : Except Error Clause} {k : Clause} (h : chain x y = .ok k) :
    ∃ a b, x = .ok a ∧ y = .ok b ∧ k = a ++ b := by
  cases x with
  | error e =>
    rw [chain_error] at h
    cases h
  | ok a =>
    cases y with
    | error e => cases h
    | ok b =>
      cases h
      exact ⟨a, b, rfl, rfl, rfl⟩

/-- The clauses of pieces one after the other, or the first error from the left. -/
def assemble (c : Catalog) : List Piece → Except Error Clause
  | [] => .ok .empty
  | p :: ps => chain (p.compile c) (assemble c ps)

@[simp] theorem assemble_nil (c : Catalog) : assemble c [] = .ok .empty := rfl

@[simp] theorem assemble_cons (c : Catalog) (p : Piece) (ps : List Piece) :
    assemble c (p :: ps) = chain (p.compile c) (assemble c ps) := rfl

theorem assemble_congr {c d : Catalog} {ps : List Piece}
    (h : ∀ l ∈ leavesOf ps, l.compile c = l.compile d) : assemble c ps = assemble d ps := by
  induction ps with
  | nil => rfl
  | cons p ps ih =>
    rw [assemble_cons, assemble_cons]
    cases p with
    | fixed x => rw [ih h]; rfl
    | leaf l =>
      rw [leavesOf_leaf_cons] at h
      rw [ih fun m hm => h m (List.mem_cons_of_mem l hm), Piece.compile, Piece.compile,
        h l List.mem_cons_self]

theorem assemble_append (c : Catalog) (ps qs : List Piece) :
    assemble c (ps ++ qs) = chain (assemble c ps) (assemble c qs) := by
  induction ps with
  | nil => rw [List.nil_append, assemble_nil, empty_chain]
  | cons p ps ih => rw [List.cons_append, assemble_cons, ih, assemble_cons, chain_assoc]

namespace Filter

mutual

/-- A filter as a line of pieces. -/
def pieces : Filter → List Piece
  | .leaf l => [.leaf l]
  | .group glue rules => Piece.join glue (piecesEach rules)

def piecesEach : List Filter → List (List Piece)
  | [] => []
  | f :: fs => f.pieces :: piecesEach fs

end

@[simp] theorem length_piecesEach (fs : List Filter) : (piecesEach fs).length = fs.length := by
  induction fs with
  | nil => rfl
  | cons f fs ih => rw [piecesEach, List.length_cons, List.length_cons, ih]

theorem compileAll_eq_ok_iff {c : Catalog} {fs : List Filter} {ks : List Clause} :
    compileAll c fs = .ok ks ↔ List.Forall₂ (fun f k => f.compile c = .ok k) fs ks := by
  induction fs generalizing ks with
  | nil =>
    rw [compileAll, List.forall₂_nil_left_iff, Except.ok.injEq]
    exact eq_comm
  | cons f fs ih =>
    rw [compileAll, List.forall₂_cons_left_iff]
    constructor
    · intro h
      split at h
      · cases h
      · rename_i k hk
        split at h
        · cases h
        · rename_i ks' hks
          cases h
          exact ⟨k, ks', hk, ih.1 hks, rfl⟩
    · rintro ⟨k, ks', hk, hks, rfl⟩
      rw [hk, ih.2 hks]

theorem assemble_intercalate {c : Catalog} (glue : Glue) {fs : List Filter}
    (h : ∀ f ∈ fs, f.compile c = assemble c f.pieces) :
    assemble c ([.fixed (.glue glue)].intercalate (piecesEach fs)) =
      (compileAll c fs).map fun ks =>
        ⟨glue.joiner.intercalate (ks.map Clause.sql), ks.flatMap Clause.params⟩ := by
  induction fs with
  | nil => rfl
  | cons f fs ih =>
    have hf : f.compile c = assemble c f.pieces := h f List.mem_cons_self
    have hfs := ih fun g hg => h g (List.mem_cons_of_mem f hg)
    rw [compileAll]
    cases fs with
    | nil =>
      rw [piecesEach, piecesEach, List.intercalate_singleton, ← hf, compileAll]
      cases f.compile c with
      | error e => rfl
      | ok k => simp [Except.map]
    | cons g gs =>
      rw [piecesEach, piecesEach, List.intercalate_cons_cons, ← piecesEach, assemble_append,
        assemble_append, hfs, ← hf]
      cases f.compile c with
      | error e => rw [chain_error, chain_error]; rfl
      | ok k =>
        cases hks : compileAll c (g :: gs) with
        | error e => rfl
        | ok ks =>
          have hne : ks.map Clause.sql ≠ [] := by
            cases compileAll_eq_ok_iff.1 hks
            exact List.cons_ne_nil _ _
          simp [Except.map, Piece.compile, Punctuation.text, Clause.ext_iff, String.intercalate_cons_of_ne_nil hne]

theorem compile_group (c : Catalog) (glue : Glue) (rules : List Filter) :
    (group glue rules).compile c = (compileAll c rules).map (Clause.join glue.joiner) := by
  rw [compile]
  cases compileAll c rules <;> rfl

theorem compile_eq_assemble (c : Catalog) (f : Filter) : f.compile c = assemble c f.pieces := by
  induction f using Filter.induction with
  | leaf l =>
    rw [compile, pieces, assemble_cons, assemble_nil, chain_empty]
    rfl
  | group glue rules ih =>
    have hall := assemble_intercalate glue ih
    rw [compile_group, pieces, Piece.join, length_piecesEach]
    cases hks : compileAll c rules with
    | error e =>
      rw [hks] at hall
      split
      · rw [List.cons_append, assemble_cons, assemble_append, hall]
        rfl
      · exact hall.symm
    | ok ks =>
      rw [hks] at hall
      have hlen : ks.length = rules.length := (compileAll_eq_ok_iff.1 hks).length_eq.symm
      split
      · rename_i several
        rw [List.cons_append, assemble_cons, assemble_append, hall]
        simp [Except.map, Clause.join, Piece.compile, Punctuation.text, Clause.ext_iff, hlen, several,
          String.append_assoc]
      · rename_i single
        rw [hall]
        simp [Except.map, Clause.join, hlen, single]

/-! ## The leaves of a layout -/

theorem leavesOf_intercalate (glue : Glue) {fs : List Filter}
    (h : ∀ f ∈ fs, leavesOf f.pieces = f.leaves) :
    leavesOf ([.fixed (.glue glue)].intercalate (piecesEach fs)) = leavesAll fs := by
  induction fs with
  | nil => rfl
  | cons f fs ih =>
    have hf := h f List.mem_cons_self
    have hfs := ih fun g hg => h g (List.mem_cons_of_mem f hg)
    cases fs with
    | nil => rw [piecesEach, piecesEach, List.intercalate_singleton, hf, leavesAll, leavesAll, List.append_nil]
    | cons g gs =>
      rw [piecesEach, piecesEach, List.intercalate_cons_cons, ← piecesEach, leavesOf_append,
        leavesOf_append, hfs, hf, leavesOf_fixed_cons, leavesOf_nil, List.append_nil]
      rfl

theorem leavesOf_pieces (f : Filter) : leavesOf f.pieces = f.leaves := by
  induction f using Filter.induction with
  | leaf l => rfl
  | group glue rules ih =>
    rw [pieces, Piece.join, leaves]
    split
    · rw [List.cons_append, leavesOf_fixed_cons, leavesOf_append, leavesOf_intercalate _ ih,
        leavesOf_fixed_cons, leavesOf_nil, List.append_nil]
    · exact leavesOf_intercalate _ ih

end Filter

/-! ## The first failure -/

/-- The error with which a leaf fails on its own. -/
def Leaf.fault? (c : Catalog) (l : Leaf) : Option Error :=
  match l.compile c with
  | .error e => some e
  | .ok _ => none

theorem Leaf.fault?_eq_some_iff {c : Catalog} {l : Leaf} {e : Error} :
    l.fault? c = some e ↔ l.compile c = .error e := by
  unfold fault?
  cases l.compile c <;> simp

def firstFault? (c : Catalog) (ls : List Leaf) : Option Error := ls.findSome? (Leaf.fault? c)

theorem firstFault?_congr {c d : Catalog} {ls : List Leaf} (h : ∀ l ∈ ls, l.compile c = l.compile d) :
    firstFault? c ls = firstFault? d ls := by
  induction ls with
  | nil => rfl
  | cons l ls ih =>
    have first : l.fault? c = l.fault? d := by rw [Leaf.fault?, Leaf.fault?, h l List.mem_cons_self]
    have rest := ih fun m hm => h m (List.mem_cons_of_mem l hm)
    rw [firstFault?, firstFault?] at rest
    rw [firstFault?, firstFault?, List.findSome?_cons, List.findSome?_cons, first, rest]

theorem exists_first {α : Type} {P : α → Prop} {xs : List α} (h : ∃ x ∈ xs, P x) :
    ∃ before x after, xs = before ++ x :: after ∧ (∀ b ∈ before, ¬P b) ∧ P x := by
  induction xs with
  | nil =>
    obtain ⟨_, hy, -⟩ := h
    cases hy
  | cons y xs ih =>
    by_cases hy : P y
    · exact ⟨[], y, xs, rfl, nofun, hy⟩
    · have later : ∃ x ∈ xs, P x := by simpa [hy] using h
      obtain ⟨before, x, after, rfl, hb, hx⟩ := ih later
      exact ⟨y :: before, x, after, rfl, List.forall_mem_cons.2 ⟨hy, hb⟩, hx⟩

theorem assemble_eq_error_iff {c : Catalog} {ps : List Piece} {e : Error} :
    assemble c ps = .error e ↔ firstFault? c (leavesOf ps) = some e := by
  induction ps with
  | nil => simp [firstFault?]
  | cons p ps ih =>
    cases p with
    | fixed x =>
      rw [assemble_cons, Piece.compile, leavesOf_fixed_cons]
      refine Iff.trans ?_ ih
      cases assemble c ps <;> simp
    | leaf l =>
      rw [assemble_cons, Piece.compile, leavesOf_leaf_cons]
      simp only [firstFault?, List.findSome?_cons, Leaf.fault?]
      cases l.compile c with
      | error e' => simp
      | ok k =>
        refine Iff.trans ?_ ih
        cases assemble c ps <;> simp

namespace Filter

/-- The clause of a filter depends on nothing but the clauses of its leaves. -/
theorem compile_congr {c d : Catalog} {f : Filter} (h : ∀ l ∈ f.leaves, l.compile c = l.compile d) :
    f.compile c = f.compile d := by
  rw [← leavesOf_pieces] at h
  rw [compile_eq_assemble, compile_eq_assemble, assemble_congr h]

theorem compile_eq_error_iff {c : Catalog} {f : Filter} {e : Error} :
    f.compile c = .error e ↔ firstFault? c f.leaves = some e := by
  rw [compile_eq_assemble, assemble_eq_error_iff, leavesOf_pieces]

/-- A leaf that fails decides, unless one in front of it fails. It does not matter under which of two catalogs those in front
are looked at, if they have the same clauses under both. -/
theorem compile_of_fails {c d : Catalog} {f : Filter} {before after : List Leaf} {l : Leaf} {e : Error}
    (hf : f.leaves = before ++ l :: after) (hb : ∀ b ∈ before, b.compile c = b.compile d) (hl : l.compile c = .error e) :
    f.compile c = .error ((firstFault? d before).getD e) := by
  rw [compile_eq_error_iff, hf, ← firstFault?_congr hb, firstFault?, firstFault?, List.findSome?_append,
    List.findSome?_cons, Leaf.fault?_eq_some_iff.2 hl]
  cases List.findSome? (Leaf.fault? c) before <;> rfl

end Filter

end FilterTree
