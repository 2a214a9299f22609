import FilterTree.Operator
import FilterTree.Proofs.Sql.Formula
import FilterTree.Text.Basic

/-!
# Tests in words

* `words` : a text cut at its spaces.
* `IsName` : the words that can name a field.
* `Shape`, `Test` : the atomic tests of a row: a field against one value in one of twelve ways, or against a set.
* `readTest` : the test that words in a row stand for, with values from the left of a list in place of its marks.
* `Formula.bind` : a formula with all its tests read, from left to right.
* `Clause.meaning?` : what a clause asks of a row, where the text can be read and has a mark for each value.
-/

namespace FilterTree.Sql

/-! ## Words -/

def words (s : String) : List String := (s.toList.splitOn ' ').map String.ofList

theorem words_eq_singleton {s : String} (h : ' ' ∉ s.toList) : words s = [s] := by
  rw [words, List.splitOn_eq_singleton h, List.map_singleton, String.ofList_toList]

theorem words_append_space (s t : String) : words (s ++ " " ++ t) = words s ++ words t := by
  rw [words, String.toList_append, String.toList_append, List.append_assoc, show " ".toList = [' '] from rfl,
    List.singleton_append, List.splitOn_append_cons_self, List.map_append]
  rfl

theorem words_intercalate {ws : List String} (nonempty : ws ≠ []) (h : ∀ w ∈ ws, ' ' ∉ w.toList) :
    words (" ".intercalate ws) = ws := by
  have split : ([' '].intercalate (ws.map String.toList)).splitOn ' ' = ws.map String.toList :=
    List.splitOn_intercalate ' ' (List.forall_mem_map.2 h) (by simpa using nonempty)
  rw [words, String.toList_intercalate, show " ".toList = [' '] from rfl, split, List.map_map]
  simp [Function.comp_def]

/-- The characters of a name: ASCII letters, digits and the underscore. -/
def isNameChar (c : Char) : Bool := c.isAlphanum || c == '_'

def IsName (s : String) : Prop :=
  s ≠ "" ∧ s.toList.all isNameChar = true ∧ s ≠ "AND" ∧ s ≠ "OR"

instance (s : String) : Decidable (IsName s) := inferInstanceAs (Decidable (_ ∧ _ ∧ _ ∧ _))

namespace IsName

theorem not_mem {s : String} (h : IsName s) {c : Char} (hc : isNameChar c = false) : c ∉ s.toList := by
  intro hs
  rw [List.all_eq_true.1 h.2.1 c hs] at hc
  cases hc

theorem isMark_eq_false {s : String} (h : IsName s) : isMark s = false := by
  have opening : s ≠ "(" := by
    rintro rfl
    exact h.not_mem (c := '(') (by decide) (by decide)
  have closing : s ≠ ")" := by
    rintro rfl
    exact h.not_mem (c := ')') (by decide) (by decide)
  simp [isMark, opening, closing, h.2.2.1, h.2.2.2]

end IsName

/-! ## Tests -/

/-- The comparisons of a field with a value. -/
inductive Sign where
  | eq
  | ne
  | lt
  | gt
  | le
  | ge
deriving DecidableEq

def Sign.word : Sign → String
  | .eq => "="
  | .ne => "<>"
  | .lt => "<"
  | .gt => ">"
  | .le => "<="
  | .ge => ">="

/-- The tests of a field against one value: a comparison, whether the value is found in it, whether it begins with the
value, and whether it ends with it. The last three can be denied. -/
inductive Shape where
  | compare (sign : Sign)
  | instr (found : Bool)
  | begins (holds : Bool)
  | ends (holds : Bool)
deriving DecidableEq

namespace Shape

def all : List Shape :=
  [.compare .eq, .compare .ne, .compare .lt, .compare .gt, .compare .le, .compare .ge, .instr true, .instr false,
    .begins true, .begins false, .ends true, .ends false]

def first (s : Shape) (field : String) : String :=
  match s with
  | .instr _ => "INSTR(" ++ field ++ ","
  | _ => field

def rest : Shape → List String
  | .compare sign => [sign.word, "?"]
  | .instr true => ["?)", ">", "0"]
  | .instr false => ["?)", "=", "0"]
  | .begins true => ["LIKE", "CONCAT(?,", "'%')"]
  | .begins false => ["NOT", "LIKE", "CONCAT(?,", "'%')"]
  | .ends true => ["LIKE", "CONCAT('%',", "?)"]
  | .ends false => ["NOT", "LIKE", "CONCAT('%',", "?)"]

def ofRest? (ws : List String) : Option Shape := all.find? (·.rest == ws)

/-- The field in the first word of `INSTR`. -/
def argument? (w : String) : Option String :=
  match Text.behind? "INSTR(".toList w.toList with
  | some cs => if cs.getLast? = some ',' then some (String.ofList cs.dropLast) else none
  | none => none

def field? (s : Shape) (w : String) : Option String :=
  match s with
  | .instr _ => argument? w
  | _ => some w

end Shape

/-- An atomic test of a row. -/
inductive Test where
  | single (shape : Shape) (field : String) (v : Literal)
  | member (field : String) (vs : List Literal)

/-- The number of marks behind the first in a set. -/
def moreMarks? : List String → Option Nat
  | [] => none
  | w :: ws =>
    if w = "?)" ∧ ws = [] then some 1
    else if w = "?," then (moreMarks? ws).map (· + 1)
    else none

def marks? : List String → Option Nat
  | [] => none
  | w :: ws =>
    if w = "IN(?)" ∧ ws = [] then some 1
    else if w = "IN(?," then (moreMarks? ws).map (· + 1)
    else none

/-- The test in words, with values for its marks from the left of a list, and the values that are left over. -/
def readTest (ws : List String) (vs : List Literal) : Option (Test × List Literal) :=
  match ws with
  | [] => none
  | w :: ws => match marks? ws with
    | some n => if IsName w ∧ n ≤ vs.length then some (.member w (vs.take n), vs.drop n) else none
    | none => match Shape.ofRest? ws, vs with
      | some s, v :: vs => match s.field? w with
        | some field => if IsName field then some (.single s field v, vs) else none
        | none => none
      | _, _ => none

/-- The formula with the tests that its words stand for. They take their values from left to right. -/
def Formula.bind : Formula (List String) → List Literal → Option (Formula Test × List Literal)
  | .atom ws, vs => match readTest ws vs with
    | some (t, vs) => some (.atom t, vs)
    | none => none
  | .and x y, vs => match x.bind vs with
    | some (a, vs) => match y.bind vs with
      | some (b, vs) => some (.and a b, vs)
      | none => none
    | none => none
  | .or x y, vs => match x.bind vs with
    | some (a, vs) => match y.bind vs with
      | some (b, vs) => some (.or a b, vs)
      | none => none
    | none => none

/-- The formula of a text with values for all its marks. -/
def read (sql : String) (params : List Literal) : Option (Formula Test) :=
  match parse (words sql) with
  | some x => match x.bind params with
    | some (t, []) => some t
    | _ => none
  | none => none

/-! ## Tests that are read -/

namespace Shape

theorem mem_all (s : Shape) : s ∈ all := by
  rcases s with sign | found | holds | holds
  · cases sign <;> decide
  all_goals cases ‹Bool› <;> decide

@[simp] theorem ofRest?_rest (s : Shape) : ofRest? s.rest = some s := by
  have found : ∀ s ∈ all, ofRest? s.rest = some s := by decide
  exact found s s.mem_all

theorem marks?_rest (s : Shape) : marks? s.rest = none := by
  have refused : ∀ s ∈ all, marks? s.rest = none := by decide
  exact refused s s.mem_all

theorem rest_ne_nil (s : Shape) : s.rest ≠ [] := by
  have nonempty : ∀ s ∈ all, s.rest ≠ [] := by decide
  exact nonempty s s.mem_all

theorem isMark_rest (s : Shape) : ∀ w ∈ s.rest, isMark w = false := by
  have plain : ∀ s ∈ all, ∀ w ∈ s.rest, isMark w = false := by decide
  exact plain s s.mem_all

theorem space_not_mem_rest (s : Shape) : ∀ w ∈ s.rest, ' ' ∉ w.toList := by
  have unspaced : ∀ s ∈ all, ∀ w ∈ s.rest, ' ' ∉ w.toList := by decide
  exact unspaced s s.mem_all

theorem argument?_append (field : String) : argument? ("INSTR(" ++ field ++ ",") = some field := by
  have behind : Text.behind? "INSTR(".toList ("INSTR(" ++ field ++ ",").toList = some (field.toList ++ [',']) := by
    rw [Text.behind?_eq_some_iff]
    simp
  rw [argument?, behind]
  simp

@[simp] theorem field?_first (s : Shape) (field : String) : s.field? (s.first field) = some field := by
  cases s with
  | instr found => exact argument?_append field
  | _ => rfl

theorem isMark_first {s : Shape} {field : String} (h : IsName field) : isMark (s.first field) = false := by
  cases s with
  | instr found =>
    have long : ∀ w : String, w.toList.head? ≠ some 'I' → "INSTR(" ++ field ++ "," ≠ w := by
      rintro w hw rfl
      simp at hw
    simp only [isMark, first, Bool.or_eq_false_iff, beq_eq_false_iff_ne]
    exact ⟨⟨⟨long _ (by decide), long _ (by decide)⟩, long _ (by decide)⟩, long _ (by decide)⟩
  | _ => exact h.isMark_eq_false

theorem space_not_mem_first {s : Shape} {field : String} (h : IsName field) : ' ' ∉ (s.first field).toList := by
  have none_in_name : ' ' ∉ field.toList := h.not_mem (by decide)
  cases s with
  | instr found => simpa [first] using none_in_name
  | _ => exact none_in_name

end Shape

theorem readTest_single {s : Shape} {field : String} (h : IsName field) (v : Literal) (vs : List Literal) :
    readTest (s.first field :: s.rest) (v :: vs) = some (.single s field v, vs) := by
  simp [readTest, s.marks?_rest, h]

theorem readTest_member {ws : List String} {field : String} {vs : List Literal} (h : IsName field)
    (hws : marks? ws = some vs.length) (rest : List Literal) :
    readTest (field :: ws) (vs ++ rest) = some (.member field vs, rest) := by
  simp [readTest, hws, h]

theorem forall_of_moreMarks? {P : String → Prop} (inner : P "?,") (last : P "?)") {ws : List String} {n : Nat}
    (h : moreMarks? ws = some n) : ∀ w ∈ ws, P w := by
  induction ws generalizing n with
  | nil => cases h
  | cons w ws ih =>
    unfold moreMarks? at h
    split at h
    · rename_i only
      rw [only.1, only.2]
      exact List.forall_mem_singleton.2 last
    · split at h
      · rename_i first
        obtain ⟨m, hm, -⟩ := Option.map_eq_some_iff.1 h
        rw [first]
        exact List.forall_mem_cons.2 ⟨inner, ih hm⟩
      · cases h

theorem forall_of_marks? {P : String → Prop} (single : P "IN(?)") (first : P "IN(?,") (inner : P "?,") (last : P "?)")
    {ws : List String} {n : Nat} (h : marks? ws = some n) : ∀ w ∈ ws, P w := by
  cases ws with
  | nil => cases h
  | cons w ws =>
    rw [marks?] at h
    split at h
    · rename_i only
      rw [only.1, only.2]
      exact List.forall_mem_singleton.2 single
    · split at h
      · rename_i several
        obtain ⟨m, hm, -⟩ := Option.map_eq_some_iff.1 h
        rw [several]
        exact List.forall_mem_cons.2 ⟨first, forall_of_moreMarks? inner last hm⟩
      · cases h

theorem isMark_of_marks? {ws : List String} {n : Nat} (h : marks? ws = some n) : ∀ w ∈ ws, isMark w = false :=
  forall_of_marks? (by decide) (by decide) (by decide) (by decide) h

theorem moreMarks?_words (v : Literal) (vs : List Literal) :
    moreMarks? (words (", ".intercalate ((v :: vs).map fun _ => "?") ++ ")")) = some (vs.length + 1) := by
  induction vs generalizing v with
  | nil =>
    rw [List.map_singleton, String.intercalate_singleton, words_eq_singleton (by decide)]
    decide
  | cons w vs ih =>
    have cut : ", ".intercalate ((v :: w :: vs).map fun _ => "?") ++ ")" =
        "?," ++ " " ++ (", ".intercalate ((w :: vs).map fun _ => "?") ++ ")") := by
      rw [← String.toList_inj]
      simp [String.append_assoc]
    rw [cut, words_append_space, words_eq_singleton (by decide), List.singleton_append, moreMarks?, ih,
      if_neg (by simp), if_pos rfl]
    rfl

theorem marks?_words {vs : List Literal} (nonempty : vs ≠ []) :
    marks? (words ("IN(" ++ ", ".intercalate (vs.map fun _ => "?") ++ ")")) = some vs.length := by
  obtain ⟨v, ls, rfl⟩ := List.exists_cons_of_ne_nil nonempty
  cases ls with
  | nil =>
    rw [List.map_singleton, String.intercalate_singleton, words_eq_singleton (by decide)]
    show marks? ["IN(" ++ "?" ++ ")"] = some 1
    decide
  | cons w ls =>
    have cut : "IN(" ++ ", ".intercalate ((v :: w :: ls).map fun _ => "?") ++ ")" =
        "IN(?," ++ " " ++ (", ".intercalate ((w :: ls).map fun _ => "?") ++ ")") := by
      rw [← String.toList_inj]
      simp [String.append_assoc]
    rw [cut, words_append_space, words_eq_singleton (by decide), List.singleton_append, marks?, moreMarks?_words,
      if_neg (by simp), if_pos rfl]
    rfl

/-! ## What words ask -/

/-- Words of a part of the grammar that take given values and ask a given condition of a row. -/
def Asks (G : List String → Formula (List String) → Prop) (ws : List String) (vs : List Literal)
    (φ : (Test → Prop) → Prop) : Prop :=
  ∃ x t, G ws x ∧ (∀ rest, x.bind (vs ++ rest) = some (t, rest)) ∧ ∀ holds, t.Holds holds ↔ φ holds

namespace Asks

variable {ws us : List String} {vs ls : List Literal} {φ ψ : (Test → Prop) → Prop}

theorem congr {G : List String → Formula (List String) → Prop} (h : Asks G ws vs φ)
    (hφ : ∀ holds, φ holds ↔ ψ holds) : Asks G ws vs ψ := by
  obtain ⟨x, t, hx, hbind, ht⟩ := h
  exact ⟨x, t, hx, hbind, fun holds => (ht holds).trans (hφ holds)⟩

theorem atom {a : Test} (nonempty : ws ≠ []) (plain : ∀ w ∈ ws, isMark w = false)
    (h : ∀ rest, readTest ws (vs ++ rest) = some (a, rest)) : Asks Factor ws vs fun holds => holds a := by
  refine ⟨.atom ws, .atom a, .atom nonempty plain, ?_, fun holds => Iff.rfl⟩
  intro rest
  rw [Formula.bind, h rest]

theorem conjunction (h : Asks Factor ws vs φ) : Asks Conjunction ws vs φ := by
  obtain ⟨x, t, hx, hbind, ht⟩ := h
  exact ⟨x, t, .factor hx, hbind, ht⟩

theorem disjunction (h : Asks Conjunction ws vs φ) : Asks Disjunction ws vs φ := by
  obtain ⟨x, t, hx, hbind, ht⟩ := h
  exact ⟨x, t, .conjunction hx, hbind, ht⟩

theorem group (h : Asks Disjunction ws vs φ) : Asks Factor ("(" :: (ws ++ [")"])) vs φ := by
  obtain ⟨x, t, hx, hbind, ht⟩ := h
  exact ⟨x, t, .group hx, hbind, ht⟩

theorem and (h : Asks Conjunction ws vs φ) (h' : Asks Factor us ls ψ) :
    Asks Conjunction (ws ++ "AND" :: us) (vs ++ ls) fun holds => φ holds ∧ ψ holds := by
  obtain ⟨x, t, hx, hbind, ht⟩ := h
  obtain ⟨y, s, hy, hbind', hs⟩ := h'
  refine ⟨.and x y, .and t s, .and hx hy, ?_, fun holds => and_congr (ht holds) (hs holds)⟩
  intro rest
  rw [Formula.bind, List.append_assoc, hbind]
  dsimp only
  rw [hbind']

theorem or (h : Asks Disjunction ws vs φ) (h' : Asks Conjunction us ls ψ) :
    Asks Disjunction (ws ++ "OR" :: us) (vs ++ ls) fun holds => φ holds ∨ ψ holds := by
  obtain ⟨x, t, hx, hbind, ht⟩ := h
  obtain ⟨y, s, hy, hbind', hs⟩ := h'
  refine ⟨.or x y, .or t s, .or hx hy, ?_, fun holds => or_congr (ht holds) (hs holds)⟩
  intro rest
  rw [Formula.bind, List.append_assoc, hbind]
  dsimp only
  rw [hbind']

end Asks

theorem asks_single {s : Shape} {field : String} (h : IsName field) (v : Literal) :
    Asks Factor (s.first field :: s.rest) [v] fun holds => holds (.single s field v) := by
  refine Asks.atom (List.cons_ne_nil _ _) (List.forall_mem_cons.2 ⟨Shape.isMark_first h, ?_⟩) ?_
  · exact s.isMark_rest
  · intro rest
    exact readTest_single h v rest

theorem asks_member {field : String} (h : IsName field) {vs : List Literal} (nonempty : vs ≠ []) :
    Asks Factor (field :: words ("IN(" ++ ", ".intercalate (vs.map fun _ => "?") ++ ")")) vs
      fun holds => holds (.member field vs) := by
  have marks := marks?_words nonempty
  refine Asks.atom (List.cons_ne_nil _ _) (List.forall_mem_cons.2 ⟨h.isMark_eq_false, ?_⟩) ?_
  · exact isMark_of_marks? marks
  · intro rest
    exact readTest_member h marks rest

end FilterTree.Sql

namespace FilterTree

/-- What a clause asks of a row. One without text and values asks nothing. -/
def Clause.meaning? (k : Clause) : Option ((Sql.Test → Prop) → Prop) :=
  if k.isEmpty then if k.params.isEmpty then some fun _ => True else none
  else match Sql.read k.sql k.params with
    | some t => some fun holds => t.Holds holds
    | none => none

namespace Clause

theorem meaning?_of_isEmpty {k : Clause} (hsql : k.sql = "") (hparams : k.params = []) :
    k.meaning? = some fun _ => True := by
  simp [meaning?, isEmpty, hsql, hparams]

theorem meaning?_of_asks {k : Clause} {φ : (Sql.Test → Prop) → Prop} (hsql : k.sql ≠ "")
    (h : Sql.Asks Sql.Disjunction (Sql.words k.sql) k.params φ) :
    ∃ m, k.meaning? = some m ∧ ∀ holds, m holds ↔ φ holds := by
  obtain ⟨x, t, hx, hbind, ht⟩ := h
  have bound : x.bind k.params = some (t, []) := by
    simpa using hbind []
  refine ⟨fun holds => t.Holds holds, ?_, ht⟩
  simp [meaning?, isEmpty, hsql, Sql.read, Sql.parse_of_disjunction hx, bound]

end Clause

end FilterTree
