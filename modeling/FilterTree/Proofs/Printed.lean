import FilterTree.Operator
import FilterTree.Proofs.Json.Double
import FilterTree.Proofs.Json.Written
import Mathlib.Data.List.Perm.Basic

/-!
# Printed values and clauses

* `itemsWritten_pretty`, `membersWritten_pretty` : elements and members on lines of their own are those of a script.
* `Script.Renders` : a script whose texts include those of a value, over one line and over several.
* `exists_perm_renders` : the order of members may be changed in both.
* `sortedMembers_perm` : putting members in order of their keys changes nothing but their order.
* `Renders.list`, `Renders.object` : this holds of lists and objects where it holds of what stands inside them.
* `Literal.SaidBy`, `Clause.SaidBy` : the scripts that stand for a literal, and for a clause.
* `Literal.exists_renders` : the text of a literal is that of a script which stands for it.
* `Clause.exists_renders`, `Clause.exists_renders_sorted` : so is that of a clause, in either order of its members.
-/

namespace FilterTree.Json

open Script

/-! ## Lines -/

theorem blank_newline (depth : Nat) : Blank (newline depth) := by
  intro c hc
  rcases List.mem_cons.1 hc with rfl | hc
  · rfl
  · rw [List.eq_of_mem_replicate hc]
    rfl

theorem prettyItems_cons (depth : Nat) (v : Json) (vs : List Json) :
    prettyItems depth (v :: vs) =
      newline depth ++ v.prettyAt depth ++ vs.flatMap fun v => ',' :: (newline depth ++ v.prettyAt depth) := by
  induction vs generalizing v with
  | nil => rw [prettyItems, List.flatMap_nil, List.append_nil]
  | cons w vs ih =>
    rw [prettyItems, ih w, List.flatMap_cons, List.cons_append]
    exact nofun

theorem prettyMembers_cons (depth : Nat) (m : String × Json) (ms : List (String × Json)) :
    prettyMembers depth (m :: ms) =
      newline depth ++ quote m.1 ++ ':' :: ' ' :: m.2.prettyAt depth ++
        ms.flatMap fun m => ',' :: (newline depth ++ quote m.1 ++ ':' :: ' ' :: m.2.prettyAt depth) := by
  induction ms generalizing m with
  | nil => rw [prettyMembers, List.flatMap_nil, List.append_nil]
  | cons n ms ih =>
    rw [prettyMembers, ih n, List.flatMap_cons, List.cons_append]
    exact nofun

theorem itemsWritten_pretty {depth : Nat} {b : List Char} (blank : Blank b) {ds : List Script} {vs : List Json}
    (h : List.Forall₂ (fun d v => Written d (v.prettyAt depth)) ds vs) :
    ItemsWritten true ds (prettyItems depth vs ++ b) := by
  have more : ∀ {ds : List Script} {vs : List Json}, List.Forall₂ (fun d v => Written d (v.prettyAt depth)) ds vs →
      ItemsWritten false ds ((vs.flatMap fun v => ',' :: (newline depth ++ v.prettyAt depth)) ++ b) := by
    intro ds vs h
    induction h with
    | nil => exact .nil blank
    | cons hd _ ih =>
      have item := ItemsWritten.cons (.more blank_nil (blank_newline depth)) hd ih
      simpa using item
  cases h with
  | nil => exact .nil blank
  | cons hd h =>
    rw [prettyItems_cons]
    have item := ItemsWritten.cons (.first (blank_newline depth)) hd (more h)
    simpa using item

theorem membersWritten_pretty {depth : Nat} {b : List Char} (blank : Blank b) {ms : List (List Char × Script)}
    {js : List (String × Json)}
    (h : List.Forall₂ (fun m j => m.1 = j.1.toList.flatMap escape ∧ m.2.Written (j.2.prettyAt depth)) ms js) :
    MembersWritten true ms (prettyMembers depth js ++ b) := by
  have space : Blank [' '] := by simp [Blank, isBlank]
  have quoted : ∀ name : String, WellQuoted (name.toList.flatMap escape) := fun name =>
    (textWritten_escape name.toList).wellQuoted
  have more : ∀ {ms : List (List Char × Script)} {js : List (String × Json)},
      List.Forall₂ (fun m j => m.1 = j.1.toList.flatMap escape ∧ m.2.Written (j.2.prettyAt depth)) ms js →
      MembersWritten false ms
        ((js.flatMap fun m => ',' :: (newline depth ++ quote m.1 ++ ':' :: ' ' :: m.2.prettyAt depth)) ++ b) := by
    intro ms js h
    induction h with
    | nil => exact .nil blank
    | @cons m j _ _ hm _ ih =>
      obtain ⟨key, d⟩ := m
      obtain ⟨rfl, hd⟩ := hm
      have member := MembersWritten.cons (.more blank_nil (blank_newline depth)) (quoted j.1) blank_nil space hd ih
      simpa [quote] using member
  cases h with
  | nil => exact .nil blank
  | @cons m j _ _ hm h =>
    obtain ⟨key, d⟩ := m
    obtain ⟨rfl, hd⟩ := hm
    rw [prettyMembers_cons]
    have member := MembersWritten.cons (.first (blank_newline depth)) (quoted j.1) blank_nil space hd (more h)
    simpa [quote] using member

/-! ## Values -/

/-- A script whose texts include those of a value, over one line and, from any depth on, over several. -/
structure Script.Renders (d : Script) (v : Json) : Prop where
  compact : d.Written v.compact
  pretty : ∀ depth, d.Written (v.prettyAt depth)

def RendersMember (m : List Char × Script) (j : String × Json) : Prop :=
  m.1 = j.1.toList.flatMap escape ∧ m.2.Renders j.2

namespace Script.Renders

theorem text (s : String) : Renders (.text (s.toList.flatMap escape)) (.text s) :=
  ⟨.text (textWritten_escape s.toList).wellQuoted, fun _ => .text (textWritten_escape s.toList).wellQuoted⟩

theorem list {ds : List Script} {vs : List Json} (h : List.Forall₂ Renders ds vs) : Renders (.list ds) (.list vs) where
  compact := .list (itemsWritten_compact (h.imp fun _ _ r => r.compact))
  pretty depth := by
    have items := itemsWritten_pretty (blank_newline depth) (h.imp fun _ _ r => r.pretty (depth + 1))
    cases h with
    | nil => exact .list (.nil blank_nil)
    | cons => simpa [prettyAt] using Written.list items

theorem object {ms : List (List Char × Script)} {js : List (String × Json)} (h : List.Forall₂ RendersMember ms js) :
    Renders (.object ms) (.object js) where
  compact := .object (membersWritten_compact (h.imp fun _ _ r => ⟨r.1, r.2.compact⟩))
  pretty depth := by
    have members := membersWritten_pretty (blank_newline depth) (h.imp fun _ _ r => ⟨r.1, r.2.pretty (depth + 1)⟩)
    cases h with
    | nil => exact .object (.nil blank_nil)
    | cons => simpa [prettyAt] using Written.object members

end Script.Renders

/-! ## Members in order -/

theorem exists_perm_renders {ms : List (List Char × Script)} {js js' : List (String × Json)}
    (h : List.Forall₂ RendersMember ms js) (perm : js.Perm js') :
    ∃ ms', ms.Perm ms' ∧ List.Forall₂ RendersMember ms' js' := by
  obtain ⟨ms', flipped, perm'⟩ := List.perm_comp_forall₂ perm.symm h.flip
  exact ⟨ms', perm'.symm, flipped.flip⟩

theorem placeMember_perm (m : String × Json) (ms : List (String × Json)) : (placeMember m ms).Perm (m :: ms) := by
  induction ms with
  | nil => exact .refl _
  | cons n ms ih =>
    rw [placeMember]
    split
    · exact (ih.cons n).trans (.swap m n ms)
    · exact .refl _

theorem sortedMembers_perm (ms : List (String × Json)) : (sortedMembers ms).Perm (ms.map fun m => (m.1, m.2.sorted)) := by
  induction ms with
  | nil => exact .refl _
  | cons m ms ih =>
    rw [sortedMembers, List.map_cons]
    exact (placeMember_perm _ _).trans (ih.cons _)

theorem sortedItems_eq_map (vs : List Json) : sortedItems vs = vs.map sorted := by
  induction vs with
  | nil => rfl
  | cons v vs ih => rw [sortedItems, ih, List.map_cons]

end FilterTree.Json

namespace FilterTree

open Json (Script Numeral RendersMember escape textOf? textOf?_escape)

/-! ## Clauses -/

/-- The scripts that stand for a literal: a whole number by its digits, and a double by the numeral of its text. A double that is
not finite has no text, and null stands for it. -/
inductive Literal.SaidBy : Literal → Script → Prop where
  | null : SaidBy .null .null
  | bool (b : Bool) : SaidBy (.bool b) (.bool b)
  | int (n : Int64) : SaidBy (.int n) (.number (.ofDigits (n.toInt < 0) n.toInt.natAbs))
  | uint (n : UInt64) : SaidBy (.uint n) (.number (.ofDigits false n.toNat))
  | float {x : Float} {text : String} {m : Numeral} (finite : Decimal.json? x = some text) (h : m.Written text.toList) :
    SaidBy (.float x) (.number m)
  | unbounded {x : Float} (h : Decimal.json? x = none) : SaidBy (.float x) .null
  | text {s : String} {raw : List Char} (h : textOf? raw = some s) : SaidBy (.text s) (.text raw)

/-- The scripts that stand for a clause: an object with two members, its SQL and the list of its values. -/
inductive Clause.SaidBy (k : Clause) : Script → Prop where
  | mk {ms : List (List Char × Script)} {sqlKey sql paramsKey : List Char} {params : List Script}
    (members : ms.Perm [(sqlKey, .text sql), (paramsKey, .list params)]) (sqlNamed : textOf? sqlKey = some "sql")
    (sqlText : textOf? sql = some k.sql) (paramsNamed : textOf? paramsKey = some "params")
    (values : List.Forall₂ Literal.SaidBy k.params params) : SaidBy k (.object ms)

namespace Literal

theorem written_ofInt (i : Int) : (Numeral.ofDigits (i < 0) i.natAbs).Written (Decimal.ofInt i) := by
  cases i with
  | ofNat n => exact Numeral.written_ofDigits .plus n
  | negSucc n =>
    have negative : decide (Int.negSucc n < 0) = true := decide_eq_true (Int.negSucc_lt_zero n)
    rw [negative]
    exact Numeral.written_ofDigits .minus (n + 1)

theorem exists_renders (v : Literal) : ∃ d : Script, d.Renders v.toJson ∧ v.SaidBy d := by
  cases v with
  | null => exact ⟨.null, ⟨.null, fun _ => .null⟩, .null⟩
  | bool b =>
    cases b with
    | true => exact ⟨.bool true, ⟨.true, fun _ => .true⟩, .bool true⟩
    | false => exact ⟨.bool false, ⟨.false, fun _ => .false⟩, .bool false⟩
  | int n =>
    have written := Script.Written.number (written_ofInt n.toInt)
    exact ⟨_, ⟨written, fun _ => written⟩, .int n⟩
  | uint n =>
    have written := Script.Written.number (Numeral.written_ofDigits .plus n.toNat)
    exact ⟨_, ⟨written, fun _ => written⟩, .uint n⟩
  | float x =>
    cases finite : Decimal.json? x with
    | some text =>
      obtain ⟨m, digits⟩ := Decimal.exists_written_of_json? finite
      have chars : (Json.Number.float x).chars = text.toList := by rw [Json.Number.chars, finite, Option.getD_some]
      have written : Script.Written (.number m) (Json.Number.float x).chars := by
        rw [chars]
        exact .number digits
      exact ⟨.number m, ⟨written, fun _ => written⟩, .float finite digits⟩
    | none =>
      have chars : (Json.Number.float x).chars = ['n', 'u', 'l', 'l'] := by rw [Json.Number.chars, finite]; rfl
      have written : Script.Written .null (Json.Number.float x).chars := by
        rw [chars]
        exact .null
      exact ⟨.null, ⟨written, fun _ => written⟩, .unbounded finite⟩
  | text s => exact ⟨_, .text s, .text (textOf?_escape s)⟩

theorem exists_renders_list (vs : List Literal) :
    ∃ ds, List.Forall₂ Script.Renders ds (vs.map toJson) ∧ List.Forall₂ SaidBy vs ds := by
  induction vs with
  | nil => exact ⟨[], .nil, .nil⟩
  | cons v vs ih =>
    obtain ⟨d, renders, said⟩ := v.exists_renders
    obtain ⟨ds, rendersAll, saidAll⟩ := ih
    exact ⟨d :: ds, .cons renders rendersAll, .cons said saidAll⟩

theorem sorted_toJson (v : Literal) : v.toJson.sorted = v.toJson := by
  cases v <;> rfl

theorem sortedItems_map_toJson (vs : List Literal) : Json.sortedItems (vs.map toJson) = vs.map toJson := by
  rw [Json.sortedItems_eq_map, List.map_map]
  exact List.map_congr_left fun v _ => v.sorted_toJson

end Literal

namespace Clause

theorem sorted_toJson (k : Clause) :
    k.toJson.sorted = .object [("params", .list (k.params.map Literal.toJson)), ("sql", .text k.sql)] := by
  have first : "params" < "sql" := by decide
  rw [toJson, Json.sorted]
  simp only [Json.sortedMembers, Json.sorted, Literal.sortedItems_map_toJson, Json.placeMember, if_pos first]

theorem exists_renders (k : Clause) {js : List (String × Json)}
    (h : js.Perm [("sql", .text k.sql), ("params", .list (k.params.map Literal.toJson))]) :
    ∃ d : Script, d.Renders (.object js) ∧ k.SaidBy d := by
  obtain ⟨params, renders, said⟩ := Literal.exists_renders_list k.params
  have members : List.Forall₂ RendersMember
      [("sql".toList.flatMap escape, .text (k.sql.toList.flatMap escape)), ("params".toList.flatMap escape, .list params)]
      [("sql", .text k.sql), ("params", .list (k.params.map Literal.toJson))] :=
    .cons ⟨rfl, .text k.sql⟩ (.cons ⟨rfl, .list renders⟩ .nil)
  obtain ⟨ms, perm, rendered⟩ := Json.exists_perm_renders members h.symm
  exact ⟨.object ms, .object rendered,
    .mk perm.symm (textOf?_escape "sql") (textOf?_escape k.sql) (textOf?_escape "params") said⟩

theorem exists_renders_sorted (k : Clause) : ∃ d : Script, d.Renders k.toJson.sorted ∧ k.SaidBy d := by
  rw [sorted_toJson]
  exact k.exists_renders (.swap _ _ _)

end Clause

end FilterTree
