/-!
# Formulas in words

* `Formula` : atoms with conjunction and disjunction.
* `Factor`, `Conjunction`, `Disjunction` : the grammar of formulas as lists of words. The words `(` and `)` group, `AND`
  and `OR` connect, and `AND` binds tighter than `OR`. Any other words in a row are an atom.
* `parse` : a reader of words, one after the other, with the brackets that are still open on a stack.
* `parse_eq_some_iff` : the reader finds what the grammar says.
-/

namespace FilterTree.Sql

/-- Atoms with conjunction and disjunction. -/
inductive Formula (α : Type) where
  | atom (a : α)
  | and (x y : Formula α)
  | or (x y : Formula α)
deriving DecidableEq

def Formula.Holds {α : Type} (v : α → Prop) : Formula α → Prop
  | .atom a => v a
  | .and x y => x.Holds v ∧ y.Holds v
  | .or x y => x.Holds v ∨ y.Holds v

/-! ## The grammar -/

/-- The words that are no part of an atom. -/
def isMark (w : String) : Bool := w == "(" || w == ")" || w == "AND" || w == "OR"

mutual

/-- Words in a row, or a disjunction in brackets. -/
inductive Factor : List String → Formula (List String) → Prop where
  | atom {ws : List String} (nonempty : ws ≠ []) (plain : ∀ w ∈ ws, isMark w = false) : Factor ws (.atom ws)
  | group {ws : List String} {x : Formula (List String)} (inner : Disjunction ws x) :
    Factor ("(" :: (ws ++ [")"])) x

/-- Factors with `AND` between them. -/
inductive Conjunction : List String → Formula (List String) → Prop where
  | factor {ws : List String} {x : Formula (List String)} (h : Factor ws x) : Conjunction ws x
  | and {ws vs : List String} {x y : Formula (List String)} (left : Conjunction ws x) (right : Factor vs y) :
    Conjunction (ws ++ "AND" :: vs) (.and x y)

/-- Conjunctions with `OR` between them. -/
inductive Disjunction : List String → Formula (List String) → Prop where
  | conjunction {ws : List String} {x : Formula (List String)} (h : Conjunction ws x) : Disjunction ws x
  | or {ws vs : List String} {x y : Formula (List String)} (left : Disjunction ws x) (right : Conjunction vs y) :
    Disjunction (ws ++ "OR" :: vs) (.or x y)

end

/-! ## The reader -/

/-- What has been read within one pair of brackets: the disjunction before the last `OR`, and since then the conjunction
before the last `AND`. -/
structure Level where
  ors : Option (Formula (List String))
  ands : Option (Formula (List String))

namespace Level

def start : Level := ⟨none, none⟩

def conjoin (l : Level) (x : Formula (List String)) : Formula (List String) :=
  match l.ands with
  | none => x
  | some a => .and a x

def close (l : Level) (x : Formula (List String)) : Formula (List String) :=
  match l.ors with
  | none => l.conjoin x
  | some o => .or o (l.conjoin x)

end Level

inductive Slot where
  | vacant
  | words (ws : List String)
  | group (x : Formula (List String))

namespace Slot

def operand? : Slot → Option (Formula (List String))
  | .vacant => none
  | .words ws => some (.atom ws)
  | .group x => some x

/-- The operand with one word more. Nothing may follow a bracket. -/
def add? (w : String) : Slot → Option Slot
  | .vacant => some (.words [w])
  | .words ws => some (.words (ws ++ [w]))
  | .group _ => none

end Slot

/-- What has been read of a text: the innermost brackets, the operand in them, and the brackets around them. -/
structure State where
  level : Level
  slot : Slot
  outer : List Level

namespace State

def start : State := ⟨.start, .vacant, []⟩

def step (s : State) (w : String) : Option State :=
  if w = "(" then
    match s.slot with
    | .vacant => some ⟨.start, .vacant, s.level :: s.outer⟩
    | _ => none
  else if w = ")" then
    match s.slot.operand?, s.outer with
    | some x, l :: ls => some ⟨l, .group (s.level.close x), ls⟩
    | _, _ => none
  else if w = "AND" then s.slot.operand?.map fun x => ⟨⟨s.level.ors, some (s.level.conjoin x)⟩, .vacant, s.outer⟩
  else if w = "OR" then s.slot.operand?.map fun x => ⟨⟨some (s.level.close x), none⟩, .vacant, s.outer⟩
  else (s.slot.add? w).map fun slot => { s with slot }

def run (s : State) (ws : List String) : Option State := ws.foldlM step s

/-- The formula, when all brackets are closed. -/
def finish? (s : State) : Option (Formula (List String)) :=
  match s.outer with
  | [] => s.slot.operand?.map s.level.close
  | _ :: _ => none

end State

/-- The formula in a list of words. -/
def parse (ws : List String) : Option (Formula (List String)) := (State.start.run ws).bind State.finish?

namespace State

theorem run_nil (s : State) : s.run [] = some s := rfl

theorem run_cons (s : State) (w : String) (ws : List String) : s.run (w :: ws) = (s.step w).bind fun t => t.run ws :=
  List.foldlM_cons

theorem run_append (s : State) (ws vs : List String) : s.run (ws ++ vs) = (s.run ws).bind fun t => t.run vs :=
  List.foldlM_append

theorem step_plain {s : State} {w : String} (h : isMark w = false) :
    s.step w = (s.slot.add? w).map fun slot => { s with slot } := by
  simp only [isMark, Bool.or_eq_false_iff, beq_eq_false_iff_ne] at h
  rw [step, if_neg h.1.1.1, if_neg h.1.1.2, if_neg h.1.2, if_neg h.2]

theorem step_open (l : Level) (outer : List Level) :
    (⟨l, .vacant, outer⟩ : State).step "(" = some ⟨.start, .vacant, l :: outer⟩ := rfl

theorem step_close {l m : Level} {slot : Slot} {x : Formula (List String)} {outer : List Level}
    (h : slot.operand? = some x) :
    (⟨l, slot, m :: outer⟩ : State).step ")" = some ⟨m, .group (l.close x), outer⟩ := by
  rw [step, if_neg (by decide), if_pos rfl, h]

theorem step_and {l : Level} {slot : Slot} {x : Formula (List String)} {outer : List Level}
    (h : slot.operand? = some x) :
    (⟨l, slot, outer⟩ : State).step "AND" = some ⟨⟨l.ors, some (l.conjoin x)⟩, .vacant, outer⟩ := by
  rw [step, if_neg (by decide), if_neg (by decide), if_pos rfl, h]
  rfl

theorem step_or {l : Level} {slot : Slot} {x : Formula (List String)} {outer : List Level}
    (h : slot.operand? = some x) :
    (⟨l, slot, outer⟩ : State).step "OR" = some ⟨⟨some (l.close x), none⟩, .vacant, outer⟩ := by
  rw [step, if_neg (by decide), if_neg (by decide), if_neg (by decide), if_pos rfl, h]
  rfl

theorem run_words {ws us : List String} {l : Level} {outer : List Level} (plain : ∀ w ∈ ws, isMark w = false) :
    (⟨l, .words us, outer⟩ : State).run ws = some ⟨l, .words (us ++ ws), outer⟩ := by
  induction ws generalizing us with
  | nil => rw [run_nil, List.append_nil]
  | cons w ws ih =>
    rw [run_cons, step_plain (plain w List.mem_cons_self)]
    refine (ih fun v hv => plain v (List.mem_cons_of_mem w hv)).trans ?_
    rw [List.append_assoc, List.singleton_append]

theorem run_atom {ws : List String} {l : Level} {outer : List Level} (nonempty : ws ≠ [])
    (plain : ∀ w ∈ ws, isMark w = false) :
    (⟨l, .vacant, outer⟩ : State).run ws = some ⟨l, .words ws, outer⟩ := by
  obtain ⟨w, vs, rfl⟩ := List.exists_cons_of_ne_nil nonempty
  rw [run_cons, step_plain (plain w List.mem_cons_self)]
  exact run_words fun v hv => plain v (List.mem_cons_of_mem w hv)

end State

/-! ## Every formula is read -/

mutual

theorem Factor.run {ws : List String} {x : Formula (List String)} :
    Factor ws x → ∀ l outer, ∃ slot : Slot, slot.operand? = some x ∧
      (⟨l, .vacant, outer⟩ : State).run ws = some ⟨l, slot, outer⟩
  | .atom nonempty plain, l, outer => ⟨.words ws, rfl, State.run_atom nonempty plain⟩
  | .group inner, l, outer => by
    obtain ⟨m, slot, y, hy, rfl, hrun⟩ := Disjunction.run inner (l :: outer)
    refine ⟨.group (m.close y), rfl, ?_⟩
    rw [State.run_cons, State.step_open, Option.bind_some, State.run_append, hrun, Option.bind_some,
      State.run_cons, State.step_close hy]
    rfl

theorem Conjunction.run {ws : List String} {x : Formula (List String)} :
    Conjunction ws x → ∀ ors outer, ∃ (ands : Option (Formula (List String))) (slot : Slot) (y : Formula (List String)),
      slot.operand? = some y ∧ Level.conjoin ⟨ors, ands⟩ y = x ∧
      (⟨⟨ors, none⟩, .vacant, outer⟩ : State).run ws = some ⟨⟨ors, ands⟩, slot, outer⟩
  | .factor h, ors, outer => by
    obtain ⟨slot, hx, hrun⟩ := Factor.run h ⟨ors, none⟩ outer
    exact ⟨none, slot, x, hx, rfl, hrun⟩
  | .and left right, ors, outer => by
    obtain ⟨ands, slot, y, hy, rfl, hleft⟩ := Conjunction.run left ors outer
    obtain ⟨slot', hx, hright⟩ := Factor.run right ⟨ors, some (Level.conjoin ⟨ors, ands⟩ y)⟩ outer
    refine ⟨some (Level.conjoin ⟨ors, ands⟩ y), slot', _, hx, rfl, ?_⟩
    rw [State.run_append, hleft, Option.bind_some, State.run_cons, State.step_and hy, Option.bind_some, hright]

theorem Disjunction.run {ws : List String} {x : Formula (List String)} :
    Disjunction ws x → ∀ outer, ∃ (l : Level) (slot : Slot) (y : Formula (List String)),
      slot.operand? = some y ∧ l.close y = x ∧
      (⟨.start, .vacant, outer⟩ : State).run ws = some ⟨l, slot, outer⟩
  | .conjunction h, outer => by
    obtain ⟨ands, slot, y, hy, rfl, hrun⟩ := Conjunction.run h none outer
    exact ⟨⟨none, ands⟩, slot, y, hy, rfl, hrun⟩
  | .or left right, outer => by
    obtain ⟨l, slot, y, hy, rfl, hleft⟩ := Disjunction.run left outer
    obtain ⟨ands, slot', z, hz, rfl, hright⟩ := Conjunction.run right (some (l.close y)) outer
    refine ⟨⟨some (l.close y), ands⟩, slot', z, hz, rfl, ?_⟩
    rw [State.run_append, hleft, Option.bind_some, State.run_cons, State.step_or hy, Option.bind_some, hright]

end

theorem parse_of_disjunction {ws : List String} {x : Formula (List String)} (h : Disjunction ws x) :
    parse ws = some x := by
  obtain ⟨l, slot, y, hy, rfl, hrun⟩ := h.run []
  rw [parse, State.start, hrun, Option.bind_some, State.finish?, hy]
  rfl

/-! ## Nothing else is read -/

/-- The words of a level, up to the operand that is being read. -/
inductive Level.Read : Level → List String → Prop where
  | start : Read ⟨none, none⟩ []
  | ands {us : List String} {a : Formula (List String)} (h : Conjunction us a) :
    Read ⟨none, some a⟩ (us ++ ["AND"])
  | ors {us : List String} {o : Formula (List String)} (h : Disjunction us o) : Read ⟨some o, none⟩ (us ++ ["OR"])
  | both {us vs : List String} {o a : Formula (List String)} (ho : Disjunction us o) (ha : Conjunction vs a) :
    Read ⟨some o, some a⟩ (us ++ "OR" :: (vs ++ ["AND"]))

inductive Slot.Read : Slot → List String → Prop where
  | vacant : Read .vacant []
  | words {ws : List String} (nonempty : ws ≠ []) (plain : ∀ w ∈ ws, isMark w = false) : Read (.words ws) ws
  | group {ws : List String} {x : Formula (List String)} (h : Factor ws x) : Read (.group x) ws

/-- The words in front of the innermost brackets. -/
inductive ReadOutside : List Level → List String → Prop where
  | nil : ReadOutside [] []
  | cons {l : Level} {ls : List Level} {us vs : List String} (outside : ReadOutside ls us) (h : l.Read vs) :
    ReadOutside (l :: ls) (us ++ (vs ++ ["("]))

def State.Read (s : State) (ws : List String) : Prop :=
  ∃ us vs xs, ReadOutside s.outer us ∧ s.level.Read vs ∧ s.slot.Read xs ∧ ws = us ++ (vs ++ xs)

theorem Slot.Read.factor {slot : Slot} {ws : List String} {x : Formula (List String)} (h : slot.Read ws)
    (hx : slot.operand? = some x) : Factor ws x := by
  cases h with
  | vacant => cases hx
  | words nonempty plain =>
    cases hx
    exact .atom nonempty plain
  | group h =>
    cases hx
    exact h

theorem Slot.Read.add {slot slot' : Slot} {ws : List String} {w : String} (h : slot.Read ws)
    (plain : isMark w = false) (hadd : slot.add? w = some slot') : slot'.Read (ws ++ [w]) := by
  cases h with
  | vacant =>
    cases hadd
    exact .words (List.cons_ne_nil w []) fun v hv => (List.mem_singleton.1 hv) ▸ plain
  | words nonempty all =>
    cases hadd
    refine .words (List.append_ne_nil_of_left_ne_nil nonempty [w]) fun v hv => ?_
    rcases List.mem_append.1 hv with hv | hv
    · exact all v hv
    · exact (List.mem_singleton.1 hv) ▸ plain
  | group h => cases hadd

namespace Level.Read

theorem close {l : Level} {vs xs : List String} {x : Formula (List String)} (h : l.Read vs) (hx : Factor xs x) :
    Disjunction (vs ++ xs) (l.close x) := by
  cases h with
  | start => exact .conjunction (.factor hx)
  | ands ha =>
    rw [List.append_assoc]
    exact .conjunction (.and ha hx)
  | ors ho =>
    rw [List.append_assoc]
    exact .or ho (.factor hx)
  | both ho ha =>
    rw [List.append_assoc, List.cons_append, List.append_assoc]
    exact .or ho (.and ha hx)

theorem conjoin {l : Level} {vs xs : List String} {x : Formula (List String)} (h : l.Read vs) (hx : Factor xs x) :
    Level.Read ⟨l.ors, some (l.conjoin x)⟩ (vs ++ (xs ++ ["AND"])) := by
  rw [← List.append_assoc]
  cases h with
  | start => exact .ands (.factor hx)
  | ands ha =>
    rw [List.append_assoc _ ["AND"]]
    exact .ands (.and ha hx)
  | ors ho =>
    rw [List.append_assoc _ ["OR"], List.append_assoc _ _ ["AND"]]
    exact .both ho (.factor hx)
  | both ho ha =>
    rw [List.append_assoc, List.append_assoc, List.cons_append, List.append_assoc, ← List.append_assoc ["AND"],
      ← List.append_assoc]
    exact .both ho (.and ha hx)

end Level.Read

namespace State.Read

theorem start : State.start.Read [] := ⟨[], [], [], .nil, .start, .vacant, rfl⟩

theorem step {s t : State} {ws : List String} {w : String} (h : s.Read ws) (ht : s.step w = some t) :
    t.Read (ws ++ [w]) := by
  obtain ⟨us, vs, xs, hout, hlevel, hslot, rfl⟩ := h
  unfold State.step at ht
  split at ht
  · rename_i hw
    subst hw
    cases hs : s.slot with
    | vacant =>
      rw [hs] at ht hslot
      cases ht
      cases hslot
      exact ⟨us ++ (vs ++ ["("]), [], [], .cons hout hlevel, .start, .vacant, by simp⟩
    | words ws =>
      rw [hs] at ht
      cases ht
    | group x =>
      rw [hs] at ht
      cases ht
  · split at ht
    · rename_i hw
      subst hw
      cases hx : s.slot.operand? with
      | none =>
        rw [hx] at ht
        cases ht
      | some x =>
        cases ho : s.outer with
        | nil =>
          rw [hx, ho] at ht
          cases ht
        | cons l ls =>
          rw [hx, ho] at ht
          rw [ho] at hout
          cases ht
          cases hout with
          | @cons _ _ us' ws' outside h =>
            exact ⟨us', ws', _, outside, h, .group (.group (hlevel.close (hslot.factor hx))), by simp⟩
    · split at ht
      · rename_i hw
        subst hw
        obtain ⟨x, hx, rfl⟩ := Option.map_eq_some_iff.1 ht
        exact ⟨us, _, [], hout, hlevel.conjoin (hslot.factor hx), .vacant, by simp⟩
      · split at ht
        · rename_i hw
          subst hw
          obtain ⟨x, hx, rfl⟩ := Option.map_eq_some_iff.1 ht
          exact ⟨us, _, [], hout, .ors (hlevel.close (hslot.factor hx)), .vacant, by simp⟩
        · rename_i h1 h2 h3 h4
          obtain ⟨slot, hadd, rfl⟩ := Option.map_eq_some_iff.1 ht
          have plain : isMark w = false := by simp [isMark, h1, h2, h3, h4]
          exact ⟨us, vs, xs ++ [w], hout, hlevel, hslot.add plain hadd, by simp⟩

theorem run {s t : State} {ws vs : List String} (h : s.Read ws) (ht : s.run vs = some t) : t.Read (ws ++ vs) := by
  induction vs generalizing s ws with
  | nil =>
    cases ht
    rwa [List.append_nil]
  | cons v vs ih =>
    rw [run_cons] at ht
    obtain ⟨u, hu, hrun⟩ := Option.bind_eq_some_iff.1 ht
    rw [List.append_cons]
    exact ih (h.step hu) hrun

end State.Read

theorem disjunction_of_parse {ws : List String} {x : Formula (List String)} (h : parse ws = some x) :
    Disjunction ws x := by
  obtain ⟨s, hrun, hfinish⟩ := Option.bind_eq_some_iff.1 h
  obtain ⟨us, vs, xs, hout, hlevel, hslot, hws⟩ := State.Read.start.run hrun
  unfold State.finish? at hfinish
  cases ho : s.outer with
  | cons l ls =>
    rw [ho] at hfinish
    cases hfinish
  | nil =>
    rw [ho] at hfinish hout
    obtain ⟨y, hy, rfl⟩ := Option.map_eq_some_iff.1 hfinish
    cases hout
    have closed := hlevel.close (hslot.factor hy)
    rw [List.nil_append, List.nil_append] at hws
    exact hws ▸ closed

/-- The reader finds a formula in words just when the grammar has it. -/
theorem parse_eq_some_iff {ws : List String} {x : Formula (List String)} : parse ws = some x ↔ Disjunction ws x :=
  ⟨disjunction_of_parse, parse_of_disjunction⟩

example : parse ["a", "OR", "(", "b", "OR", "c", "d", ")", "AND", "e"] =
    some (.or (.atom ["a"]) (.and (.or (.atom ["b"]) (.atom ["c", "d"])) (.atom ["e"]))) := by decide

end FilterTree.Sql
