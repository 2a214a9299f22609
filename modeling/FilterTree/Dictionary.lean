/-!
# Dictionaries

A finite map from names to values, kept in the order of its names. Names are compared by their characters'
code points, which is the order of their UTF-8 bytes.

* `Dictionary` : the entries, strictly increasing by name.
* `Dictionary.insert`, `Dictionary.get?`, `Dictionary.keys` : the three operations.
* `Dictionary.get?_eq_some_iff` : a look-up sees the entries.
* `Dictionary.get?_insert` : a look-up sees the last value inserted under its name.
* `Dictionary.mem_keys_insert` : an insertion adds its name and no other.
* `NameSet` : a dictionary whose names are all that matters.
-/

namespace FilterTree

/-- Entries in strictly increasing order of their names. -/
structure Dictionary (α : Type) where
  entries : List (String × α)
  increasing : entries.Pairwise (·.1 < ·.1)

namespace Dictionary

variable {α : Type}

def empty : Dictionary α := ⟨[], .nil⟩

instance : EmptyCollection (Dictionary α) := ⟨empty⟩
instance : Inhabited (Dictionary α) := ⟨empty⟩

def keys (d : Dictionary α) : List String := d.entries.map (·.1)

def get? (d : Dictionary α) (name : String) : Option α :=
  (d.entries.find? (·.1 == name)).map (·.2)

/-- Entries with one more, which replaces an entry of the same name. -/
def place (name : String) (value : α) : List (String × α) → List (String × α)
  | [] => [(name, value)]
  | e :: es =>
    if name < e.1 then (name, value) :: e :: es
    else if e.1 < name then e :: place name value es
    else (name, value) :: es

theorem eq_of_not_lt {a b : String} (h : ¬a < b) (h' : ¬b < a) : a = b :=
  String.le_antisymm (String.not_lt.1 h') (String.not_lt.1 h)

theorem mem_keys_place {name x : String} {value : α} {es : List (String × α)} :
    x ∈ (place name value es).map (·.1) ↔ x = name ∨ x ∈ es.map (·.1) := by
  induction es with
  | nil => simp [place]
  | cons e es ih =>
    simp only [place]
    split
    · simp
    · split
      · rw [List.map_cons, List.map_cons, List.mem_cons, List.mem_cons, ih]
        exact or_left_comm
      · rw [List.map_cons, List.map_cons, List.mem_cons, List.mem_cons,
          ← eq_of_not_lt ‹¬name < e.1› ‹¬e.1 < name›]
        exact or_self_left.symm

theorem increasing_place {name : String} {value : α} {es : List (String × α)}
    (h : es.Pairwise (·.1 < ·.1)) : (place name value es).Pairwise (·.1 < ·.1) := by
  induction es with
  | nil => simp [place]
  | cons e es ih =>
    have ⟨below, rest⟩ := List.pairwise_cons.1 h
    simp only [place]
    split
    · rename_i lt
      refine List.pairwise_cons.2 ⟨fun x hx => ?_, h⟩
      rcases List.mem_cons.1 hx with rfl | hx
      · exact lt
      · exact String.lt_trans lt (below x hx)
    · split
      · rename_i lt
        refine List.pairwise_cons.2 ⟨fun x hx => ?_, ih rest⟩
        rcases mem_keys_place.1 (List.mem_map_of_mem hx) with eq | old
        · exact eq ▸ lt
        · obtain ⟨y, hy, eq⟩ := List.mem_map.1 old
          exact eq ▸ below y hy
      · have same := eq_of_not_lt ‹¬name < e.1› ‹¬e.1 < name›
        exact List.pairwise_cons.2 ⟨fun x hx => same ▸ below x hx, rest⟩

def insert (d : Dictionary α) (name : String) (value : α) : Dictionary α :=
  ⟨place name value d.entries, increasing_place d.increasing⟩

/-- Entries inserted one after the other: the last of a name stays. -/
def ofList (es : List (String × α)) : Dictionary α :=
  es.foldl (fun d e => d.insert e.1 e.2) empty

theorem increasing_keys (d : Dictionary α) : d.keys.Pairwise (· < ·) :=
  List.pairwise_map.2 d.increasing

/-- An entry parts the others into lesser ones before it and greater ones behind it. -/
theorem lt_of_split {d : Dictionary α} {before after : List (String × α)} {e : String × α}
    (split : d.entries = before ++ e :: after) : (∀ b ∈ before, b.1 < e.1) ∧ ∀ a ∈ after, e.1 < a.1 := by
  have increasing := d.increasing
  rw [split, List.pairwise_append, List.pairwise_cons] at increasing
  obtain ⟨-, ⟨behind, -⟩, across⟩ := increasing
  exact ⟨fun b hb => across b hb e List.mem_cons_self, behind⟩

@[simp] theorem keys_empty : (empty : Dictionary α).keys = [] := rfl

@[simp] theorem mem_keys_insert {d : Dictionary α} {name x : String} {value : α} :
    x ∈ (d.insert name value).keys ↔ x = name ∨ x ∈ d.keys := mem_keys_place

theorem find?_cons_of_eq {e : String × α} {es : List (String × α)} {x : String} (h : e.1 = x) :
    (e :: es).find? (·.1 == x) = some e :=
  List.find?_cons_of_pos (beq_iff_eq.2 h)

theorem find?_cons_of_ne {e : String × α} {es : List (String × α)} {x : String} (h : e.1 ≠ x) :
    (e :: es).find? (·.1 == x) = es.find? (·.1 == x) :=
  List.find?_cons_of_neg fun eq => h (beq_iff_eq.1 eq)

theorem find?_place {name x : String} {value : α} {es : List (String × α)}
    (h : es.Pairwise (·.1 < ·.1)) :
    ((place name value es).find? (·.1 == x)).map (·.2) =
      if x = name then some value else (es.find? (·.1 == x)).map (·.2) := by
  by_cases hx : x = name
  · subst hx
    rw [if_pos rfl]
    induction es with
    | nil => rw [place, find?_cons_of_eq (x := x) rfl]; rfl
    | cons e es ih =>
      rw [place]
      split
      · rw [find?_cons_of_eq (x := x) rfl]; rfl
      · split
        · rename_i lt
          rw [find?_cons_of_ne fun eq => String.lt_irrefl _ (eq ▸ lt)]
          exact ih (List.pairwise_cons.1 h).2
        · rw [find?_cons_of_eq (x := x) rfl]; rfl
  · have ne : name ≠ x := fun eq => hx eq.symm
    rw [if_neg hx]
    induction es with
    | nil => rw [place, find?_cons_of_ne ne]
    | cons e es ih =>
      rw [place]
      split
      · rw [find?_cons_of_ne ne]
      · split
        · by_cases he : e.1 = x
          · rw [find?_cons_of_eq he, find?_cons_of_eq he]
          · rw [find?_cons_of_ne he, find?_cons_of_ne he]
            exact ih (List.pairwise_cons.1 h).2
        · have same := eq_of_not_lt ‹¬name < e.1› ‹¬e.1 < name›
          rw [find?_cons_of_ne ne, find?_cons_of_ne (same ▸ ne)]

theorem get?_eq_some_iff {d : Dictionary α} {name : String} {value : α} :
    d.get? name = some value ↔ (name, value) ∈ d.entries := by
  obtain ⟨es, increasing⟩ := d
  show (es.find? (·.1 == name)).map (·.2) = some value ↔ (name, value) ∈ es
  induction es with
  | nil => simp
  | cons e es ih =>
    have ⟨below, rest⟩ := List.pairwise_cons.1 increasing
    by_cases first : e.1 = name
    · have absent : (name, value) ∉ es := fun later => String.lt_irrefl _ (first ▸ below _ later)
      rw [find?_cons_of_eq first, List.mem_cons, or_iff_left absent, Option.map_some, Option.some.injEq]
      constructor
      · rintro rfl
        rw [← first]
      · rintro rfl
        rfl
    · have other : (name, value) ≠ e := by
        rintro rfl
        exact first rfl
      rw [find?_cons_of_ne first, List.mem_cons, or_iff_right other, ih rest]

theorem get?_eq_none_iff {d : Dictionary α} {name : String} : d.get? name = none ↔ name ∉ d.keys := by
  rw [Option.eq_none_iff_forall_ne_some, keys, List.mem_map, not_exists]
  constructor
  · rintro h ⟨_, value⟩ ⟨kept, rfl⟩
    exact h value (get?_eq_some_iff.2 kept)
  · intro h value found
    exact h (name, value) ⟨get?_eq_some_iff.1 found, rfl⟩

theorem get?_insert (d : Dictionary α) (name x : String) (value : α) :
    (d.insert name value).get? x = if x = name then some value else d.get? x :=
  find?_place d.increasing

end Dictionary

abbrev NameSet := Dictionary Unit

namespace NameSet

def ofList (names : List String) : NameSet :=
  names.foldl (fun s n => s.insert n ()) Dictionary.empty

theorem mem_keys_foldl {names : List String} {s : NameSet} {x : String} :
    x ∈ (names.foldl (fun s n => s.insert n ()) s).keys ↔ x ∈ names ∨ x ∈ s.keys := by
  induction names generalizing s with
  | nil => simp
  | cons n names ih =>
    rw [List.foldl_cons, ih, Dictionary.mem_keys_insert, List.mem_cons, or_left_comm, or_assoc]

end NameSet

end FilterTree
