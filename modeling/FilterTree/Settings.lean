import FilterTree.Compile
import FilterTree.Filter.Wire
import FilterTree.Toml

/-!
# Settings

* `Settings` : what a settings file says: the fields that are allowed, how deep a filter may be, and a template for
  each further operator.
* `Settings.ofToml` : the settings in a document. Keys that mean nothing here are ignored.
* `Catalog.addTemplates`, `Catalog.ofTemplates` : a catalog with a template for each keyword.
* `Settings.toCatalog` : the catalog of the settings. A template may not take the keyword of a built-in operator.
* `Settings.checkDepth` : the limit on the depth of a filter.
* `Settings.accept`, `Settings.prepare` : from the text of a filter to the filter with its catalog, and to its clause.
-/

namespace FilterTree

/-- What a settings file says. -/
structure Settings where
  whitelist : Option (List String)
  maxDepth : Nat
  operations : Dictionary String
deriving Inhabited

namespace Catalog

/-- The catalog that is limited to a whitelist, if there is one. -/
def ofWhitelist : Option (List String) → Catalog
  | some fields => unrestricted.allow fields
  | none => unrestricted

/-- Templates are registered in the order of their keywords, none of which may be refused. The first fault counts. -/
def addTemplates (refuses : String → Bool) (c : Catalog) : List (String × String) → Except Error Catalog
  | [] => .ok c
  | (keyword, text) :: rest =>
    if refuses keyword then .error (.config (.shadowsBuiltin keyword))
    else match Template.ofText text with
      | .ok t => (c.register keyword t.apply).addTemplates refuses rest
      | .error e => .error e

/-- The catalog with a whitelist and with templates, whatever their keywords. -/
def ofTemplates (whitelist : Option (List String)) (templates : Dictionary String) : Except Error Catalog :=
  (ofWhitelist whitelist).addTemplates (fun _ => false) templates.entries

end Catalog

namespace Settings

/-- The settings of a document that says nothing. -/
def standard : Settings := ⟨none, 32, .empty⟩

def texts? : List Toml.Item → Option (List String)
  | [] => some []
  | .text s :: items => (texts? items).map (s :: ·)
  | _ :: _ => none

def templates? : Toml.Entries → Option (Dictionary String)
  | [] => some .empty
  | (key, .text s) :: es => (templates? es).map (·.insert key s)
  | _ :: _ => none

def whitelist? : Option Toml.Item → Option (Option (List String))
  | none => some none
  | some (.list items) => (texts? items).map some
  | some _ => none

/-- The depth limit of a document: an integer from zero on. -/
def maxDepth? : Option Toml.Item → Option Nat
  | none => some standard.maxDepth
  | some (.integer n) => if 0 ≤ n then some n.toNat else none
  | some _ => none

/-- The key under which a date or a time stands where a table of texts is looked for. -/
def momentKey : String := "$__toml_private_datetime"

/-- The templates of a document: a table of texts. A date or a time counts as a table with one text. -/
def operations? : Option Toml.Item → Option (Dictionary String)
  | none => some .empty
  | some (.table _ es) => templates? es
  | some (.moment s) => some (.ofList [(momentKey, s)])
  | some _ => none

def ofEntries? (es : Toml.Entries) : Option Settings := do
  let whitelist ← whitelist? (es.get? "whitelist")
  let maxDepth ← maxDepth? (es.get? "max_depth")
  let operations ← operations? (es.get? "operations")
  some ⟨whitelist, maxDepth, operations⟩

def ofToml (text : String) : Except Error Settings :=
  match (Toml.parse text).bind ofEntries? with
  | some s => .ok s
  | none => .error .toml

/-- No template may have the keyword of a built-in operator. -/
def refuses (keyword : String) : Bool := (Operator.ofKeyword? keyword).isSome

/-- The catalog of the settings. -/
def toCatalog (s : Settings) : Except Error Catalog :=
  (Catalog.ofWhitelist s.whitelist).addTemplates refuses s.operations.entries

/-- The limit on the depth of a filter. -/
def checkDepth (s : Settings) (f : Filter) : Except Error Unit :=
  if f.depth > s.maxDepth then .error (.tooDeep f.depth s.maxDepth) else .ok ()

/-- The settings with more fields allowed. No fields leave them as they are. -/
def allowing (s : Settings) (fields : List String) : Settings :=
  if fields.isEmpty then s else { s with whitelist := some (s.whitelist.getD [] ++ fields) }

/-- The filter in a text with the catalog for it. Decoding comes before the depth, and the depth before the catalog. -/
def accept (s : Settings) (text : String) : Except Error (Filter × Catalog) := do
  let f ← Filter.ofText text
  s.checkDepth f
  let c ← s.toCatalog
  pure (f, c)

def prepare (s : Settings) (text : String) : Except Error (Filter × Clause) := do
  let p ← s.accept text
  let clause ← p.1.compile p.2
  pure (p.1, clause)

end Settings

end FilterTree
