import FilterTree.Command.Course
import FilterTree.Compile
import FilterTree.Settings

/-!
# What a reader is shown

Every listing is a list of lines.

* `Filter.listing` : a filter, one line for each node, two spaces deeper at each level.
* `Clause.listing` : a clause with its numbered values.
* `Operator.listing` : the built-in operators with their SQL.
* `Settings.listing` : the operators and the fields under given settings.
-/

namespace FilterTree

open Style

def indent (level : Nat) : String := String.ofList (List.replicate (2 * level) ' ')

def Leaf.describe (l : Leaf) (colour : Bool) : String :=
  if l.isDegenerate then faint.paint colour "(empty)"
  else if !l.includes.isEmpty then
    name.paint colour l.field ++ " " ++ word.paint colour "in" ++ " [" ++
      value.paint colour (String.intercalate ", " (l.includes.map Literal.display)) ++ "]"
  else
    name.paint colour l.field ++ " " ++ word.paint colour l.condition.operator ++ " " ++
      value.paint colour l.condition.operand.display

def Glue.describe (g : Glue) (colour : Bool) (count : Nat) : String :=
  word.paint colour g.display ++ " (" ++ Json.count count ++ " rules)"

namespace Filter

mutual

/-- A line for each node, from a given level on. -/
def listing (colour : Bool) (level : Nat) : Filter → List String
  | .leaf l => [indent level ++ l.describe colour]
  | .group glue rules =>
    (indent level ++ glue.describe colour rules.length) :: listingAll colour (level + 1) rules

def listingAll (colour : Bool) (level : Nat) : List Filter → List String
  | [] => []
  | f :: fs => f.listing colour level ++ listingAll colour level fs

end

end Filter

namespace Clause

/-- A line for each value, numbered from a given number on. -/
def values (colour : Bool) (n : Nat) : List Literal → List String
  | [] => []
  | v :: vs =>
    ("  " ++ faint.paint colour (Json.count n) ++ " = " ++ value.paint colour v.display) ::
      values colour (n + 1) vs

def listing (c : Clause) (colour : Bool) : List String :=
  [heading.paint colour "Generated SQL:",
    "  " ++ if c.isEmpty then faint.paint colour "(no filter)" else name.paint colour c.sql] ++
  if c.params.isEmpty then [] else ["", word.paint colour "Parameters:"] ++ values colour 1 c.params

end Clause

def keywordWidth : Nat := 16

def Operator.describe (o : Operator) (colour : Bool) : String :=
  word.paintTo colour keywordWidth o.keyword ++ " " ++ faint.paint colour o.template ++
    faint.paint colour (if o.isRange then "  (null bound drops its half)" else "")

def Operator.listing (colour : Bool) : List String :=
  [title.paint colour "Built-in Operators", "",
    column.paintTo colour keywordWidth "Keyword" ++ " " ++ column.paint colour "SQL",
    faint.paint colour (String.ofList (List.replicate 56 '─'))] ++
  all.map (·.describe colour)

namespace Settings

def templates (s : Settings) (colour : Bool) : List String :=
  if s.operations.entries.isEmpty then []
  else ["", title.paint colour "Configured Operators", ""] ++ s.operations.entries.map fun e =>
    value.paintTo colour keywordWidth e.1 ++ " " ++ faint.paint colour e.2

def fields (c : Catalog) (colour : Bool) : String :=
  word.paint colour "Whitelist:" ++ " " ++ match c.fields? with
    | some fields => name.paint colour (String.intercalate ", " fields)
    | none => faint.paint colour "(unrestricted)"

/-- The operators, and the fields of a catalog made from the settings. -/
def listing (s : Settings) (c : Catalog) (colour : Bool) : List String :=
  Operator.listing colour ++ s.templates colour ++ ["", fields c colour]

end Settings

end FilterTree
