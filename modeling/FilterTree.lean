import FilterTree.Command.Arguments
import FilterTree.Command.Course
import FilterTree.Command.Folder
import FilterTree.Command.Listing
import FilterTree.Command.Run
import FilterTree.Command.Selection
import FilterTree.Compile
import FilterTree.Decimal
import FilterTree.Dictionary
import FilterTree.Error
import FilterTree.Filter
import FilterTree.Filter.Wire
import FilterTree.Json.Basic
import FilterTree.Json.Enclosure
import FilterTree.Json.Numeral
import FilterTree.Json.Quoted
import FilterTree.Json.Reader
import FilterTree.Json.Record
import FilterTree.Json.Unread
import FilterTree.Json.Value
import FilterTree.Main
import FilterTree.Operand
import FilterTree.Operator
import FilterTree.Proofs.Acceptance
import FilterTree.Proofs.Alike
import FilterTree.Proofs.Arity
import FilterTree.Proofs.Builtin
import FilterTree.Proofs.Bytes
import FilterTree.Proofs.Calls
import FilterTree.Proofs.Command.Explanation
import FilterTree.Proofs.Command.Fields
import FilterTree.Proofs.Command.Listing
import FilterTree.Proofs.Command.Run
import FilterTree.Proofs.Congruence
import FilterTree.Proofs.Correctness
import FilterTree.Proofs.Filter.Decoders
import FilterTree.Proofs.Filter.Integers
import FilterTree.Proofs.Filter.Respelling
import FilterTree.Proofs.Filter.Roundtrip
import FilterTree.Proofs.Grouping
import FilterTree.Proofs.Json.Double
import FilterTree.Proofs.Json.Gap
import FilterTree.Proofs.Json.Integer
import FilterTree.Proofs.Json.Slot
import FilterTree.Proofs.Layout
import FilterTree.Proofs.Lookups
import FilterTree.Proofs.Outline
import FilterTree.Proofs.Preparation
import FilterTree.Proofs.Printed
import FilterTree.Proofs.Sql.Formula
import FilterTree.Proofs.Sql.Test
import FilterTree.Proofs.Substitution
import FilterTree.Proofs.Templates
import FilterTree.Proofs.Vacuous
import FilterTree.Settings
import FilterTree.Text.Basic
import FilterTree.Text.Class
import FilterTree.Text.Pattern
import FilterTree.Toml
