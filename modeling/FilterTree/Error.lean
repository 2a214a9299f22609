import FilterTree.Json.Basic

/-!
# Errors

* `ConfigFault`, `ReadFault` : what is wrong with a configuration, and why a file cannot be read.
* `Error` : every way in which a filter fails to become a clause.
* `Error.message` : its wording.
* `Error.chain` : its wording followed by that of the error it carries, which repeats the carried text.
-/

namespace FilterTree

inductive ConfigFault where
  | emptyTemplate
  | shadowsBuiltin (keyword : String)
  | other (reason : String)
deriving DecidableEq

inductive ReadFault where
  | notFound
  | isDirectory
  | notDirectory
  | tooLong
  | notUtf8
  | other (reason : String)
deriving DecidableEq

/-- The ways in which a filter fails to become a clause. -/
inductive Error where
  | fieldNotAllowed (field : String)
  | arityMismatch (operator : String) (expected got : Nat)
  | unknownOperator (operator : String)
  | operation (reason : String)
  | tooDeep (depth max : Nat)
  | json (e : Json.Error)
  | toml
  | config (fault : ConfigFault)
  | read (fault : ReadFault)

def ConfigFault.message : ConfigFault → String
  | .emptyTemplate => "operation template must not be empty"
  | .shadowsBuiltin keyword => "operation '" ++ keyword ++ "' shadows a built-in operator"
  | .other reason => reason

def ReadFault.message : ReadFault → String
  | .notFound => "No such file or directory (os error 2)"
  | .isDirectory => "Is a directory (os error 21)"
  | .notDirectory => "Not a directory (os error 20)"
  | .tooLong => "File name too long (os error 36)"
  | .notUtf8 => "stream did not contain valid UTF-8"
  | .other reason => reason

namespace Error

/-- An error in words. -/
def message : Error → String
  | .fieldNotAllowed field => "Field name is not in whitelist: " ++ field
  | .arityMismatch operator expected got =>
    "Operator '" ++ operator ++ "' expects " ++ Json.count expected ++ " value(s), got " ++ Json.count got
  | .unknownOperator operator => "Unknown operation: " ++ operator
  | .operation reason => "Operation failed: " ++ reason
  | .tooDeep depth max =>
    "Filter nests " ++ Json.count depth ++ " levels deep, limit is " ++ Json.count max
  | .json e => "Invalid filter JSON: " ++ e.message
  | .toml => "Invalid config file: "
  | .config fault => "Configuration error: " ++ fault.message
  | .read fault => "IO error: " ++ fault.message

/-- The text of the error that an error carries. -/
def cause? : Error → Option String
  | .json e => some e.message
  | .read fault => some fault.message
  | _ => none

/-- An error in words, and behind it the error that it carries. -/
def chain (e : Error) : String :=
  match e.cause? with
  | some text => e.message ++ ": " ++ text
  | none => e.message

end Error

end FilterTree
