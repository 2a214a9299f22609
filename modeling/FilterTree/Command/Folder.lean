import FilterTree.Error
import FilterTree.Text.Basic

/-!
# Files by path

* `Folder` : files, and the place from which paths are followed. A directory is there if a file lies below it.
* `Folder.ofFiles` : the folder with given files, each with its path.
* `Folder.look` : what a path leads to.
-/

namespace FilterTree

/-- Files, each with the names on the way to it from the root, and the names on the way to the place of a run. -/
structure Folder where
  here : List String
  files : List (List String × ByteArray)

namespace Folder

def slash : Text.Mark := ⟨'/', []⟩

def namesOf (path : String) : List String := (slash.split path.toList).map String.ofList

/-- A name that stays where it is. -/
def isIdle (name : String) : Bool := name.isEmpty || name == "."

def maxName : Nat := 255

def maxPath : Nat := 4095

/-- Where a path starts: at the root if it begins with a slash, or else at the place of the run. -/
def start (here : List String) (path : String) : List String :=
  match path.toList with
  | '/' :: _ => []
  | _ => here

def ofFiles (here : List String) (files : List (String × ByteArray)) : Folder :=
  ⟨here, files.map fun f => (start here f.1 ++ (namesOf f.1).filter (!isIdle ·), f.2)⟩

/-- Whether a place lies on the way to a file or to the place of the run. -/
def isDirectory (d : Folder) (place : List String) : Bool :=
  place.isPrefixOf d.here || d.files.any fun f => place.isPrefixOf f.1 && place != f.1

/-- What names lead to from a place. There is no way on from a file. -/
def walk (d : Folder) (place : List String) : List String → Except ReadFault ByteArray
  | [] => .error .isDirectory
  | name :: rest =>
    if isIdle name then d.walk place rest
    else if name = ".." then d.walk place.dropLast rest
    else if maxName < name.utf8ByteSize then .error .tooLong
    else match d.files.lookup (place ++ [name]) with
      | some bytes => if rest.isEmpty then .ok bytes else .error .notDirectory
      | none =>
        if d.isDirectory (place ++ [name]) then d.walk (place ++ [name]) rest else .error .notFound

def look (d : Folder) (path : String) : Except ReadFault ByteArray :=
  if path.isEmpty then .error .notFound
  else if maxPath < path.utf8ByteSize then .error .tooLong
  else d.walk (start d.here path) (namesOf path)

end Folder

end FilterTree
