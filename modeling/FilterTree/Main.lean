import FilterTree.Command.Run

/-!
# The program

Reads the surroundings, runs the command and prints its report. Nothing is decided here. The files that a run may
look at are read beforehand, for a run itself has no effects.
-/

namespace FilterTree

def readFaultOf : IO.Error → ReadFault
  | .noFileOrDirectory .. => .notFound
  | .inappropriateType _ code _ => if code = 21 then .isDirectory else .notDirectory
  | .invalidArgument (some path) code details =>
    if code = 36 ∨ code = -36 then .tooLong else .other (toString (IO.Error.invalidArgument (some path) code details))
  | .permissionDenied .. => .other "Permission denied (os error 13)"
  | e => .other (toString e)

def lookUp (path : String) : IO (Except ReadFault ByteArray) := do
  match ← (IO.FS.readBinFile path).toBaseIO with
  | .ok bytes => pure (.ok bytes)
  | .error e => pure (.error (readFaultOf e))

/-- Whether a path leads to a regular file, behind links. -/
def isRegular (path : String) : IO Bool := do
  match ← (do (← IO.FS.realPath path).metadata).toBaseIO with
  | .ok found => return found.type == .file
  | .error _ => return false

def readInput : IO ByteArray := do (← IO.getStdin).readBinToEnd

def userConfig : IO (Option String) := do
  match ← IO.getEnv "XDG_CONFIG_HOME" with
  | some path => if path.startsWith "/" then return some path
  | none => pure ()
  return (← IO.getEnv "HOME").map (· ++ "/.config")

/-- Whether styles are shown: forced, refused, or left to the terminal. -/
def wantsColour : IO Bool := do
  let forced := (← IO.getEnv "CLICOLOR_FORCE").any (· != "0")
  let refused := (← IO.getEnv "NO_COLOR").isSome || (← IO.getEnv "CLICOLOR") == some "0"
  let terminal ← (← IO.getStdout).isTty
  return forced || (!refused && terminal)

/-- The surroundings of a run with given words. The input is read only if it is asked for. -/
def surroundings (words : List String) : IO Surroundings := do
  let userConfig ← userConfig
  let config ← IO.getEnv "QUERYSQL_CONFIG"
  let request := match Command.ofWords config words with
    | some (.request r) => some r
    | _ => none
  let usual := Surroundings.usualPlaces userConfig
  let named := (request.bind (·.config)).toList ++ (request.bind (·.file)).toList
  let input ← if request.any (·.wantsInput) then readInput else pure .empty
  let regular ← (usual ++ named).filterM isRegular
  -- A pipe in a usual place is passed over, so it must not be waited for.
  let seen ← (usual.filter regular.contains ++ named).mapM fun path => return (path, ← lookUp path)
  return {
    look := fun path => (seen.lookup path).getD (.error .notFound)
    isFile := fun path => regular.contains path
    input, userConfig, config
    colour := ← wantsColour
    notes := match ← IO.getEnv "RUST_LOG" with
      | some text => .selected text
      | none => .usual }

end FilterTree

open FilterTree in
def main (words : List String) : IO UInt32 := do
  let report := Command.run words (← surroundings words)
  (← IO.getStderr).putStr report.messages
  (← IO.getStdout).putStr report.output
  return report.code.toUInt32
