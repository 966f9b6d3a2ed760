import Lending.Engine.Document
import Lending.Session

/-!
# The program

Answers one request for financing and prints the findings. The program is given the name of a request
file, or answers a sample request.
-/

namespace Lending

/-- What stands under the name of a file. -/
def contentOf (path : String) : IO FileContent := do
  try
    return .text (← IO.FS.readFile path)
  catch
    | .noFileOrDirectory _ _ _ => return .missing
    | _ => return .unreadable

/-- The variables that a session may look at, as far as they are set. -/
def environment : IO (List (String × String)) := do
  let names := ("CONFIG_FILE" :: Settings.overrides.map (·.variableName)).map fun name =>
    Settings.variablePrefix ++ name
  names.filterMapM fun name => return (← IO.getEnv name).map fun value => (name, value)

/-- The world as the session will see it: its files are the settings file and the request file. -/
def surroundings (arguments : List String) : IO Surroundings := do
  let bindings ← environment
  let world : Surroundings := ⟨arguments, fun name => bindings.lookup name, fun _ => .missing⟩
  let paths := Settings.fileName world :: arguments.take 1
  let files ← paths.mapM fun path => return (path, ← contentOf path)
  return { world with file := fun path => (files.lookup path).getD .missing }

end Lending

open Lending in
def main (arguments : List String) : IO UInt32 := do
  match Session.run (← surroundings arguments) with
  | .ok assessment =>
    IO.println (Json.render assessment.findings.document)
    return 0
  | .error fault =>
    IO.eprintln ("Error: " ++ fault.message)
    return 1
