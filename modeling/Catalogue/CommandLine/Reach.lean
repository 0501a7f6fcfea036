import Catalogue.CommandLine.Session

/-!
# The files of a run

Which files a run can look at: those that its command line names, those where configurations are
looked for, and the library that the configuration names.  All other files can be unknown to it.
-/

namespace Catalogue.CommandLine

/-- The paths that the switches of the program give. -/
def namedPaths (words : List String) : List FilePath :=
  match readWords Globals.switches false words with
  | .error _ => []
  | .ok found =>
    (found.given.filter fun g => g.switch = configSwitch ∨ g.switch = librarySwitch).map fun g =>
      .ofText g.value

/-- The paths that can be looked at before the configuration is known. -/
def earlyPaths (env : Environment) (words : List String) : List FilePath :=
  (Config.paths env).toOption.getD [] ++ namedPaths words

/-- The path of the library, once the files of the configuration are known. -/
def libraryPath? (s : Surroundings) (words : List String) : Option FilePath :=
  match Opening.read s.files words with
  | .ok (.globals g _) =>
    match Session.start s g with
    | .ok session => session.library
    | .error _ => none
  | _ => none

end Catalogue.CommandLine
