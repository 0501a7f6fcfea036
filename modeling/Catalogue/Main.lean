import Catalogue.CommandLine.Reach
import Catalogue.Display.Plain

/-!
# The program

Fetches the files that a run can look at, runs the command line, and carries out what the run does.
There is no calendar at hand: the log shows the milliseconds since the machine was started.  Nor is
there another decoder: documents nest as deeply as this program allows, and of one that is malformed
no more is said.
-/

namespace Catalogue

/-- The variables that the program looks at. -/
def variableNames : List String :=
  ["HOME", "XDG_CONFIG_HOME", "LIBRARIAN_LIBRARY", "LIBRARIAN_PAGE_SIZE"]

/-- The values of the variables that are set. -/
def fetchEnvironment : IO Environment := do
  let values ← variableNames.mapM fun name => return (name, ← IO.getEnv name)
  return values.filterMap fun (name, value) => value.map fun value => (name, value)

/-- The code of the error that a place is a directory. -/
def directoryCode : UInt32 := 21

/-- Whether an error says that a place is a directory. -/
def saysDirectory : IO.Error → Bool
  | .inappropriateType _ code _ => code = directoryCode
  | _ => false

/-- The file or directory at a place, if there is one. -/
def fetchNode (place : String) : IO (Option FileTree) := do
  try
    return some (.file (← IO.FS.readBinFile place).toList)
  catch e =>
    return if saysDirectory e then some .empty else none

/-- Adds the file or directory at a path. -/
def fetch (files : FileSystem) (path : FilePath) : IO FileSystem := do
  let names := resolve [] (files.base path ++ path.names)
  match ← fetchNode (FilePath.mk .root names).text with
  | some node => return { files with root := files.root.insert node names }
  | none => return files
where
  /-- Follows two dots to the enclosing directory. -/
  resolve (done : List String) : List String → List String
    | [] => done
    | name :: rest =>
      if name = ".." then resolve done.dropLast rest else resolve (done ++ [name]) rest

/-- The number of lists and mappings that this program lets a document have inside each other. -/
def deepest : Nat := 1000

/-- What a run depends on besides the command line. -/
def surroundings (files : FileSystem) (env : Environment) (time : String) :
    CommandLine.Surroundings where
  files := files
  json := ⟨deepest, fun _ => "malformed document"⟩
  yaml := ⟨deepest, fun _ _ => "malformed document"⟩
  env := env
  time := time

/-- Carries out an event. -/
def perform : CommandLine.Event → IO Unit
  | .write text => IO.print text
  | .complain text => IO.eprint text
  | .print content _ _ => (Plain.lines content).forM IO.println

/-- Runs the program with the words of its command line. -/
def runProgram (words : List String) : IO UInt32 := do
  let env ← fetchEnvironment
  let place := (FilePath.ofText (← IO.currentDir).toString).names
  let time := toString (← IO.monoMsNow)
  let start ← fetch ⟨.empty, place⟩ (.relative [])
  let known ← (CommandLine.earlyPaths env words).foldlM fetch start
  let library := CommandLine.libraryPath? (surroundings known env time) words
  let files ← library.toList.foldlM fetch known
  let run := CommandLine.run (surroundings files env time) words
  run.events.forM perform
  match run.ending with
  | .exit code => return code.toUInt32
  | .raise e =>
    IO.eprintln e.message
    return 1

end Catalogue

/-- The entry point. -/
def main (words : List String) : IO UInt32 :=
  Catalogue.runProgram words
