import Catalogue.CommandLine.Search
import Catalogue.Display.Markup
import Catalogue.Display.Report
import Catalogue.Facet
import Catalogue.Json.Writer
import Catalogue.Library
import Catalogue.Text.TerminalCode

/-!
# Sessions

A run of the program from its command line to its end.  The run reads the switches, lays the
configuration together, reads the command, loads the library once the command needs it, and carries
the command out.  All that it does is a list of events and the way it ends, so a run is a function
of the command line, the files and the environment.  Errors end a run with code one, faults of usage
with code two; a debugging run lets errors through to whoever started it once the configuration is
there.
-/

namespace Catalogue.CommandLine

/-- What a run depends on besides the command line: the files below the working directory, the
decoders of libraries and of configurations, the environment, and the time that the log shows. -/
structure Surroundings where
  files : FileSystem
  json : Json.Decoder
  yaml : Yaml.Decoder
  env : Environment := []
  time : String := ""

/-- Why a run fails. -/
inductive RunError where
  | config (e : ConfigError)
  /-- The library in the configuration has a type that names no file. -/
  | notPath (typeName : String)
  /-- The library in the configuration is bytes, which name no file either. -/
  | bytesPath
  /-- The library is in the directory of a user that is not known. -/
  | home (e : HomeError)
  /-- A path on the command line contains the character zero. -/
  | zeroInPath
  | search (e : SearchError)
  | load (e : Library.LoadError)
  | weight (e : WeightError)
  /-- The results contain an integer that is too long to be written. -/
  | unwritable
  deriving DecidableEq, Repr

/-- What went wrong, in words. -/
def RunError.message : RunError → String
  | .config e => e.message
  | .notPath typeName => "expected str, bytes or os.PathLike object, not " ++ typeName
  | .bytesPath =>
    "argument should be a str object or an os.PathLike object returning str, not <class 'bytes'>"
  | .home e => e.message
  | .zeroInPath => zeroMessage
  | .search e => e.message
  | .load e => e.message
  | .weight e => e.message
  | .unwritable => Text.unwritableMessage

/-- Something that a run does. -/
inductive Event where
  /-- Writes to the standard output. -/
  | write (text : String)
  /-- Writes to the standard error. -/
  | complain (text : String)
  /-- Prints on the console, possibly in a style, with or without colours. -/
  | print (content : Renderable) (style : Option String) (noColor : Bool)

/-- How a run ends. -/
inductive Ending where
  | exit (code : Nat)
  /-- The error is passed on. -/
  | raise (e : RunError)

/-- All that a run does. -/
structure Run where
  events : List Event
  ending : Ending

namespace Run

/-- A run that has done its work. -/
def done (events : List Event) : Run := ⟨events, .exit 0⟩

/-- A run that does something before all else. -/
def before (events : List Event) (run : Run) : Run :=
  { run with events := events ++ run.events }

/-- Something said to whoever wrote the command line.  Terminal codes in it are left out. -/
def reply (text : String) : Event :=
  .complain (Text.withoutCodes text)

/-- A run that ends with a fault of usage. -/
def usage (command : Option CommandName) (fault : UsageFault) : Run :=
  ⟨[reply (fault.report command)], .exit 2⟩

/-- Whether an error is announced as one of the configuration files: if it lies in what the
configuration says, and not in where it is looked for or how large it is. -/
def isAboutConfig : RunError → Bool
  | .config (.faulty fault) => fault.isExpected
  | .config .homeless => false
  | .config (.uncertain _) => false
  | .config _ => true
  | _ => false

/-- A run that fails before there is a console. -/
def early (debug : Bool) (e : RunError) : Run :=
  let introduction :=
    if isAboutConfig e && !debug then "Error loading config file: " else "Error: "
  ⟨[reply (introduction ++ e.message ++ "\n")], .exit 1⟩

end Run

/-- What a command works with. -/
structure Session where
  surroundings : Surroundings
  verbosity : Verbosity
  config : Settings
  noColor : Bool
  library : Option FilePath

namespace Session

/-- The library that a configuration names, if it names one. -/
def configuredLibrary (env : Environment) (config : Settings) :
    Except RunError (Option FilePath) :=
  match Config.value config Config.libraryKey .null with
  | .scalar (.text path) =>
    if path = "" then
      .ok none
    else
      match (FilePath.ofText path).expanded env with
      | .ok path => .ok (some path)
      | .error e => .error (.home e)
  | .scalar (.bytes bytes) => if bytes.isEmpty then .ok none else .error .bytesPath
  | v => if v.isGiven then .error (.notPath v.typeName) else .ok none

/-- Lays the configuration together and finds the library. -/
def start (s : Surroundings) (g : Globals) : Except RunError Session := do
  let config ← (Config.load s.yaml s.files s.env g.config).mapError .config
  let noColor := g.noColor || (Config.value config Config.noColorKey .null).isGiven
  match g.library with
  | some path => return ⟨s, g.verbosity, config, noColor, some path⟩
  | none => return ⟨s, g.verbosity, config, noColor, ← configuredLibrary s.env config⟩

/-- The event of a log entry, unless it is suppressed. -/
def log (s : Session) (entry : LogEntry) : List Event :=
  if s.verbosity.shows entry then
    [.complain (s.verbosity.line s.surroundings.time entry)]
  else
    []

/-- Prints on the console. -/
def print (s : Session) (content : Renderable) : Event :=
  .print content none s.noColor

/-- Prints a dim line on the console. -/
def printDim (s : Session) (text : String) : Event :=
  .print (.markup text) (some "dim") s.noColor

/-- What an error looks like on the console. -/
def errorMarkup (e : RunError) : String :=
  "[red]Error:[/red] " ++ Markup.escape e.message

/-- A run that fails. -/
def fail (s : Session) (e : RunError) : Run :=
  if s.verbosity.debug then
    ⟨[], .raise e⟩
  else
    ⟨[s.print (.markup (errorMarkup e))], .exit 1⟩

/-- Loads the library of a session and goes on with its records. -/
def withLibrary (s : Session) (command : CommandName) (next : RecordSet → Run) : Run :=
  match s.library with
  | none => .usage (some command) .noLibrary
  | some path =>
    match Library.readFile s.surroundings.json s.surroundings.files path with
    | .error e => s.fail (.load e)
    | .ok records =>
      Run.before (s.log (.decoded records.length)) <|
        match Library.ofRecords records with
        | .error r => s.fail (.load (.rejected r))
        | .ok set => Run.before (s.log (.loaded set.size path.text)) (next set)

/-- The event that writes a JSON value on a line of its own. -/
def writeJson (v : Json) : Event :=
  .write (v.write ++ "\n")

/-- Searches the library. -/
def search (s : Session) (o : SearchOptions) : Run :=
  match o.request s.config with
  | .error e => s.fail (.search e)
  | .ok request =>
    s.withLibrary .search fun set =>
      match request.narrow set.records with
      | .error e => s.fail (.search e)
      | .ok narrowed =>
        Run.before (s.log (.filtered set.size narrowed.afterQuery.length
            narrowed.afterFormat.length narrowed.afterTags.length)) <|
          match request.pageOf narrowed with
          | .error e => s.fail (.search e)
          | .ok page =>
            match o.output with
            | .json =>
              let results := pageJson o.query page
              if results.isWritable then .done [writeJson results] else s.fail .unwritable
            | .table => .done [s.print (.table (Report.records page none)), s.printDim page.footer]

/-- Lists tags by frequency. -/
def tags (s : Session) (o : TagOptions) : Run :=
  s.withLibrary .tags fun set =>
    let found := (Facets.ofRecords set.records).searchTags o.text
    let shown := found.take o.limit.toNat
    let title := if Text.isBlankText o.text then "Tags" else "Tags matching '" ++ o.text ++ "'"
    let hidden := found.length - shown.length
    let table := Report.counts (Report.tallied shown) title "Tag" true
    .done (s.print (.table table) ::
      if 0 < hidden then [s.printDim (toString hidden ++ " more tags not shown")] else [])

/-- Lists the formats by name. -/
def formats (s : Session) : Run :=
  s.withLibrary .formats fun set =>
    let counts := (Facets.ofRecords set.records).formatCounts
    if counts.isEmpty then
      .done [s.print (.markup "[yellow]No formats found[/yellow]")]
    else
      .done [s.print (.table (Report.counts (Report.tallied counts) "Formats" "Format" false))]

/-- Shows the statistics of the library. -/
def statistics (s : Session) (output : OutputForm) : Run :=
  s.withLibrary .stats fun set =>
    match Statistics.ofRecords set.records with
    | .error e => s.fail (.weight e)
    | .ok totals =>
      match output with
      | .json => .done [writeJson totals.toJson]
      | .table => .done [s.print (.group (Report.statistics totals))]

/-- Carries out a command. -/
def execute (s : Session) : Command → Run
  | .search o => s.search o
  | .tags o => s.tags o
  | .formats => s.formats
  | .stats output => s.statistics output

end Session

/-- The run that tells the version. -/
def versionRun : Run :=
  .done [.write (programName ++ " version " ++ programVersion ++ "\n")]

/-- Runs a command by name.  The configuration is read before the words of the command are. -/
def runNamed (s : Surroundings) (g : Globals) (name : CommandName) (words : List String) : Run :=
  match Session.start s g with
  | .error e => .early g.verbosity.debug e
  | .ok session =>
    match Command.read name words with
    | .error fault => .usage (some name) fault
    | .ok command => session.execute command

/-- Reports a command that does not exist.  If its name looks like a switch, it is first read as
one. -/
def runUnknown (s : Surroundings) (name : String) (words : List String) : Run :=
  if name.toList.head? = some '-' then
    match Opening.read s.files (name :: words) with
    | .error (.usage fault) => .usage none fault
    | .error .zeroInPath => .early false .zeroInPath
    | .ok .version => versionRun
    | .ok (.globals _ _) => .usage none (.unknownCommand name)
  else
    .usage none (.unknownCommand name)

/-- Runs the program. -/
def run (s : Surroundings) (words : List String) : Run :=
  match Opening.read s.files words with
  | .error (.usage fault) => .usage none fault
  | .error .zeroInPath => ⟨[], .raise .zeroInPath⟩
  | .ok .version => versionRun
  | .ok (.globals _ []) => .usage none .missingCommand
  | .ok (.globals g (name :: words)) =>
    match CommandName.names.lookup name with
    | some command => runNamed s g command words
    | none => runUnknown s name words

end Catalogue.CommandLine
