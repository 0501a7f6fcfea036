import Catalogue.CommandLine.Switch
import Catalogue.Criteria
import Catalogue.FileTree
import Catalogue.Log
import Catalogue.Text.Digit

/-!
# Commands

What a command line asks for.  The switches of the program stand before the name of the command, its
own switches and words after it.  Of a switch that is given more than once the last value counts,
except that every selected tag counts.  Values are checked in the order in which their switches
first appear, and words that are too many are refused after that.
-/

namespace Catalogue.CommandLine

/-- The last of the values of a switch. -/
def lastValue (values : List String) : String :=
  values.getLast?.getD ""

/-- A value that has to be an integer above zero. -/
def positive (s : Switch) (text : String) : Except UsageFault Int :=
  match Text.readInt text with
  | .error _ => .error (.badValue s.names (.notInteger text))
  | .ok n => if n < 1 then .error (.badValue s.names (.belowOne n)) else .ok n

/-- A value that has to be one of several names. -/
def among {α : Type} (s : Switch) (alternatives : List (String × α)) (text : String) :
    Except UsageFault α :=
  match alternatives.lookup text with
  | some a => .ok a
  | none => .error (.badValue s.names (.notAmong text (alternatives.map (·.1))))

/-- Shows more of the log. -/
def verboseSwitch : Switch := { long := "verbose", short := some 'v', takesValue := false }

/-- Shows warnings only. -/
def quietSwitch : Switch := { long := "quiet", short := some 'q', takesValue := false }

/-- Prints without colours. -/
def noColorSwitch : Switch := { long := "no-color", takesValue := false }

/-- Lets errors through, and adds time and source to the log. -/
def debugSwitch : Switch := { long := "debug", takesValue := false }

/-- Names a configuration file. -/
def configSwitch : Switch := { long := "config", short := some 'c' }

/-- Names the library. -/
def librarySwitch : Switch := { long := "library", short := some 'l' }

/-- Asks for the version. -/
def versionSwitch : Switch := { long := "version", takesValue := false }

/-- Why the words before the command cannot be read. -/
inductive OpeningError where
  | usage (fault : UsageFault)
  /-- A path contains the character zero. -/
  | zeroInPath
  deriving DecidableEq, Repr

/-- What holds for all commands. -/
structure Globals where
  verbosity : Verbosity := {}
  noColor : Bool := false
  /-- A configuration file to be read on top of all others. -/
  config : Option FilePath := none
  library : Option FilePath := none
  deriving DecidableEq, Repr

namespace Globals

/-- All switches of the program. -/
def switches : List Switch :=
  [verboseSwitch, quietSwitch, noColorSwitch, debugSwitch, configSwitch, librarySwitch,
    versionSwitch]

/-- The path that a switch of the program names.  It is looked up at once. -/
def pathOf (text : String) : Except OpeningError FilePath :=
  let path := FilePath.ofText text
  if path.hasZero then .error .zeroInPath else .ok path

/-- Applies a switch with its values. -/
def apply (files : FileSystem) (g : Globals) (entry : Switch × List String) :
    Except OpeningError Globals := do
  let (s, values) := entry
  let value := lastValue values
  if s = verboseSwitch then return { g with verbosity := { g.verbosity with verbose := true } }
  else if s = quietSwitch then return { g with verbosity := { g.verbosity with quiet := true } }
  else if s = debugSwitch then return { g with verbosity := { g.verbosity with debug := true } }
  else if s = noColorSwitch then return { g with noColor := true }
  else if s = librarySwitch then return { g with library := some (← pathOf value) }
  else if s = configSwitch then
    let path ← pathOf value
    if files.namesEntry value then return { g with config := some path }
    else throw (.usage (.badValue s.names (.noSuchPath value)))
  else return g

end Globals

/-- What the words before the command ask for. -/
inductive Opening where
  /-- The version is asked for, whatever else is. -/
  | version
  | globals (g : Globals) (words : List String)
  deriving DecidableEq, Repr

/-- Reads the switches of the program. -/
def Opening.read (files : FileSystem) (words : List String) : Except OpeningError Opening := do
  let found ← (readWords Globals.switches false words).mapError .usage
  let gathered := gather found.given
  if gathered.any fun entry => entry.1 = versionSwitch then
    return .version
  else
    return .globals (← gathered.foldlM (Globals.apply files) {}) found.others

/-- How results are written. -/
inductive OutputForm where
  | table
  | json
  deriving DecidableEq, Repr

/-- The forms of output by name. -/
def OutputForm.names : List (String × OutputForm) :=
  [("table", .table), ("json", .json)]

/-- Keeps the books of one format. -/
def formatSwitch : Switch := { long := "format", short := some 'f' }

/-- Selects a tag; can be given again for more. -/
def tagSwitch : Switch := { long := "tag", short := some 't' }

/-- Lets one of the selected tags be enough. -/
def anyTagSwitch : Switch := { long := "any-tag", takesValue := false }

/-- Chooses the sort order. -/
def sortSwitch : Switch := { long := "sort", short := some 's' }

/-- Chooses the page, counted from one. -/
def pageSwitch : Switch := { long := "page", short := some 'p' }

/-- Sets the number of books on a page. -/
def pageSizeSwitch : Switch := { long := "page-size" }

/-- Chooses the form of the output. -/
def outputSwitch : Switch := { long := "output", short := some 'o' }

/-- Sets the greatest number of tags that are listed. -/
def limitSwitch : Switch := { long := "limit", short := some 'n' }

/-- What a search asks for.  What is left open here is taken from the configuration. -/
structure SearchOptions where
  query : String := ""
  format : String := allFormats
  tags : List String := []
  anyTag : Bool := false
  sort : Option SortOrder := none
  page : Int := 1
  pageSize : Option Int := none
  output : OutputForm := .table
  deriving DecidableEq, Repr

/-- Applies a switch with its values. -/
def SearchOptions.apply (o : SearchOptions) (entry : Switch × List String) :
    Except UsageFault SearchOptions :=
  let (s, values) := entry
  let value := lastValue values
  if s = formatSwitch then .ok { o with format := value }
  else if s = tagSwitch then .ok { o with tags := values }
  else if s = anyTagSwitch then .ok { o with anyTag := true }
  else if s = sortSwitch then (among s SortOrder.names value).map fun a => { o with sort := some a }
  else if s = pageSwitch then (positive s value).map fun n => { o with page := n }
  else if s = pageSizeSwitch then (positive s value).map fun n => { o with pageSize := some n }
  else if s = outputSwitch then (among s OutputForm.names value).map fun a => { o with output := a }
  else .ok o

/-- What a list of tags asks for. -/
structure TagOptions where
  text : String := ""
  limit : Int := 50
  deriving DecidableEq, Repr

/-- Applies a switch with its values. -/
def TagOptions.apply (o : TagOptions) (entry : Switch × List String) :
    Except UsageFault TagOptions :=
  let (s, values) := entry
  if s = limitSwitch then (positive s (lastValue values)).map fun n => { o with limit := n }
  else .ok o

/-- What a command line asks for. -/
inductive Command where
  | search (o : SearchOptions)
  | tags (o : TagOptions)
  | formats
  | stats (output : OutputForm)
  deriving DecidableEq, Repr

namespace Command

/-- The switches of a command. -/
def switches : CommandName → List Switch
  | .search =>
    [formatSwitch, tagSwitch, anyTagSwitch, sortSwitch, pageSwitch, pageSizeSwitch, outputSwitch]
  | .tags => [limitSwitch]
  | .formats => []
  | .stats => [outputSwitch]

/-- The number of words that a command takes. -/
def wordCount : CommandName → Nat
  | .search => 1
  | .tags => 1
  | .formats => 0
  | .stats => 0

/-- The command with some switches and the first of the other words. -/
def ofSwitches (name : CommandName) (gathered : Gathered) (word : String) :
    Except UsageFault Command :=
  match name with
  | .search => (gathered.foldlM SearchOptions.apply { query := word }).map .search
  | .tags => (gathered.foldlM TagOptions.apply { text := word }).map .tags
  | .formats => .ok .formats
  | .stats =>
    (gathered.foldlM (fun form entry =>
      if entry.1 = outputSwitch then among entry.1 OutputForm.names (lastValue entry.2)
      else .ok form) OutputForm.table).map .stats

/-- Reads what follows the name of a command. -/
def read (name : CommandName) (words : List String) : Except UsageFault Command := do
  let found ← readWords (switches name) true words
  let command ← ofSwitches name (gather found.given) (found.others.head?.getD "")
  match found.others.drop (wordCount name) with
  | [] => return command
  | extra => throw (.extraWords extra)

end Command

end Catalogue.CommandLine
