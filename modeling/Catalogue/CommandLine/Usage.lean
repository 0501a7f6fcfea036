import Catalogue.Text.Quoted
import Catalogue.Text.Split

/-!
# Usage

The commands of the program, how they are called, and what is wrong with a call that cannot be
carried out.
-/

namespace Catalogue.CommandLine

/-- What the program can do. -/
inductive CommandName where
  | search
  | tags
  | formats
  | stats
  deriving DecidableEq, Repr

/-- The commands by name. -/
def CommandName.names : List (String × CommandName) :=
  [("search", .search), ("tags", .tags), ("formats", .formats), ("stats", .stats)]

/-- The name of a command. -/
def CommandName.name : CommandName → String
  | .search => "search"
  | .tags => "tags"
  | .formats => "formats"
  | .stats => "stats"

/-- What may follow the name of a command. -/
def CommandName.parameters : CommandName → String
  | .search => "[OPTIONS] [QUERY]"
  | .tags => "[OPTIONS] [TEXT]"
  | .formats => "[OPTIONS]"
  | .stats => "[OPTIONS]"

/-- The name of the program. -/
def programName : String := "librarian"

/-- The version of the program. -/
def programVersion : String := "1.0.0"

/-- What is wrong with the value of a switch. -/
inductive ValueFault where
  /-- The path names no file or directory. -/
  | noSuchPath (path : String)
  | notInteger (text : String)
  | belowOne (n : Int)
  /-- The text is none of the alternatives. -/
  | notAmong (text : String) (alternatives : List String)
  deriving DecidableEq, Repr

/-- The fault in words. -/
def ValueFault.message : ValueFault → String
  | .noSuchPath path => "Path " ++ Text.quote path ++ " does not exist."
  | .notInteger text => Text.quote text ++ " is not a valid integer range."
  | .belowOne n => toString n ++ " is not in the range x>=1."
  | .notAmong text alternatives =>
    Text.quote text ++ " is not one of " ++ Text.join ", " (alternatives.map Text.quote) ++ "."

/-- What is wrong with a call. -/
inductive UsageFault where
  /-- A switch at the end lacks its value. -/
  | missingValue (name : String)
  /-- A switch without values was given one. -/
  | unwantedValue (name : String)
  | unknownSwitch (name : String)
  /-- A value does not suit the switch with these names. -/
  | badValue (names : List String) (fault : ValueFault)
  | extraWords (words : List String)
  | missingCommand
  | unknownCommand (name : String)
  | noLibrary
  deriving DecidableEq, Repr

namespace UsageFault

/-- The fault in words. -/
def message : UsageFault → String
  | .missingValue name => "Option " ++ Text.quote name ++ " requires an argument."
  | .unwantedValue name => "Option " ++ Text.quote name ++ " does not take a value."
  | .unknownSwitch name => "No such option " ++ Text.quote name ++ "."
  | .badValue names fault =>
    "Invalid value for " ++ Text.join " / " (names.map Text.quote) ++ ": " ++ fault.message
  | .extraWords [word] => "Got unexpected extra argument (" ++ word ++ ")"
  | .extraWords words => "Got unexpected extra arguments (" ++ Text.join " " words ++ ")"
  | .missingCommand => "Missing command."
  | .unknownCommand name => "No such command " ++ Text.quote name ++ "."
  | .noLibrary =>
    "No library given. Use --library, LIBRARIAN_LIBRARY or the 'library' config key."

/-- Whether the fault is reported together with the way to call the program. -/
def showsUsage : UsageFault → Bool
  | .missingValue _ => false
  | .unwantedValue _ => false
  | _ => true

/-- How to call the program, or one of its commands. -/
def usageText (command : Option CommandName) : String :=
  match command with
  | none =>
    "Usage: " ++ programName ++ " [OPTIONS] COMMAND [ARGS]...\n" ++
      "Try '" ++ programName ++ " --help' for help.\n\n"
  | some command =>
    "Usage: " ++ programName ++ " " ++ command.name ++ " " ++ command.parameters ++ "\n" ++
      "Try '" ++ programName ++ " " ++ command.name ++ " --help' for help.\n\n"

/-- The report of a fault in the call of a command, or of the program before any command. -/
def report (fault : UsageFault) (command : Option CommandName) : String :=
  (if fault.showsUsage then usageText command else "") ++ "Error: " ++ fault.message ++ "\n"

end UsageFault

end Catalogue.CommandLine
