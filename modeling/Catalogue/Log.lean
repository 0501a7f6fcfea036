/-!
# The log

What the program reports while it works.  How much of it is written depends on three switches: quiet
runs report warnings only and win over the other two; verbose and debugging runs report everything.
The lines of debugging runs say when and where an entry was made.
-/

namespace Catalogue

/-- How much an entry matters. -/
inductive LogLevel where
  | debug
  | info
  | warning
  deriving DecidableEq, Repr

/-- The name of a level. -/
def LogLevel.name : LogLevel → String
  | .debug => "DEBUG"
  | .info => "INFO"
  | .warning => "WARNING"

/-- The order of the levels. -/
def LogLevel.rank : LogLevel → Nat
  | .debug => 0
  | .info => 1
  | .warning => 2

/-- The part of the program that an entry comes from. -/
inductive LogSource where
  | loader
  | facets
  deriving DecidableEq, Repr

/-- The name of a part. -/
def LogSource.name : LogSource → String
  | .loader => "librarian.core.loader"
  | .facets => "librarian.search.facets"

/-- An entry of the log. -/
structure LogEntry where
  level : LogLevel
  source : LogSource
  message : String
  deriving DecidableEq, Repr

namespace LogEntry

/-- The books of a document have been read. -/
def decoded (count : Nat) : LogEntry :=
  ⟨.debug, .loader, "Decoded " ++ toString count ++ " book records"⟩

/-- A library has been loaded. -/
def loaded (count : Nat) (path : String) : LogEntry :=
  ⟨.info, .loader, "Loaded " ++ toString count ++ " records from " ++ path⟩

/-- The filters have been applied; the numbers are those of the records that each of them left. -/
def filtered (total query format tags : Nat) : LogEntry :=
  ⟨.debug, .facets, "Filtered " ++ toString total ++ " records: query=" ++ toString query ++
    " format=" ++ toString format ++ " tags=" ++ toString tags⟩

end LogEntry

/-- The switches that govern the log. -/
structure Verbosity where
  verbose : Bool := false
  quiet : Bool := false
  debug : Bool := false
  deriving DecidableEq, Repr

namespace Verbosity

/-- The least level that is written. -/
def threshold (v : Verbosity) : LogLevel :=
  if v.quiet then .warning else if v.verbose || v.debug then .debug else .info

/-- Whether an entry is written. -/
def shows (v : Verbosity) (e : LogEntry) : Bool :=
  v.threshold.rank ≤ e.level.rank

/-- The line of an entry made at a time. -/
def line (v : Verbosity) (time : String) (e : LogEntry) : String :=
  if v.debug then
    time ++ " - " ++ e.source.name ++ " - " ++ e.level.name ++ " - " ++ e.message ++ "\n"
  else
    e.level.name ++ ": " ++ e.message ++ "\n"

end Verbosity

end Catalogue
