import Catalogue.Environment
import Catalogue.Setting.Integer
import Catalogue.Yaml.Document

/-!
# Configuration

The configuration is laid together from up to six layers: the defaults, the file of the user, two
files of the working directory, the environment, and a file named on the command line.  A layer
counts more than those before it; mappings are laid over each other key by key.  Files that do not
exist are left out, but a file that exists has to be a mapping, and one that is named has to exist.
What is said about a file that is no YAML, and how deeply one may nest, is up to the decoder.
-/

namespace Catalogue

/-- Why there is no configuration. -/
inductive ConfigError where
  /-- A file is no YAML document. -/
  | malformed (complaint : String)
  /-- A file is a document without a value. -/
  | faulty (fault : Yaml.Fault)
  | unreadable (fault : FileFault)
  | zeroInPath
  | notMapping (path : FilePath)
  /-- The page size of the environment is no integer. -/
  | pageSize (text : String)
  /-- The directory of the user is not known. -/
  | homeless
  /-- It cannot be told whether there is a file. -/
  | uncertain (fault : FileFault)
  deriving DecidableEq, Repr

/-- What went wrong, in words. -/
def ConfigError.message : ConfigError → String
  | .malformed complaint => "Invalid YAML in config file: " ++ complaint
  | .faulty fault => fault.message
  | .unreadable fault => "Error reading config file: " ++ fault.message
  | .zeroInPath => zeroMessage
  | .notMapping path => "Config file must contain a mapping: " ++ path.text
  | .pageSize text => "LIBRARIAN_PAGE_SIZE must be an integer: " ++ text
  | .homeless => HomeError.unknown.message
  | .uncertain fault => fault.message

namespace Config

/-- The key of the path of the library. -/
def libraryKey : Scalar := .text "library"

/-- The key of the number of records on a page. -/
def pageSizeKey : Scalar := .text "page_size"

/-- The key of the sort order. -/
def sortKey : Scalar := .text "sort"

/-- The key of the way in which tags combine. -/
def tagLogicKey : Scalar := .text "tag_logic"

/-- The key of the setting that switches colours off. -/
def noColorKey : Scalar := .text "no_color"

/-- The lowest layer. -/
def defaults : Settings := [
  (libraryKey, .null),
  (pageSizeKey, .scalar (.int 24)),
  (sortKey, .text "date_newest"),
  (tagLogicKey, .text "AND"),
  (noColorKey, .scalar (.bool false))]

/-- Where files are looked for, the file of the user first.  The directory of the user has to be
known even where the environment names another one. -/
def paths (env : Environment) : Except ConfigError (List FilePath) :=
  match env.home? with
  | none => .error .homeless
  | some home =>
    let base := ((env.get? "XDG_CONFIG_HOME").map FilePath.ofText).getD
      (home.append (.relative [".config"]))
    .ok [base.append (.relative ["librarian", "config.yaml"]), .relative [".librarian.yaml"],
      .relative ["librarian.yaml"]]

/-- The settings of a document.  One that is empty, false or zero sets nothing. -/
def ofDocument (decoder : Yaml.Decoder) (path : FilePath) (bytes : List UInt8) :
    Except ConfigError Settings :=
  match Yaml.read decoder.maxDepth bytes with
  | .error .malformed => .error (.malformed (decoder.complaint path.text bytes))
  | .error fault => .error (.faulty fault)
  | .ok (.mapping entries) => .ok entries
  | .ok v => if v.isGiven then .error (.notMapping path) else .ok []

/-- What a file that cannot be read means for the configuration. -/
def readError : ReadError → ConfigError
  | .fault fault => .unreadable fault
  | .zeroInPath => .zeroInPath

/-- The settings of a file. -/
def ofFile (decoder : Yaml.Decoder) (files : FileSystem) (path : FilePath) :
    Except ConfigError Settings := do
  ofDocument decoder path (← (files.read path).mapError readError)

/-- The settings of a file that need not exist. -/
def readIfPresent (decoder : Yaml.Decoder) (files : FileSystem) (path : FilePath) :
    Except ConfigError Settings := do
  if ← (files.contains path).mapError .uncertain then ofFile decoder files path else return []

/-- The settings of the environment. -/
def ofEnvironment (env : Environment) : Except ConfigError Settings :=
  let library :=
    match env.given? "LIBRARIAN_LIBRARY" with
    | some path => [(libraryKey, Setting.text path)]
    | none => []
  match env.given? "LIBRARIAN_PAGE_SIZE" with
  | none => .ok library
  | some text =>
    match Text.readInt text with
    | .ok n => .ok (library ++ [(pageSizeKey, .scalar (.int n))])
    | .error _ => .error (.pageSize text)

/-- The configuration of the given layers, lowest first, above the defaults. -/
def ofLayers (layers : List Settings) : Settings :=
  Settings.merge (defaults :: layers)

/-- The layers above the defaults, lowest first. -/
def layers (decoder : Yaml.Decoder) (files : FileSystem) (env : Environment)
    (extra : Option FilePath) : Except ConfigError (List Settings) := do
  let found ← (← paths env).mapM (readIfPresent decoder files)
  let overrides ← ofEnvironment env
  match extra with
  | none => return found ++ [overrides]
  | some path => return found ++ [overrides, ← ofFile decoder files path]

/-- Lays the configuration together. -/
def load (decoder : Yaml.Decoder) (files : FileSystem) (env : Environment)
    (extra : Option FilePath) : Except ConfigError Settings :=
  (layers decoder files env extra).map ofLayers

/-- The value of a key, or a default value. -/
def value (config : Settings) (key : Scalar) (default : Setting) : Setting :=
  (config.get? key).getD default

end Config

end Catalogue
