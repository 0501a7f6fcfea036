import Catalogue.FileTree

/-!
# The environment

The variables that a program is started with.  An empty variable that asks for something counts as
not set.
-/

namespace Catalogue

/-- Variables with their values. -/
abbrev Environment := List (String × String)

namespace Environment

/-- The value of a variable, empty or not. -/
def get? (env : Environment) (name : String) : Option String :=
  env.lookup name

/-- The value of a variable that is not empty. -/
def given? (env : Environment) (name : String) : Option String :=
  (env.get? name).filter (· ≠ "")

/-- A text without the slashes at its end. -/
def withoutLastSlashes (s : String) : String :=
  String.ofList (s.toList.reverse.dropWhile (· = '/')).reverse

/-- The directory of the user: the root of the file system if none is given.  It is not known if it
is given by a tilde. -/
def home? (env : Environment) : Option FilePath :=
  let text := withoutLastSlashes ((env.get? "HOME").getD "")
  if text = "" then some (.ofText "/")
  else if text.toList.head? = some '~' then none
  else some (.ofText text)

end Environment

/-- Why a path with a tilde at its start leads nowhere. -/
inductive HomeError where
  /-- The directory of the user is not known. -/
  | unknown
  | zeroInPath
  deriving DecidableEq, Repr

/-- What went wrong, in words. -/
def HomeError.message : HomeError → String
  | .unknown => "Could not determine home directory."
  | .zeroInPath => zeroMessage

/-- The users whose directories are the same everywhere. -/
def userHomes : List (String × FilePath) :=
  [("root", .ofText "/root")]

/-- The directory of the user, or of another user whose name follows the tilde. -/
def homeOf (env : Environment) (user : List Char) : Except HomeError FilePath :=
  if user.contains (Char.ofNat 0) then
    .error .zeroInPath
  else
    match if user.isEmpty then env.home? else userHomes.lookup (String.ofList user) with
    | some home => .ok home
    | none => .error .unknown

/-- A path with a tilde at its start replaced by the directory of the user. -/
def FilePath.expanded (path : FilePath) (env : Environment) : Except HomeError FilePath :=
  match path.start, path.names with
  | .workingDirectory, name :: names =>
    match name.toList with
    | '~' :: user => (homeOf env user).map fun home => home.append (.relative names)
    | _ => .ok path
  | _, _ => .ok path

end Catalogue
