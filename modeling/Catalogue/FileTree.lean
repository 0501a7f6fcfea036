import Catalogue.Text.Quoted
import Catalogue.Text.Split

/-!
# Paths and files

Files and directories form a tree.  A path is a list of names, from the root of the tree or from the
working directory; it names a file or directory by walking from there, and two dots lead back to the
enclosing directory.  Names of more than 255 bytes and paths of 4096 and more name nothing.
-/

namespace Catalogue

/-- Where a path starts. -/
inductive PathStart where
  | workingDirectory
  | root
  /-- The root of the file system, written with two slashes. -/
  | doubleRoot
  deriving DecidableEq, Repr

/-- A path: where it starts, and its names.  Empty names and single dots say nothing and are left
out. -/
structure FilePath where
  start : PathStart
  names : List String
  deriving DecidableEq, Repr

/-- The start of a path with a number of slashes in front.  More than two are as good as one. -/
def PathStart.ofSlashes : Nat → PathStart
  | 0 => .workingDirectory
  | 2 => .doubleRoot
  | _ => .root

/-- The slashes in front of a path. -/
def PathStart.text : PathStart → String
  | .workingDirectory => ""
  | .root => "/"
  | .doubleRoot => "//"

namespace FilePath

/-- A path from the working directory. -/
def relative (names : List String) : FilePath := ⟨.workingDirectory, names⟩

/-- The names between the slashes of a text, empty ones included. -/
def segments (s : String) : List String :=
  Text.split '/' s

/-- The path that a text writes. -/
def ofText (s : String) : FilePath where
  start := .ofSlashes (s.toList.takeWhile (· = '/')).length
  names := (segments s).filter fun name => name ≠ "" ∧ name ≠ "."

/-- Whether a path starts at the root of the file system. -/
def fromRoot (p : FilePath) : Bool :=
  p.start ≠ .workingDirectory

/-- A path in its shortest spelling; the working directory is a dot. -/
def text (p : FilePath) : String :=
  if p = relative [] then "." else p.start.text ++ Text.join "/" p.names

/-- A path that continues another; one that starts at the root replaces it. -/
def append (p q : FilePath) : FilePath :=
  if q.fromRoot then q else ⟨p.start, p.names ++ q.names⟩

/-- Whether the character zero, which ends every path, is in a path. -/
def hasZero (p : FilePath) : Bool :=
  p.names.any fun name => name.toList.contains (Char.ofNat 0)

end FilePath

/-- Why a file cannot be read. -/
inductive FileErrorKind where
  | missing
  | notDirectory
  | isDirectory
  | nameTooLong
  deriving DecidableEq, Repr

/-- A file that cannot be read, and why. -/
structure FileFault where
  kind : FileErrorKind
  path : String
  deriving DecidableEq, Repr

/-- The number and name of the fault, and the path. -/
def FileFault.message (fault : FileFault) : String :=
  let cause :=
    match fault.kind with
    | .missing => "[Errno 2] No such file or directory"
    | .notDirectory => "[Errno 20] Not a directory"
    | .isDirectory => "[Errno 21] Is a directory"
    | .nameTooLong => "[Errno 36] File name too long"
  cause ++ ": " ++ Text.quote fault.path

/-- Why nothing can be read at a path. -/
inductive ReadError where
  | fault (fault : FileFault)
  | zeroInPath
  deriving DecidableEq, Repr

/-- What is said about a path that contains the character zero. -/
def zeroMessage : String := "embedded null byte"

/-- A file or a directory with its entries. -/
inductive FileTree where
  | file (bytes : List UInt8)
  | directory (entries : List (String × FileTree))
  deriving Inhabited

namespace FileTree

/-- A directory without entries. -/
def empty : FileTree := .directory []

/-- Puts a file or directory at a path below a directory and makes the directories on the way.  An
empty directory leaves one that is there already as it is. -/
def insert (tree : FileTree) (node : FileTree) : List String → FileTree
  | [] =>
    match tree, node with
    | .directory entries, .directory [] => .directory entries
    | _, _ => node
  | name :: rest =>
    match tree with
    | .directory entries =>
      let inner := ((entries.lookup name).getD empty).insert node rest
      .directory ((name, inner) :: entries.filter (·.1 ≠ name))
    | .file bytes => .file bytes

/-- The greatest number of bytes in a name. -/
def maxNameSize : Nat := 255

/-- Walks from a place along names, `around` being the directories that enclose it, innermost
first.  Above the root there is only the root. -/
def walk (place : FileTree) (around : List FileTree) : List String → Except FileErrorKind FileTree
  | [] => .ok place
  | name :: rest =>
    match place with
    | .file _ => .error .notDirectory
    | .directory entries =>
      if name = "" ∨ name = "." then
        walk place around rest
      else if name = ".." then
        match around with
        | [] => walk place [] rest
        | outer :: around => walk outer around rest
      else if maxNameSize < name.utf8ByteSize then
        .error .nameTooLong
      else
        match entries.lookup name with
        | some inner => walk inner (place :: around) rest
        | none => .error .missing

end FileTree

/-- All files, and the names on the way from the root to the working directory. -/
structure FileSystem where
  root : FileTree := .empty
  workingDirectory : List String := []

namespace FileSystem

/-- Where a walk along a path begins. -/
def base (files : FileSystem) (path : FilePath) : List String :=
  if path.fromRoot then [] else files.workingDirectory

/-- The number of bytes from which on a path is too long. -/
def pathSizeLimit : Nat := 4096

/-- The file or directory at a path. -/
def find (files : FileSystem) (path : FilePath) : Except FileErrorKind FileTree :=
  if pathSizeLimit ≤ path.text.utf8ByteSize then .error .nameTooLong
  else files.root.walk [] (files.base path ++ path.names)

/-- The bytes of the file at a path. -/
def read (files : FileSystem) (path : FilePath) : Except ReadError (List UInt8) :=
  if path.hasZero then
    .error .zeroInPath
  else
    match files.find path with
    | .ok (.file bytes) => .ok bytes
    | .ok (.directory _) => .error (.fault ⟨.isDirectory, path.text⟩)
    | .error kind => .error (.fault ⟨kind, path.text⟩)

/-- Whether there is a file or directory at a path.  This cannot be told of a path that is too
long. -/
def contains (files : FileSystem) (path : FilePath) : Except FileFault Bool :=
  if path.hasZero then
    .ok false
  else
    match files.find path with
    | .ok _ => .ok true
    | .error .nameTooLong => .error ⟨.nameTooLong, path.text⟩
    | .error _ => .ok false

/-- Whether a text as it stands names a file or directory.  An empty text names none, and a slash
at the end asks for a directory. -/
def namesEntry (files : FileSystem) (text : String) : Bool :=
  let names := files.base (.ofText text) ++ FilePath.segments text
  text ≠ "" && text.utf8ByteSize < pathSizeLimit && (files.root.walk [] names).isOk

end FileSystem

end Catalogue
