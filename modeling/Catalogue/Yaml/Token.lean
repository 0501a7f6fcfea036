import Catalogue.Yaml.Fault
import Catalogue.Yaml.Tag

/-!
# Tokens of a YAML document

A document is a sequence of tokens: marks, texts, and the beginnings and ends of blocks, which are
seen from the columns of the lines.  If the characters of a document cannot all be read, the last
token is the fault.
-/

namespace Catalogue.Yaml

/-- A part of a document that counts as one. -/
inductive Token where
  | directive (d : Directive)
  | documentStart
  | documentEnd
  /-- The beginning of a list with its entries in lines of their own. -/
  | blockList
  /-- The beginning of a mapping with its entries in lines of their own. -/
  | blockMapping
  | blockEnd
  | listOpen
  | listClose
  | mappingOpen
  | mappingClose
  /-- The dash before an entry of a list. -/
  | entry
  /-- The comma between the entries of brackets. -/
  | separator
  /-- What follows is a key. -/
  | key
  /-- What follows is the value of a key. -/
  | value
  /-- A node that has been written before. -/
  | alias (name : String)
  | anchor (name : String)
  | tag (written : WrittenTag)
  /-- A text; one that is plain may stand for another value. -/
  | text (s : String) (isPlain : Bool)
  /-- The end of all characters. -/
  | finish
  /-- The characters that follow cannot be read. -/
  | broken (fault : Fault)
  deriving DecidableEq, Repr

end Catalogue.Yaml
