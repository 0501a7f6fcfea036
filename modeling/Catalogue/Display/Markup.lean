/-!
# Markup

The console reads names of styles in square brackets as markup.  A text that may hold such brackets
by chance is escaped before it is printed: every bracket that would be read as markup gets a
backslash, and the backslashes before it are doubled so that they stand for themselves.
-/

namespace Catalogue.Markup

/-- Whether the characters after an opening bracket make it markup: a letter or one of three marks,
and later a closing bracket without another opening one before it. -/
def opensTag : List Char → Bool
  | [] => false
  | c :: rest =>
    (('a' ≤ c && c ≤ 'z') || c = '#' || c = '/' || c = '@') &&
      (rest.find? fun d => d = '[' || d = ']') = some ']'

/-- Escapes markup after a number of backslashes. -/
def escapeAfter (backslashes : Nat) : List Char → List Char
  | [] => []
  | c :: rest =>
    if c = '[' && opensTag rest then
      List.replicate (backslashes + 1) '\\' ++ c :: escapeAfter 0 rest
    else
      c :: escapeAfter (if c = '\\' then backslashes + 1 else 0) rest

/-- A text that ends in exactly one backslash would escape what follows it; it gets another one. -/
def closeEscape (cs : List Char) : List Char :=
  match cs.reverse with
  | '\\' :: '\\' :: _ => cs
  | '\\' :: _ => cs ++ ['\\']
  | _ => cs

/-- A text in which nothing is markup. -/
def escape (s : String) : String :=
  String.ofList (closeEscape (escapeAfter 0 s.toList))

end Catalogue.Markup
