import Catalogue.Query.Token
import Catalogue.Text.Blank
import Catalogue.Text.Case

/-!
# Scanning queries

A query is cut into pieces between blanks.  A piece has an optional dash, an optional field name
with a colon, and then a phrase in quotes or a word that runs to the next blank.  Dash and field
name count only when something follows them; otherwise they are part of a word.  A quote opens a
phrase only when another quote closes it after at least one character.  Every piece is as long as it
can be and takes at least one character, so scanning ends, and nothing but blanks lies between
pieces.
-/

namespace Catalogue

/-- What a piece looks for. -/
inductive Body where
  | phrase (cs : List Char)
  | word (cs : List Char)
  deriving DecidableEq, Repr

/-- One piece of a query as it is written. -/
structure Piece where
  dash : Bool
  /-- The field name in front of the colon. -/
  field : Option (List Char)
  body : Body
  deriving DecidableEq, Repr

namespace Query

/-- Whether a character counts as a letter of a field name.  Case does not matter, and the letters
that are case variants of `i` or `s` in other alphabets count too. -/
def isVariantOf (letter c : Char) : Bool :=
  c.toLower = letter || (letter = 'i' && (c = 'İ' || c = 'ı')) || (letter = 's' && c = 'ſ')

/-- Splits the letters of a name and a colon from the front of a text. -/
def splitName? : (name : List Char) → List Char → Option (List Char × List Char)
  | [], c :: rest => if c = ':' then some ([], rest) else none
  | letter :: name, c :: rest =>
    if isVariantOf letter c then
      (splitName? name rest).map fun (written, rest) => (c :: written, rest)
    else
      none
  | _, [] => none

/-- Splits a field name and a colon from the front of a text. -/
def splitField? (cs : List Char) : Option (List Char × List Char) :=
  SearchField.names.findSome? fun (name, _) => splitName? name.toList cs

/-- A phrase at the front of a text, and what follows its closing quote. -/
def splitPhrase? : List Char → Option (List Char × List Char)
  | c :: rest =>
    if c = '"' then
      match rest.takeWhile (· ≠ '"'), rest.dropWhile (· ≠ '"') with
      | inner@(_ :: _), _ :: after => some (inner, after)
      | _, _ => none
    else
      none
  | [] => none

/-- A word at the front of a text, and what follows it. -/
def splitWord? (cs : List Char) : Option (List Char × List Char) :=
  match cs.takeWhile (!Text.isBlank ·) with
  | [] => none
  | word => some (word, cs.dropWhile (!Text.isBlank ·))

/-- A phrase or else a word at the front of a text. -/
def splitBody? (cs : List Char) : Option (Body × List Char) :=
  match splitPhrase? cs with
  | some (inner, rest) => some (.phrase inner, rest)
  | none => (splitWord? cs).map fun (word, rest) => (.word word, rest)

/-- A field name with what it is about, or something without a field. -/
def splitScoped? (dash : Bool) (cs : List Char) : Option (Piece × List Char) :=
  let limited := do
    let (field, rest) ← splitField? cs
    let (body, rest) ← splitBody? rest
    return (⟨dash, some field, body⟩, rest)
  match limited with
  | some found => some found
  | none => (splitBody? cs).map fun (body, rest) => (⟨dash, none, body⟩, rest)

/-- The piece at the front of a text, and what follows it. -/
def splitPiece? (cs : List Char) : Option (Piece × List Char) :=
  match cs with
  | [] => none
  | c :: rest =>
    match if c = '-' then splitScoped? true rest else none with
    | some found => some found
    | none => splitScoped? false cs

/-- A field name and its colon take at least the colon. -/
theorem length_splitName? {name cs written rest : List Char}
    (h : splitName? name cs = some (written, rest)) : rest.length < cs.length := by
  induction name generalizing cs written with
  | nil =>
    cases cs with
    | nil => simp [splitName?] at h
    | cons c cs =>
      rw [splitName?] at h
      split at h
      · simp_all
      · simp at h
  | cons letter name ih =>
    cases cs with
    | nil => simp [splitName?] at h
    | cons c cs =>
      rw [splitName?] at h
      split at h
      · obtain ⟨⟨written', rest'⟩, found, same⟩ := Option.map_eq_some_iff.1 h
        simp only [Prod.mk.injEq] at same
        have := ih (same.2 ▸ found)
        simp only [List.length_cons]
        omega
      · simp at h

/-- A field prefix takes at least one character. -/
theorem length_splitField? {cs written rest : List Char}
    (h : splitField? cs = some (written, rest)) : rest.length < cs.length := by
  obtain ⟨_, _, found⟩ := List.exists_of_findSome?_eq_some h
  exact length_splitName? found

/-- A phrase takes at least its opening quote. -/
theorem length_splitPhrase? {cs inner rest : List Char}
    (h : splitPhrase? cs = some (inner, rest)) : rest.length < cs.length := by
  cases cs with
  | nil => simp [splitPhrase?] at h
  | cons c cs =>
    rw [splitPhrase?] at h
    split at h
    · split at h
      · next dropped =>
        have shorter := (List.dropWhile_suffix (l := cs) (· ≠ '"')).length_le
        simp only [dropped] at shorter
        simp_all
        omega
      · simp at h
    · simp at h

/-- A word takes at least one character. -/
theorem length_splitWord? {cs word rest : List Char}
    (h : splitWord? cs = some (word, rest)) : rest.length < cs.length := by
  rw [splitWord?] at h
  split at h
  · simp at h
  · next taken =>
    have whole := congrArg List.length
      (List.takeWhile_append_dropWhile (p := (!Text.isBlank ·)) (l := cs))
    have := List.length_pos_iff.2 taken
    simp only [Option.some.injEq, Prod.mk.injEq] at h
    rw [List.length_append, h.2] at whole
    omega

/-- A phrase or word takes at least one character. -/
theorem length_splitBody? {cs : List Char} {body : Body} {rest : List Char}
    (h : splitBody? cs = some (body, rest)) : rest.length < cs.length := by
  rw [splitBody?] at h
  split at h
  · next found =>
    simp only [Option.some.injEq, Prod.mk.injEq] at h
    exact h.2 ▸ length_splitPhrase? found
  · obtain ⟨⟨word, rest'⟩, found, same⟩ := Option.map_eq_some_iff.1 h
    simp only [Prod.mk.injEq] at same
    exact same.2 ▸ length_splitWord? found

/-- A phrase or word with its field prefix takes at least one character. -/
theorem length_splitScoped? {dash : Bool} {cs : List Char} {piece : Piece} {rest : List Char}
    (h : splitScoped? dash cs = some (piece, rest)) : rest.length < cs.length := by
  simp only [splitScoped?] at h
  split at h
  · next found limited =>
    simp only [Option.some.injEq] at h
    subst h
    simp only [Option.bind_eq_bind, Option.bind_eq_some_iff] at limited
    obtain ⟨⟨field, middle⟩, fieldFound, ⟨body, rest'⟩, bodyFound, same⟩ := limited
    have first := length_splitField? fieldFound
    have second := length_splitBody? bodyFound
    simp only [Option.pure_def, Option.some.injEq, Prod.mk.injEq] at same second
    rw [← same.2]
    omega
  · obtain ⟨⟨body, rest'⟩, found, same⟩ := Option.map_eq_some_iff.1 h
    simp only [Prod.mk.injEq] at same
    exact same.2 ▸ length_splitBody? found

/-- Every piece takes at least one character, so scanning comes to an end. -/
theorem length_splitPiece? {cs : List Char} {piece : Piece} {rest : List Char}
    (h : splitPiece? cs = some (piece, rest)) : rest.length < cs.length := by
  cases cs with
  | nil => simp [splitPiece?] at h
  | cons c cs =>
    rw [splitPiece?] at h
    split at h
    · next dashed =>
      split at dashed
      · simp only [Option.some.injEq] at h
        subst h
        have := length_splitScoped? dashed
        simp only [List.length_cons]
        omega
      · simp at dashed
    · exact length_splitScoped? h

/-- The pieces of a text in order. -/
def pieces (cs : List Char) : List Piece :=
  match _start : cs.dropWhile Text.isBlank with
  | [] => []
  | c :: more =>
    match _piece : splitPiece? (c :: more) with
    | none => []
    | some (piece, rest) => piece :: pieces rest
termination_by cs.length
decreasing_by
  have blanks := (List.dropWhile_suffix (l := cs) Text.isBlank).length_le
  have := length_splitPiece? _piece
  rw [_start] at blanks
  omega

/-- The token that a piece stands for.  A word without a field that is the name of an operator,
whatever its case, is that operator, and a dash before it is dropped. -/
def tokenOf (piece : Piece) : Except UnknownChoice Token :=
  match piece.field, piece.body with
  | none, .phrase cs => .ok ⟨.phrase, String.ofList cs, none, piece.dash⟩
  | none, .word cs =>
    let name := String.ofList (Text.upperChars cs)
    if (BooleanOperator.names.lookup name).isSome then
      .ok ⟨.operator, name, none, false⟩
    else
      .ok ⟨.term, String.ofList cs, none, piece.dash⟩
  | some written, body =>
    (SearchField.ofName (String.ofList (Text.lowerChars written))).map fun field =>
      match body with
      | .phrase cs => ⟨.phrase, String.ofList cs, some field, piece.dash⟩
      | .word cs => ⟨.term, String.ofList cs, some field, piece.dash⟩

/-- The tokens of pieces, or the first field name that is none. -/
def tokensOf : List Piece → Except UnknownChoice (List Token)
  | [] => .ok []
  | piece :: rest =>
    match tokenOf piece with
    | .error e => .error e
    | .ok token => (tokensOf rest).map (token :: ·)

/-- The tokens of a query. -/
def parse (query : String) : Except UnknownChoice (List Token) :=
  tokensOf (pieces query.toList)

end Query

end Catalogue
