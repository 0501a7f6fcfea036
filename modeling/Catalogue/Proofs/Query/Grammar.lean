import Catalogue.Query.Scan
import Mathlib.Data.List.Forall2

/-!
# The grammar of queries

A query text is cut into blank gaps and pieces.  A piece is read from left to right: a dash, a field
name with a colon, and then a quoted phrase or a word.  This file says what may be read at each of
these places as relations between a text and what is left of it, without saying how it is found.
Every reading is greedy: a dash or a field name in front of a value is never part of the value, a
quote that can open a phrase opens one, and a word runs to the next blank.

The relations take a predicate for the texts that count as a field name, since the scanner accepts
more of them than the names of the four fields.
-/

namespace Catalogue

/-- The text of a phrase with its quotes, or of a word. -/
def Body.written : Body → List Char
  | .phrase cs => '"' :: (cs ++ ['"'])
  | .word cs => cs

/-- Whether a token with this body is a phrase or a term. -/
def Body.kind : Body → TokenKind
  | .phrase _ => .phrase
  | .word _ => .term

/-- What a token with this body looks for. -/
def Body.value : Body → String
  | .phrase cs => String.ofList cs
  | .word cs => String.ofList cs

/-- The dash of an excluded piece. -/
def dashText (dash : Bool) : List Char :=
  if dash then ['-'] else []

/-- A field name with its colon. -/
def prefixText : Option (List Char) → List Char
  | none => []
  | some name => name ++ [':']

/-- The text of a piece. -/
def Piece.written (piece : Piece) : List Char :=
  dashText piece.dash ++ (prefixText piece.field ++ piece.body.written)

/-- The body of a token that is looked for. -/
def Token.body (t : Token) : Body :=
  if t.kind = .phrase then .phrase t.value.toList else .word t.value.toList

/-- The piece whose text is that of a token. -/
def Token.piece (t : Token) : Piece :=
  if t.isOperator then
    ⟨false, none, .word t.value.toList⟩
  else
    ⟨t.negated, t.field.map (·.name.toList), t.body⟩

/-- The text of a token is that of its piece. -/
theorem Token.toList_text (t : Token) : t.text.toList = t.piece.written := by
  obtain ⟨kind, value, field, negated⟩ := t
  cases kind <;> cases field <;> cases negated <;>
    simp [Token.text, Token.piece, Token.isOperator, Token.body, Piece.written, Body.written,
      dashText, prefixText, String.toList_append]

/-- A word or phrase that is searched for is no operator. -/
@[simp] theorem Body.isOperator_token (body : Body) (field : Option SearchField) (negated : Bool) :
    (⟨body.kind, body.value, field, negated⟩ : Token).isOperator = false := by
  cases body <;> rfl

/-- A token with a body has this body in its piece. -/
@[simp] theorem Body.piece_token (body : Body) (field : Option SearchField) (negated : Bool) :
    (⟨body.kind, body.value, field, negated⟩ : Token).piece =
      ⟨negated, field.map (·.name.toList), body⟩ := by
  cases body <;> simp [Token.piece, Token.isOperator, Token.body, Body.kind, Body.value]

namespace Query

/-- No value starts here: the text has ended or a blank is next. -/
def AtBreak : List Char → Prop
  | [] => True
  | c :: _ => Text.isBlank c = true

@[simp] theorem atBreak_nil : AtBreak [] := trivial

@[simp] theorem atBreak_cons {c : Char} {cs : List Char} :
    AtBreak (c :: cs) ↔ Text.isBlank c = true := Iff.rfl

/-- A quote is next, and another one closes it after at least one character. -/
def OpensPhrase (text : List Char) : Prop :=
  ∃ inner rest, text = '"' :: (inner ++ '"' :: rest) ∧ inner ≠ [] ∧ '"' ∉ inner

/-- A dash excludes what follows it; in front of a break it is part of a word. -/
inductive ReadsDash : List Char → Bool → List Char → Prop
  | dash {rest : List Char} (value : ¬ AtBreak rest) : ReadsDash ('-' :: rest) true rest
  | literal {text : List Char} (break_after : ∀ rest, text = '-' :: rest → AtBreak rest) :
      ReadsDash text false text

/-- A field name and a colon limit what follows them; in front of a break they are part of a
word. -/
inductive ReadsField (names : List Char → Prop) :
    List Char → Option (List Char) → List Char → Prop
  | field {name rest : List Char} (named : names name) (value : ¬ AtBreak rest) :
      ReadsField names (name ++ ':' :: rest) (some name) rest
  | literal {text : List Char}
      (break_after : ∀ name rest, names name → text = name ++ ':' :: rest → AtBreak rest) :
      ReadsField names text none text

/-- A phrase wherever one can be opened, and otherwise a word that runs to the next break. -/
inductive ReadsBody : List Char → Body → List Char → Prop
  | phrase {inner rest : List Char} (nonempty : inner ≠ []) (quoteless : '"' ∉ inner) :
      ReadsBody ('"' :: (inner ++ '"' :: rest)) (.phrase inner) rest
  | word {cs rest : List Char} (nonempty : cs ≠ []) (blankless : ∀ c ∈ cs, Text.isBlank c = false)
      (break_after : AtBreak rest) (unopened : ¬ OpensPhrase (cs ++ rest)) :
      ReadsBody (cs ++ rest) (.word cs) rest

/-- A piece at the front of a text and what is left of the text after it. -/
inductive ReadsPiece (names : List Char → Prop) : List Char → Piece → List Char → Prop
  | piece {text afterDash afterField rest : List Char} {dash : Bool} {field : Option (List Char)}
      {body : Body} (first : ReadsDash text dash afterDash)
      (second : ReadsField names afterDash field afterField)
      (third : ReadsBody afterField body rest) :
      ReadsPiece names text ⟨dash, field, body⟩ rest

/-- A text as gaps and pieces in turn.  Gaps are blank, and every piece is the one that is read
where it stands. -/
inductive Cut (names : List Char → Prop) : List Char → List Piece → Prop
  | gap {gap : List Char} (blank : ∀ c ∈ gap, Text.isBlank c = true) : Cut names gap []
  | piece {gap rest : List Char} {piece : Piece} {pieces : List Piece}
      (blank : ∀ c ∈ gap, Text.isBlank c = true)
      (reads : ReadsPiece names (piece.written ++ rest) piece rest)
      (more : Cut names rest pieces) :
      Cut names (gap ++ (piece.written ++ rest)) (piece :: pieces)

/-- Reading a dash takes the dash and nothing else. -/
theorem ReadsDash.text_eq {text rest : List Char} {dash : Bool} (h : ReadsDash text dash rest) :
    text = dashText dash ++ rest := by
  cases h with
  | dash => rfl
  | literal => rfl

/-- Reading a field takes its name and the colon. -/
theorem ReadsField.text_eq {names : List Char → Prop} {text rest : List Char}
    {field : Option (List Char)} (h : ReadsField names text field rest) :
    text = prefixText field ++ rest := by
  cases h with
  | field => simp [prefixText]
  | literal => rfl

/-- Reading a body takes its text. -/
theorem ReadsBody.text_eq {text rest : List Char} {body : Body} (h : ReadsBody text body rest) :
    text = body.written ++ rest := by
  cases h with
  | phrase => simp [Body.written]
  | word => rfl

/-- Reading a piece takes exactly its text. -/
theorem ReadsPiece.text_eq {names : List Char → Prop} {text rest : List Char} {piece : Piece}
    (h : ReadsPiece names text piece rest) : text = piece.written ++ rest := by
  cases h with
  | piece first second third =>
      rw [first.text_eq, second.text_eq, third.text_eq]
      simp [Piece.written]

/-- The text of a body is not empty and starts no break. -/
theorem ReadsBody.not_atBreak {text rest : List Char} {body : Body}
    (h : ReadsBody text body rest) : ¬ AtBreak text := by
  cases h with
  | phrase => simp [show Text.isBlank '"' = false by decide]
  | word nonempty blankless =>
      obtain ⟨c, cs, rfl⟩ := List.exists_cons_of_ne_nil nonempty
      simp [blankless c List.mem_cons_self]

end Query

end Catalogue
