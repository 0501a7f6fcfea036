import Catalogue.Proofs.Outcome
import Catalogue.Proofs.Query.Scanning

/-!
# What pieces mean

A piece stands for one token.  A word that is neither quoted nor limited to a field may be the name
of an operator, in any letter case; every other piece is looked for as it is written.  The relation
`Denotes` says this without the case mappings of the whole character set, and reading agrees with it
(`tokensOf_eq_ok_iff`).

Reading a query fails at one place only.  The scanner takes three characters outside ASCII for
letters of a field name, but their lower case is no letter of a name.  `parse_fails_iff` says that
such a name is the exact condition for failure, and what is reported.
-/

namespace Catalogue

/-- The first element with one property, all before it having another, is the head of a list or
comes later. -/
theorem exists_first_cons_iff {α : Type} {P Q : α → Prop} {x : α} {xs : List α} :
    (∃ before y after, x :: xs = before ++ y :: after ∧ (∀ z ∈ before, P z) ∧ Q y) ↔
      Q x ∨ P x ∧ ∃ before y after, xs = before ++ y :: after ∧ (∀ z ∈ before, P z) ∧ Q y := by
  constructor
  · rintro ⟨before, y, after, hsplit, hbefore, hy⟩
    cases before with
    | nil =>
        obtain ⟨rfl, -⟩ := List.cons.inj hsplit
        exact Or.inl hy
    | cons z before =>
        obtain ⟨rfl, hxs⟩ := List.cons.inj hsplit
        rw [List.forall_mem_cons] at hbefore
        exact Or.inr ⟨hbefore.1, before, y, after, hxs, hbefore.2, hy⟩
  · rintro (hx | ⟨hx, before, y, after, rfl, hbefore, hy⟩)
    · exact ⟨[], x, xs, rfl, by simp, hx⟩
    · exact ⟨x :: before, y, after, rfl, List.forall_mem_cons.mpr ⟨hx, hbefore⟩, hy⟩

/-- Of the elements with a property one is the first. -/
theorem exists_first_iff {α : Type} {P : α → Prop} {xs : List α} :
    (∃ before y after, xs = before ++ y :: after ∧ (∀ z ∈ before, ¬ P z) ∧ P y) ↔
      ∃ x ∈ xs, P x := by
  induction xs with
  | nil => simp
  | cons x xs ih =>
      rw [exists_first_cons_iff, ih, List.exists_mem_cons_iff]
      tauto

/-- The field that a name belongs to. -/
theorem SearchField.lookup_eq_some_iff {name : String} {field : SearchField} :
    SearchField.names.lookup name = some field ↔ name = field.name := by
  constructor
  · intro h
    obtain ⟨earlier, later, hnames, -⟩ := List.lookup_eq_some_iff.mp h
    exact Query.name_of_mem_names (hnames ▸ List.mem_append_cons_self)
  · rintro rfl
    cases field <;> decide

/-- The operator that a name belongs to. -/
theorem BooleanOperator.lookup_eq_some_iff {name : String} {op : BooleanOperator} :
    BooleanOperator.names.lookup name = some op ↔ name = op.name := by
  constructor
  · intro h
    obtain ⟨earlier, later, hnames, -⟩ := List.lookup_eq_some_iff.mp h
    have hmem : (name, op) ∈ BooleanOperator.names := hnames ▸ List.mem_append_cons_self
    simp only [BooleanOperator.names, List.mem_cons, Prod.mk.injEq, List.not_mem_nil,
      or_false] at hmem
    rcases hmem with ⟨rfl, rfl⟩ | ⟨rfl, rfl⟩ | ⟨rfl, rfl⟩ <;> rfl
  · rintro rfl
    cases op <;> decide

/-- A choice returns what its name stands for. -/
theorem Choice.ofName_eq_ok_iff {α : Type} {choice : Choice} {alternatives : List (String × α)}
    {name : String} {a : α} :
    choice.ofName alternatives name = .ok a ↔ alternatives.lookup name = some a := by
  unfold Choice.ofName
  cases alternatives.lookup name <;> simp

/-- A choice reports a name that stands for nothing as it was given. -/
theorem Choice.ofName_eq_error_iff {α : Type} {choice : Choice}
    {alternatives : List (String × α)} {name : String} {e : UnknownChoice} :
    choice.ofName alternatives name = .error e ↔
      alternatives.lookup name = none ∧ e = ⟨some (Text.quote name), choice⟩ := by
  unfold Choice.ofName
  cases alternatives.lookup name <;> simp [eq_comm]

namespace Query

/-- A text is the name of a field in any letter case. -/
def SpellsField (written : List Char) (field : SearchField) : Prop :=
  written.map Char.toLower = field.name.toList

instance (written : List Char) (field : SearchField) : Decidable (SpellsField written field) :=
  inferInstanceAs (Decidable (_ = _))

/-- A text is the name of some field in any letter case. -/
def IsFieldName (written : List Char) : Prop :=
  ∃ field, SpellsField written field

/-- A text is the name of an operator in any letter case. -/
def SpellsOperator (written : List Char) (op : BooleanOperator) : Prop :=
  written.map Char.toUpper = op.name.toList

instance (written : List Char) (op : BooleanOperator) : Decidable (SpellsOperator written op) :=
  inferInstanceAs (Decidable (_ = _))

/-- The token that a piece stands for. -/
inductive Denotes : Piece → Token → Prop
  | operator {dash : Bool} {cs : List Char} {op : BooleanOperator}
      (spelled : SpellsOperator cs op) :
      Denotes ⟨dash, none, .word cs⟩ ⟨.operator, op.name, none, false⟩
  | plain {dash : Bool} {body : Body}
      (unspelled : ∀ cs op, body = .word cs → ¬ SpellsOperator cs op) :
      Denotes ⟨dash, none, body⟩ ⟨body.kind, body.value, none, dash⟩
  | limited {dash : Bool} {written : List Char} {body : Body} {field : SearchField}
      (spelled : SpellsField written field) :
      Denotes ⟨dash, some written, body⟩ ⟨body.kind, body.value, some field, dash⟩

/-- The lower case of a text names a field exactly when the text spells it. -/
theorem lower_eq_name_iff {written : List Char} {field : SearchField} :
    String.ofList (Text.lowerChars written) = field.name ↔ SpellsField written field := by
  have hletters : ∀ d ∈ field.name.toList, d.isAlpha = true ∧ d ≠ 'k' := by
    have hall : field.name.toList.all (fun d => d.isAlpha && d ≠ 'k') = true := by
      cases field <;> rfl
    simpa using hall
  rw [SpellsField, ← Text.lowerChars_eq_iff hletters, ← String.toList_inj, String.toList_ofList]

/-- The upper case of a text names an operator exactly when the text spells it. -/
theorem upper_eq_name_iff {written : List Char} {op : BooleanOperator} :
    String.ofList (Text.upperChars written) = op.name ↔ SpellsOperator written op := by
  have hletters : ∀ d ∈ op.name.toList, d.isAlpha = true ∧ ¬ (d = 'F' ∨ d = 'I' ∨ d = 'S') := by
    have hall : op.name.toList.all
        (fun d => d.isAlpha && (d ≠ 'F' && (d ≠ 'I' && d ≠ 'S'))) = true := by
      cases op <;> rfl
    simpa using hall
  rw [SpellsOperator, ← Text.upperChars_eq_iff hletters, ← String.toList_inj, String.toList_ofList]

/-- Looking up the lower case of a text finds the field that the text spells. -/
theorem ofName_lower_eq_ok_iff {written : List Char} {field : SearchField} :
    SearchField.ofName (String.ofList (Text.lowerChars written)) = .ok field ↔
      SpellsField written field := by
  rw [SearchField.ofName, Choice.ofName_eq_ok_iff, SearchField.lookup_eq_some_iff,
    lower_eq_name_iff]

/-- Looking up the lower case of a text fails if the text is no field name. -/
theorem ofName_lower_eq_error_iff {written : List Char} {e : UnknownChoice} :
    SearchField.ofName (String.ofList (Text.lowerChars written)) = .error e ↔
      ¬ IsFieldName written ∧
        e = ⟨some (Text.quote (Text.lower (String.ofList written))), .searchField⟩ := by
  rw [SearchField.ofName, Choice.ofName_eq_error_iff, Option.eq_none_iff_forall_ne_some]
  simp only [ne_eq, SearchField.lookup_eq_some_iff, lower_eq_name_iff, Text.lower,
    String.toList_ofList, IsFieldName, not_exists]

/-- A word is taken for an operator exactly when it spells one. -/
theorem upper_lookup_isSome_iff {cs : List Char} :
    (BooleanOperator.names.lookup (String.ofList (Text.upperChars cs))).isSome ↔
      ∃ op, SpellsOperator cs op := by
  simp only [Option.isSome_iff_exists, BooleanOperator.lookup_eq_some_iff, upper_eq_name_iff]

/-- A word that spells an operator is read as the operator, whatever dash is in front. -/
theorem tokenOf_operator {dash : Bool} {cs : List Char} {op : BooleanOperator}
    (h : SpellsOperator cs op) :
    tokenOf ⟨dash, none, .word cs⟩ = .ok ⟨.operator, op.name, none, false⟩ := by
  simp only [tokenOf]
  rw [if_pos (upper_lookup_isSome_iff.mpr ⟨op, h⟩), upper_eq_name_iff.mpr h]

/-- A body that spells no operator is read as it is written. -/
theorem tokenOf_plain {dash : Bool} {body : Body}
    (h : ∀ cs op, body = .word cs → ¬ SpellsOperator cs op) :
    tokenOf ⟨dash, none, body⟩ = .ok ⟨body.kind, body.value, none, dash⟩ := by
  cases body with
  | phrase cs => rfl
  | word cs =>
      have hnone : ¬ (BooleanOperator.names.lookup (String.ofList (Text.upperChars cs))).isSome :=
        fun hfound => (upper_lookup_isSome_iff.mp hfound).elim fun op hop => h cs op rfl hop
      simp only [tokenOf]
      rw [if_neg hnone]
      rfl

/-- A body behind a colon is read as it is written, if a field is in front of the colon. -/
theorem tokenOf_limited {dash : Bool} {written : List Char} {body : Body} :
    tokenOf ⟨dash, some written, body⟩ =
      (SearchField.ofName (String.ofList (Text.lowerChars written))).map fun field =>
        ⟨body.kind, body.value, some field, dash⟩ := by
  cases body <;> rfl

/-- Reading a piece yields the token that it stands for. -/
theorem tokenOf_eq_ok_iff {piece : Piece} {t : Token} :
    tokenOf piece = .ok t ↔ Denotes piece t := by
  constructor
  · intro h
    obtain ⟨dash, field, body⟩ := piece
    cases field with
    | none =>
        by_cases hspelled : ∃ cs op, body = .word cs ∧ SpellsOperator cs op
        · obtain ⟨cs, op, rfl, hop⟩ := hspelled
          obtain rfl := Except.ok.inj ((tokenOf_operator hop).symm.trans h)
          exact .operator hop
        · have hunspelled : ∀ cs op, body = .word cs → ¬ SpellsOperator cs op :=
            fun cs op hbody hop => hspelled ⟨cs, op, hbody, hop⟩
          obtain rfl := Except.ok.inj ((tokenOf_plain hunspelled).symm.trans h)
          exact .plain hunspelled
    | some written =>
        rw [tokenOf_limited] at h
        obtain ⟨field, hfield, rfl⟩ := map_eq_ok_iff.mp h
        exact .limited (ofName_lower_eq_ok_iff.mp hfield)
  · intro h
    cases h with
    | operator hspelled => exact tokenOf_operator hspelled
    | plain hunspelled => exact tokenOf_plain hunspelled
    | limited hspelled =>
        rw [tokenOf_limited, ofName_lower_eq_ok_iff.mpr hspelled]
        rfl

/-- Reading a piece fails exactly when what stands in front of its colon is no field name. -/
theorem tokenOf_eq_error_iff {piece : Piece} {e : UnknownChoice} :
    tokenOf piece = .error e ↔
      ∃ written, piece.field = some written ∧ ¬ IsFieldName written ∧
        e = ⟨some (Text.quote (Text.lower (String.ofList written))), .searchField⟩ := by
  obtain ⟨dash, field, body⟩ := piece
  cases field with
  | none =>
      cases body with
      | phrase cs => simp [tokenOf]
      | word cs =>
          simp only [tokenOf, reduceCtorEq, false_and, exists_false, iff_false]
          split <;> simp
  | some written =>
      rw [tokenOf_limited, map_eq_error_iff]
      simp only [Option.some.injEq, exists_eq_left', ofName_lower_eq_error_iff]

/-- A piece stands for a token exactly when its field, if it has one, is spelled. -/
theorem exists_denotes_iff {piece : Piece} :
    (∃ t, Denotes piece t) ↔ ∀ written, piece.field = some written → IsFieldName written := by
  simp only [← tokenOf_eq_ok_iff]
  cases hpiece : tokenOf piece with
  | ok t =>
      simp only [Except.ok.injEq, exists_eq', true_iff]
      intro written hfield
      by_contra hunnamed
      have hfailed := tokenOf_eq_error_iff.mpr ⟨written, hfield, hunnamed, rfl⟩
      simp [hpiece] at hfailed
  | error e =>
      obtain ⟨written, hfield, hunnamed, -⟩ := tokenOf_eq_error_iff.mp hpiece
      simp only [reduceCtorEq, exists_false, false_iff]
      exact fun hnamed => hunnamed (hnamed written hfield)

/-- Reading pieces yields their tokens in order. -/
theorem tokensOf_eq_ok_iff {ps : List Piece} {ts : List Token} :
    tokensOf ps = .ok ts ↔ List.Forall₂ Denotes ps ts := by
  induction ps generalizing ts with
  | nil => simp [tokensOf, eq_comm]
  | cons piece ps ih =>
      rw [tokensOf, List.forall₂_cons_left_iff]
      cases hpiece : tokenOf piece with
      | error e =>
          simp only [reduceCtorEq, false_iff]
          rintro ⟨t, rest, ht, -, -⟩
          simp [tokenOf_eq_ok_iff.mpr ht] at hpiece
      | ok t =>
          simp only [map_eq_ok_iff, ih]
          constructor
          · rintro ⟨rest, hrest, rfl⟩
            exact ⟨t, rest, tokenOf_eq_ok_iff.mp hpiece, hrest, rfl⟩
          · rintro ⟨u, rest, hu, hrest, rfl⟩
            obtain rfl := Except.ok.inj (hpiece.symm.trans (tokenOf_eq_ok_iff.mpr hu))
            exact ⟨rest, hrest, rfl⟩

/-- Pieces are read exactly when each of them stands for a token. -/
theorem exists_tokensOf_iff {ps : List Piece} :
    (∃ ts, tokensOf ps = .ok ts) ↔ ∀ piece ∈ ps, ∃ t, Denotes piece t := by
  simp only [tokensOf_eq_ok_iff]
  induction ps with
  | nil => simp
  | cons piece ps ih =>
      simp only [List.forall_mem_cons, ← ih, List.forall₂_cons_left_iff]
      constructor
      · rintro ⟨_, t, ts, ht, hts, rfl⟩
        exact ⟨⟨t, ht⟩, ts, hts⟩
      · rintro ⟨⟨t, ht⟩, ts, hts⟩
        exact ⟨t :: ts, t, ts, ht, hts, rfl⟩

/-- Reading pieces fails at the first one that stands for no token, and as that one does. -/
theorem tokensOf_eq_error_iff {ps : List Piece} {e : UnknownChoice} :
    tokensOf ps = .error e ↔
      ∃ before piece after, ps = before ++ piece :: after ∧
        (∀ p ∈ before, ∃ t, Denotes p t) ∧ tokenOf piece = .error e := by
  induction ps with
  | nil => simp [tokensOf]
  | cons head ps ih =>
      rw [exists_first_cons_iff, ← ih, tokensOf]
      simp only [← tokenOf_eq_ok_iff]
      cases tokenOf head with
      | error e' => simp
      | ok t => simp [map_eq_error_iff]

/-- Every field name in any letter case is one as the scanner accepts it. -/
theorem IsFieldName.isFieldVariant {written : List Char} (h : IsFieldName written) :
    IsFieldVariant written := by
  obtain ⟨field, hspelled⟩ := h
  refine ⟨field, ?_⟩
  rw [← hspelled, List.forall₂_map_left_iff, List.forall₂_same]
  intro c _
  simp [isVariantOf]

/-- Without foreign letters a case variant of a name spells it. -/
theorem map_toLower_eq_of_variant {name written : List Char}
    (h : List.Forall₂ (fun letter c => isVariantOf letter c = true) name written)
    (hnative : ∀ c ∈ written, c ∉ foreignLetters) : written.map Char.toLower = name := by
  induction h with
  | nil => rfl
  | @cons letter c name written hc _ ih =>
      rw [List.map_cons, (isVariantOf_cases hc).resolve_right (hnative c List.mem_cons_self),
        ih (fun d hd => hnative d (List.mem_cons_of_mem c hd))]

/-- **Two notions of letter case.**  Of the texts that the scanner accepts as a field name, the
ones with a foreign letter are no field names. -/
theorem IsFieldVariant.isFieldName_iff {written : List Char} (h : IsFieldVariant written) :
    IsFieldName written ↔ ∀ c ∈ written, c ∉ foreignLetters := by
  constructor
  · rintro ⟨field, hspelled⟩ c hc hforeign
    have hletter : c.toLower.isLower = true :=
      isLower_of_mem_name (hspelled ▸ List.mem_map_of_mem hc)
    simp only [foreignLetters, List.mem_cons, List.not_mem_nil, or_false] at hforeign
    rcases hforeign with rfl | rfl | rfl <;> exact absurd hletter (by decide)
  · intro hnative
    obtain ⟨field, hvariant⟩ := h
    exact ⟨field, map_toLower_eq_of_variant hvariant hnative⟩

/-- The field names of the pieces that the grammar reads count as field names. -/
theorem Cut.names_field {names : List Char → Prop} {text : List Char} {ps : List Piece}
    (h : Cut names text ps) {piece : Piece} (hpiece : piece ∈ ps) {written : List Char}
    (hfield : piece.field = some written) : names written := by
  induction h with
  | gap => simp at hpiece
  | @piece gap rest head ps hgap hreads more ih =>
      rcases List.mem_cons.mp hpiece with rfl | hpiece
      · cases hreads with
        | piece hdash hname hbody =>
            cases hname with
            | field hnamed => exact Option.some.inj hfield ▸ hnamed
            | literal => simp at hfield
      · exact ih hpiece

/-- A piece whose field name, as the scanner accepted it, holds a foreign letter. -/
def HasForeignField (piece : Piece) : Prop :=
  ∃ written, piece.field = some written ∧ ∃ c ∈ written, c ∈ foreignLetters

/-- Of the pieces of a text, the ones with a foreign letter in their field name stand for no
token. -/
theorem denotes_iff_not_hasForeignField {text : List Char} {piece : Piece}
    (hpiece : piece ∈ pieces text) : (∃ t, Denotes piece t) ↔ ¬ HasForeignField piece := by
  rw [exists_denotes_iff]
  constructor
  · rintro hnamed ⟨written, hfield, c, hc, hforeign⟩
    have hvariant := (cut_pieces text).names_field hpiece hfield
    exact hvariant.isFieldName_iff.mp (hnamed written hfield) c hc hforeign
  · intro hnative written hfield
    have hvariant := (cut_pieces text).names_field hpiece hfield
    exact hvariant.isFieldName_iff.mpr fun c hc hforeign =>
      hnative ⟨written, hfield, c, hc, hforeign⟩

/-- A query is read exactly when no piece of it has a foreign letter in its field name. -/
theorem exists_parse_ok_iff {query : String} :
    (∃ tokens, parse query = .ok tokens) ↔
      ∀ piece ∈ pieces query.toList, ¬ HasForeignField piece := by
  rw [parse, exists_tokensOf_iff]
  exact forall₂_congr fun piece hpiece => denotes_iff_not_hasForeignField hpiece

/-- Reading a query fails at the first piece with a foreign letter in its field name. -/
theorem parse_eq_error_iff {query : String} {e : UnknownChoice} :
    parse query = .error e ↔
      ∃ before piece after written, pieces query.toList = before ++ piece :: after ∧
        (∀ p ∈ before, ¬ HasForeignField p) ∧ HasForeignField piece ∧
        piece.field = some written ∧
        e = ⟨some (Text.quote (Text.lower (String.ofList written))), .searchField⟩ := by
  rw [parse, tokensOf_eq_error_iff]
  refine exists₃_congr fun before piece after => ?_
  constructor
  · rintro ⟨hsplit, hbefore, hpiece⟩
    obtain ⟨written, hfield, hunnamed, rfl⟩ := tokenOf_eq_error_iff.mp hpiece
    refine ⟨written, hsplit, fun p hp => ?_, ?_, hfield, rfl⟩
    · exact (denotes_iff_not_hasForeignField (hsplit ▸ List.mem_append_left _ hp)).mp
        (hbefore p hp)
    · have hfails : ¬ ∃ t, Denotes piece t := fun hdenotes =>
        hunnamed (exists_denotes_iff.mp hdenotes written hfield)
      rw [denotes_iff_not_hasForeignField (hsplit ▸ List.mem_append_cons_self)] at hfails
      exact not_not.mp hfails
  · rintro ⟨written, hsplit, hbefore, hforeign, hfield, rfl⟩
    refine ⟨hsplit, fun p hp => ?_, tokenOf_eq_error_iff.mpr ⟨written, hfield, ?_, rfl⟩⟩
    · exact (denotes_iff_not_hasForeignField (hsplit ▸ List.mem_append_left _ hp)).mpr
        (hbefore p hp)
    · obtain ⟨name, hname, hletter⟩ := hforeign
      obtain rfl := Option.some.inj (hfield.symm.trans hname)
      have hvariant := (cut_pieces query.toList).names_field
        (hsplit ▸ List.mem_append_cons_self) hfield
      simpa [hvariant.isFieldName_iff] using hletter

/-- **When reading a query fails.**  A query is read exactly when no piece of it has a foreign
letter in its field name.  Otherwise the first such name is reported in its lower case, and of the
texts that the scanner accepts as a field name only those without a foreign letter name a field. -/
theorem parse_fails_iff (query : String) :
    ((∃ tokens, parse query = .ok tokens) ↔
        ∀ piece ∈ pieces query.toList, ¬ HasForeignField piece) ∧
      (∀ e, parse query = .error e ↔
        ∃ before piece after written, pieces query.toList = before ++ piece :: after ∧
          (∀ p ∈ before, ¬ HasForeignField p) ∧ HasForeignField piece ∧
          piece.field = some written ∧
          e = ⟨some (Text.quote (Text.lower (String.ofList written))), .searchField⟩) ∧
      ∀ written, IsFieldVariant written →
        ((∃ field, SearchField.ofName (Text.lower (String.ofList written)) = .ok field) ↔
          ∀ c ∈ written, c ∉ foreignLetters) := by
  refine ⟨exists_parse_ok_iff, fun _ => parse_eq_error_iff, fun written hvariant => ?_⟩
  simp only [Text.lower, String.toList_ofList, ofName_lower_eq_ok_iff]
  exact hvariant.isFieldName_iff

/-- The dotless letter is scanned as an `i`, but `tıtle` is the name of no field. -/
theorem parse_dotless_title :
    parse "tıtle:x" = .error ⟨some "'tıtle'", .searchField⟩ ∧
      ¬ ∀ query, ∃ tokens, parse query = .ok tokens := by
  have hpieces : pieces "tıtle:x".toList =
      [⟨false, some ['t', 'ı', 't', 'l', 'e'], .word ['x']⟩] := by
    rw [pieces_eq_piecesWithin (n := 7) (by simp)]
    rfl
  have hunnamed : ¬ IsFieldName ['t', 'ı', 't', 'l', 'e'] := by
    rintro ⟨field, hspelled⟩
    cases field <;> exact absurd hspelled (by decide)
  have hshown : Text.quote (Text.lower (String.ofList ['t', 'ı', 't', 'l', 'e'])) = "'tıtle'" := by
    decide +kernel
  have hparse : parse "tıtle:x" = .error ⟨some "'tıtle'", .searchField⟩ := by
    rw [parse, hpieces, ← hshown]
    exact tokensOf_eq_error_iff.mpr ⟨[], _, [], rfl, by simp,
      tokenOf_eq_error_iff.mpr ⟨_, rfl, hunnamed, rfl⟩⟩
  refine ⟨hparse, fun hreads => ?_⟩
  obtain ⟨tokens, htokens⟩ := hreads "tıtle:x"
  simp [hparse] at htokens

end Query

end Catalogue
