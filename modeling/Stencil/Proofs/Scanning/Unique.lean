import Stencil.Proofs.Scanning.Layout

/-!
# A source has one layout

Whatever reaches as far as it can is determined by what it stands at the beginning of: a lexeme, a
part of a tag, a mark, a piece, and with them the layout.
-/

namespace Stencil.Token

open Stencil.Text

variable {lexeme lexeme' : Lexeme} {trims trims' : Bool} {symbol : Symbol} {piece piece' : Piece}
  {pieces pieces' : List Piece} {rest rest' chars chars' gap gap' body body' word : List Char}

/-! ## Runs and gaps -/

theorem Unbroken.unique {stop : List Char → Bool} (h : Unbroken (stop · = true) body rest)
    (hrest : rest = [] ∨ stop rest = true) (h' : Unbroken (stop · = true) body' rest')
    (hrest' : rest' = [] ∨ stop rest' = true) (heq : body ++ rest = body' ++ rest') :
    body = body' := by
  have hrun := h.runUntil_eq hrest []
  rw [heq, h'.runUntil_eq hrest' []] at hrun
  exact hrun.symm

theorem Gap.unique (h : Gap trims gap rest) (h' : Gap trims gap' rest')
    (heq : gap ++ rest = gap' ++ rest') : gap = gap' ∧ rest = rest' := by
  cases trims with
  | true => exact Run.unique h h' heq
  | false =>
    obtain rfl : gap = [] := h
    obtain rfl : gap' = [] := h'
    exact ⟨rfl, heq⟩

/-! ## Lexemes -/

theorem exists_symbol_of_opening (h : Opening lexeme) :
    ∃ symbol, lexeme = .symbol symbol ∧ symbol.opens = true := by
  cases lexeme with
  | symbol s => exact ⟨s, rfl, h⟩
  | text | keyword | identifier | string | number => exact h.elim

theorem Spells.unique (h : Spells rest lexeme trims chars) (h' : Spells rest' lexeme' trims' chars')
    (heq : chars ++ rest = chars' ++ rest') :
    lexeme = lexeme' ∧ trims = trims' ∧ chars = chars' ∧ rest = rest' := by
  obtain ⟨c, cs, hchars, -⟩ := h.exists_cons
  have hfirst : chars ++ rest = c :: (cs ++ rest) := by rw [hchars, List.cons_append]
  have hfirst' : chars' ++ rest' = c :: (cs ++ rest) := heq.symm.trans hfirst
  by_cases hopening : Opening lexeme
  · by_cases hopening' : Opening lexeme'
    · obtain ⟨symbol, rfl, -⟩ := exists_symbol_of_opening hopening
      obtain ⟨symbol', rfl, -⟩ := exists_symbol_of_opening hopening'
      have hfound := spells_symbol_iff.mp h
      rw [heq, spells_symbol_iff.mp h'] at hfound
      cases hfound
      exact ⟨rfl, rfl, rfl, List.append_cancel_left heq⟩
    · have hread : tokenAt "" {} c (cs ++ rest) = _ := tokenAt_of_opening h hopening hfirst
      rw [tokenAt_of_spells h' hopening' hfirst'] at hread
      cases hread
  · by_cases hopening' : Opening lexeme'
    · have hread : tokenAt "" {} c (cs ++ rest) = _ := tokenAt_of_spells h hopening hfirst
      rw [tokenAt_of_opening h' hopening' hfirst'] at hread
      cases hread
    · have hread : tokenAt "" {} c (cs ++ rest) = _ := tokenAt_of_spells h hopening hfirst
      rw [tokenAt_of_spells h' hopening' hfirst'] at hread
      obtain ⟨htoken, hlength⟩ := Prod.mk.inj (Except.ok.inj hread)
      obtain ⟨c', cs', hchars', -⟩ := h'.exists_cons
      have hsame : chars.length = chars'.length := by
        rw [hchars, hchars'] at hlength ⊢
        simp only [List.length_cons, Nat.add_sub_cancel] at hlength ⊢
        rw [hlength]
      obtain ⟨rfl, rfl⟩ := List.append_inj heq hsame
      obtain ⟨rfl, -, rfl⟩ := Token.mk.inj htoken
      exact ⟨rfl, rfl, rfl, rfl⟩

/-! ## Tags -/

theorem Part.Stands.unique {part part' : Part} (h : part.Stands rest) (h' : part'.Stands rest')
    (heq : part.source ++ rest = part'.source ++ rest') : part = part' ∧ rest = rest' := by
  have hrun {part : Part} {rest : List Char} (h : part.Stands rest) :
      Run isBlank part.gap (part.chars ++ rest) := by
    obtain ⟨c, cs, hchars, hc⟩ := h.spells.exists_cons
    refine ⟨h.gap, fun d hd => ?_⟩
    rw [hchars] at hd
    rwa [← Option.some.inj hd]
  rw [Part.source, Part.source, List.append_assoc, List.append_assoc] at heq
  obtain ⟨hgap, hbehind⟩ := (hrun h).unique (hrun h') heq
  obtain ⟨hlexeme, htrims, hchars, hrest⟩ := h.spells.unique h'.spells hbehind
  obtain ⟨gap, lexeme, trims, chars⟩ := part
  obtain ⟨gap', lexeme', trims', chars'⟩ := part'
  obtain rfl : gap = gap' := hgap
  obtain rfl : lexeme = lexeme' := hlexeme
  obtain rfl : trims = trims' := htrims
  obtain rfl : chars = chars' := hchars
  exact ⟨rfl, hrest⟩

theorem Tagged.unique {parts parts' : List Part} (h : Tagged rest parts) (h' : Tagged rest' parts')
    (heq : parts.flatMap Part.source ++ rest = parts'.flatMap Part.source ++ rest') :
    parts = parts' := by
  induction h generalizing parts' with
  | close hpart hclosing =>
    cases h' with
    | close hpart' hclosing' =>
      rw [List.flatMap_singleton, List.flatMap_singleton] at heq
      obtain ⟨rfl, -⟩ := hpart.unique hpart' heq
      rfl
    | cons hpart' hopening' hclosing' h' =>
      rw [List.flatMap_singleton, List.flatMap_cons, List.append_assoc] at heq
      obtain ⟨rfl, -⟩ := hpart.unique hpart' heq
      exact absurd hclosing hclosing'
  | cons hpart hopening hclosing h ih =>
    cases h' with
    | close hpart' hclosing' =>
      rw [List.flatMap_singleton, List.flatMap_cons, List.append_assoc] at heq
      obtain ⟨rfl, -⟩ := hpart.unique hpart' heq
      exact absurd hclosing' hclosing
    | cons hpart' hopening' hclosing' h' =>
      rw [List.flatMap_cons, List.flatMap_cons, List.append_assoc, List.append_assoc] at heq
      obtain ⟨rfl, hbehind⟩ := hpart.unique hpart' heq
      rw [ih h' hbehind]

/-! ## Marks -/

theorem Mark.Proper.unique {m m' : Mark} {c : Char} (h : m.Proper) (h' : m'.Proper)
    (hword : word.head? = some c) (hblank : isBlank c = false) (hdash : c ≠ '-')
    (heq : m.source word ++ rest = m'.source word ++ rest') : m = m' ∧ rest = rest' := by
  have hread := h.markerAt?_eq hword hblank hdash rest
  rw [heq, h'.markerAt?_eq hword hblank hdash rest'] at hread
  obtain ⟨hbefore, hafter, hlength⟩ := Marker.mk.inj (Option.some.inj hread)
  obtain ⟨hsource, hrest⟩ := List.append_inj heq hlength.symm
  obtain ⟨before, lead, trail, after⟩ := m
  obtain ⟨before', lead', trail', after'⟩ := m'
  obtain rfl : before' = before := hbefore
  obtain rfl : after' = after := hafter
  have hstops (s : List Char) : ∀ d ∈ (word ++ s).head?, isBlank d = false := by
    obtain ⟨w, rfl⟩ := List.head?_eq_some_iff.mp hword
    exact fun d hd => by rwa [← Option.some.inj hd]
  have hlead := List.append_cancel_left (List.append_cancel_left hsource)
  obtain ⟨hsame, hbehind⟩ := (Run.mk h.lead (hstops _)).unique (Run.mk h'.lead (hstops _)) hlead
  obtain rfl : lead = lead' := hsame
  have htrail := List.append_cancel_left hbehind
  obtain rfl : trail = trail' := List.append_cancel_right htrail
  exact ⟨rfl, hrest⟩

/-! ## Pieces -/

/-- What kind of piece is read where a text begins. -/
def kindAt (s : List Char) : Bool × Bool × Bool :=
  ((markerAt? verbatimWord s).isSome, opensHere s, ['\x7b', '#'].isPrefixOf s)

/-- The kind of a piece. -/
def Piece.kind : Piece → Bool × Bool × Bool
  | text _ => (false, false, false)
  | comment _ => (false, true, true)
  | verbatim .. => (true, true, false)
  | tag .. => (false, true, false)

theorem Piece.Fits.kindAt_eq (h : piece.Fits rest) :
    kindAt (piece.source ++ rest) = piece.kind := by
  cases h with
  | @text body hbody hplain =>
    obtain ⟨c, body, rfl⟩ := List.exists_cons_of_ne_nil hbody
    have hmark : markerAt? verbatimWord (c :: (body ++ rest)) = none :=
      Option.eq_none_iff_forall_ne_some.mpr fun m hm => hplain.1 (opensHere_of_markerAt? hm)
    have hcomment : ['\x7b', '#'].isPrefixOf (c :: (body ++ rest)) = false := by
      refine Bool.eq_false_iff.mpr fun h => hplain.1 ?_
      obtain ⟨t, ht⟩ := List.isPrefixOf_iff_prefix.mp h
      rw [← ht]
      rfl
    rw [kindAt, Piece.source, List.cons_append, hmark, hcomment, Bool.eq_false_iff.mpr hplain.1]
    rfl
  | comment => rfl
  | verbatim hopening =>
    rw [kindAt, Piece.source, List.append_assoc, hopening.opens]
    rfl
  | @tag start parts hgap hstart hopening hparts hmark =>
    rw [Piece.source, List.append_assoc, kindAt, hmark]
    obtain ⟨gap, lexeme, trims, chars⟩ := start
    obtain rfl : gap = [] := hgap
    obtain ⟨symbol, rfl, hopens⟩ := exists_symbol_of_opening hopening
    obtain ⟨hspelling, -⟩ := symbolAt?_eq_some_iff.mp (spells_symbol_iff.mp hstart.spells)
    obtain h | h | h | h := three_of_opens _ hspelling hopens
    all_goals
      cases h
      rfl

theorem Piece.Fits.unique (h : piece.Fits rest) (h' : piece'.Fits rest')
    (heq : piece.source ++ rest = piece'.source ++ rest') : piece = piece' ∧ rest = rest' := by
  have hread : pieceAt "" (.behind []) (piece.source ++ rest) = _ := h.pieceAt_eq
  rw [heq, h'.pieceAt_eq] at hread
  have hlength := (Prod.mk.inj (Except.ok.inj hread)).2
  obtain ⟨hsource, rfl⟩ := List.append_inj heq hlength.symm
  have hkind : piece.kind = piece'.kind := by rw [← h.kindAt_eq, heq, h'.kindAt_eq]
  refine ⟨?_, rfl⟩
  cases h with
  | text =>
    cases h' with
    | text => exact congrArg Piece.text hsource
    | comment | verbatim | tag => cases hkind
  | comment =>
    cases h' with
    | comment =>
      obtain rfl := List.append_cancel_right (List.append_cancel_left hsource)
      rfl
    | text | verbatim | tag => cases hkind
  | verbatim hopening hlead hbody hclosing htrail =>
    cases h' with
    | verbatim hopening' hlead' hbody' hclosing' htrail' =>
      simp only [Piece.source, List.append_assoc] at heq
      obtain ⟨rfl, hinner⟩ := hopening.unique hopening' rfl rfl (by decide) heq
      obtain ⟨rfl, htext⟩ := hlead.unique hlead' hinner
      obtain rfl := hbody.unique (.inr (hclosing.closesVerbatim_eq _)) hbody'
        (.inr (hclosing'.closesVerbatim_eq _)) htext
      obtain ⟨rfl, hbehind⟩ := hclosing.unique hclosing' rfl rfl (by decide)
        (List.append_cancel_left htext)
      obtain ⟨rfl, -⟩ := htrail.unique htrail' hbehind
      rfl
    | text | comment | tag => cases hkind
  | tag hgap hstart hopening hparts hmark =>
    cases h' with
    | tag hgap' hstart' hopening' hparts' hmark' =>
      rw [Piece.source, Piece.source, List.append_assoc, List.append_assoc] at heq
      obtain ⟨rfl, hbehind⟩ := hstart.unique hstart' heq
      rw [hparts.unique hparts' hbehind]
    | text | comment | verbatim => cases hkind

/-- A source has at most one layout. -/
theorem Layout.unique (h : Layout pieces) (h' : Layout pieces')
    (heq : pieces.flatMap Piece.source = pieces'.flatMap Piece.source) : pieces = pieces' := by
  induction pieces generalizing pieces' with
  | nil =>
    cases pieces' with
    | nil => rfl
    | cons piece' pieces' =>
      rw [List.flatMap_nil, List.flatMap_cons] at heq
      exact absurd (List.append_eq_nil_iff.mp heq.symm).1 h'.1.source_ne_nil
  | cons piece pieces ih =>
    cases pieces' with
    | nil =>
      rw [List.flatMap_nil, List.flatMap_cons] at heq
      exact absurd (List.append_eq_nil_iff.mp heq).1 h.1.source_ne_nil
    | cons piece' pieces' =>
      rw [List.flatMap_cons, List.flatMap_cons] at heq
      obtain ⟨rfl, hbehind⟩ := h.1.unique h'.1 heq
      rw [ih h.2 h'.2 hbehind]

end Stencil.Token
