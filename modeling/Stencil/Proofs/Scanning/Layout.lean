import Stencil.Proofs.Scanning.Marks

/-!
# The layout of a template

A template is a sequence of texts, comments, verbatim blocks and tags, each of which reaches as far
as it can. The scanner accepts a source if and only if it has such a layout.
-/

namespace Stencil.Token

open Stencil.Text

/-- The text breaks off a comment: its end is here, or the end of the line. -/
def breaksComment (s : List Char) : Bool := s.head? == some '\n' || ['#', '\x7d'].isPrefixOf s

/-- A mark that closes a verbatim block is here. -/
def closesVerbatim (s : List Char) : Bool := (markerAt? endVerbatimWord s).isSome

/-- The mark that opens a verbatim block here trims the text in front of it. -/
def trimsText (s : List Char) : Bool :=
  match markerAt? verbatimWord s with
  | some m => m.trimsBefore
  | none => false

/-- What a mark behind a text leaves of it. -/
def cut (trims : Bool) (body : List Char) : List Char := if trims then trimEnd body else body

/-- The blanks that a mark takes from the text behind it: all that are there, or none. -/
def Gap (trims : Bool) (gap rest : List Char) : Prop :=
  if trims then Run isBlank gap rest else gap = []

/-- A part of a template as it is written. -/
inductive Piece where
  | text (body : List Char)
  | comment (body : List Char)
  /-- A verbatim block. Each of its marks is followed by the blanks that it takes. -/
  | verbatim (opening : Mark) (lead body : List Char) (closing : Mark) (trail : List Char)
  | tag (start : Part) (parts : List Part)

namespace Piece

/-- What is written of a piece. -/
def source : Piece → List Char
  | text body => body
  | comment body => ['\x7b', '#'] ++ (body ++ ['#', '\x7d'])
  | verbatim opening lead body closing trail =>
    opening.source verbatimWord ++ (lead ++ (body ++ (closing.source endVerbatimWord ++ trail)))
  | tag start parts => start.source ++ parts.flatMap Part.source

/-- The tokens of a piece that stands between `before` and `rest`. -/
def tokens (name : String) (before rest : List Char) : Piece → List Token
  | text body => ofText name (.behind before) (cut (trimsText rest) body)
  | comment _ => []
  | verbatim opening lead body closing _ =>
    ofText name (.behind (before ++ (opening.source verbatimWord ++ lead)))
      (cut closing.trimsBefore body)
  | tag start parts => start.token name before :: Part.tokens name (before ++ start.source) parts

/-- In front of `rest` the piece reaches as far as it can. -/
inductive Fits (rest : List Char) : Piece → Prop where
  | text {body : List Char} (hbody : body ≠ []) (hplain : Unbroken (opensHere · = true) body rest)
      (hrest : rest = [] ∨ opensHere rest = true) : Fits rest (text body)
  | comment {body : List Char}
      (hbody : Unbroken (breaksComment · = true) body ('#' :: '\x7d' :: rest)) :
      Fits rest (comment body)
  | verbatim {opening closing : Mark} {lead body trail : List Char} (hopening : opening.Proper)
      (hlead : Gap opening.trimsAfter lead
        (body ++ (closing.source endVerbatimWord ++ (trail ++ rest))))
      (hbody : Unbroken (closesVerbatim · = true) body
        (closing.source endVerbatimWord ++ (trail ++ rest)))
      (hclosing : closing.Proper) (htrail : Gap closing.trimsAfter trail rest) :
      Fits rest (verbatim opening lead body closing trail)
  /-- The mark of a verbatim block is written like a tag, but is none. -/
  | tag {start : Part} {parts : List Part} (hgap : start.gap = [])
      (hstart : start.Stands (parts.flatMap Part.source ++ rest)) (hopening : Opening start.lexeme)
      (hparts : Tagged rest parts)
      (hmark : markerAt? verbatimWord
        (start.source ++ (parts.flatMap Part.source ++ rest)) = none) :
      Fits rest (tag start parts)

end Piece

/-- Every piece fits in front of those behind it. -/
def Layout : List Piece → Prop
  | [] => True
  | piece :: pieces => piece.Fits (pieces.flatMap Piece.source) ∧ Layout pieces

/-- The tokens of pieces that stand behind the text `before`. -/
def scanned (name : String) : (before : List Char) → List Piece → List Token
  | _, [] => []
  | before, piece :: pieces =>
    piece.tokens name before (pieces.flatMap Piece.source) ++
      scanned name (before ++ piece.source) pieces

variable {name : String} {p : Place} {trims : Bool} {s rest before body gap lead chars : List Char}
  {symbol : Symbol} {opening : Mark} {tokens : List Token} {n : Nat} {piece : Piece}
  {pieces : List Piece}

/-! ## Texts -/

theorem plain_eq (h : Unbroken (opensHere · = true) body rest)
    (hrest : rest = [] ∨ opensHere rest = true) :
    plain name p (body ++ rest) = (ofText name p (cut (trimsText rest) body), body.length) := by
  have hbody : runUntil opensHere [] (body ++ rest) = body := h.runUntil_eq hrest []
  unfold plain
  rw [hbody]
  dsimp only
  rw [List.drop_left]
  rfl

theorem opensHere_of_markerAt? {word : List Char} {m : Marker} (h : markerAt? word s = some m) :
    opensHere s = true := by
  obtain ⟨mark, rest, rfl, -, -⟩ := mark_of_markerAt? h
  rfl

theorem pieceAt_plain (h : opensHere s = false) :
    pieceAt name p s = .ok (plain name p s) := by
  have hmark : markerAt? verbatimWord s = none := by
    cases hmark : markerAt? verbatimWord s with
    | none => rfl
    | some m =>
      rw [opensHere_of_markerAt? hmark] at h
      cases h
  unfold pieceAt
  rw [hmark]
  dsimp only
  split
  all_goals first | rfl | cases h

/-! ## Comments -/

theorem drop_commentOpen (s : List Char) : (['\x7b', '#'] ++ s).drop 2 = s := rfl

theorem comment_eq (h : Unbroken (breaksComment · = true) body ('#' :: '\x7d' :: rest)) :
    comment name p (['\x7b', '#'] ++ (body ++ '#' :: '\x7d' :: rest)) =
      .ok ([], body.length + 4) := by
  have hrun : runUntil (fun t => t.head? == some '\n' || ['#', '\x7d'].isPrefixOf t) []
      (body ++ '#' :: '\x7d' :: rest) = body := h.runUntil_eq (.inr rfl) []
  unfold comment
  dsimp only
  rw [drop_commentOpen, hrun, List.drop_left]
  rfl

theorem exists_of_comment (h : comment name p (['\x7b', '#'] ++ s) = .ok (tokens, n)) :
    ∃ body rest, s = body ++ '#' :: '\x7d' :: rest ∧ tokens = [] ∧ n = body.length + 4 ∧
      Unbroken (breaksComment · = true) body ('#' :: '\x7d' :: rest) := by
  obtain ⟨body, rest, rfl, hbody, hrest⟩ := exists_unbroken breaksComment s
  have hrun : runUntil (fun t => t.head? == some '\n' || ['#', '\x7d'].isPrefixOf t) []
      (body ++ rest) = body := hbody.runUntil_eq hrest []
  unfold comment at h
  dsimp only at h
  rw [drop_commentOpen, hrun, List.drop_left] at h
  split at h
  next => cases h
  next => cases h
  next hend hline =>
    cases h
    have hbreaks := hrest.resolve_left hend
    unfold breaksComment at hbreaks
    obtain hhead | hclose := Bool.or_eq_true_iff.mp hbreaks
    · obtain ⟨tail, rfl⟩ := List.head?_eq_some_iff.mp (beq_iff_eq.mp hhead)
      exact absurd rfl (hline tail)
    · obtain ⟨rest, rfl⟩ := List.isPrefixOf_iff_prefix.mp hclose
      exact ⟨body, rest, rfl, rfl, rfl, hbody⟩

/-! ## Verbatim blocks -/

theorem Gap.length_eq (h : Gap trims gap rest) :
    (if trims then ((gap ++ rest).takeWhile isBlank).length else 0) = gap.length := by
  cases trims with
  | true =>
    rw [if_pos rfl, Run.takeWhile_eq h]
  | false =>
    rw [if_neg Bool.false_ne_true]
    cases h
    rfl

theorem exists_gap_of_trims (trims : Bool) (s : List Char) :
    ∃ gap rest, s = gap ++ rest ∧ Gap trims gap rest := by
  cases trims with
  | true => exact exists_run isBlank s
  | false => exact ⟨[], s, rfl, rfl⟩

theorem Mark.Proper.closesVerbatim_eq {m : Mark} (h : m.Proper) (rest : List Char) :
    closesVerbatim (m.source endVerbatimWord ++ rest) = true := by
  rw [closesVerbatim, h.closes]
  rfl

theorem pieceAt_verbatim {m : Marker} (hmark : markerAt? verbatimWord s = some m) :
    pieceAt name p s = verbatim name p m s := by
  unfold pieceAt
  rw [hmark]

/-- What the scanner reads of a verbatim block is in front of its closing mark. -/
theorem verbatim_eq (hlead : Gap opening.trimsAfter lead (body ++ rest))
    (hbody : Unbroken (closesVerbatim · = true) body rest)
    (hrest : rest = [] ∨ closesVerbatim rest = true) :
    verbatim name (.behind before)
        ⟨opening.trimsBefore, opening.trimsAfter, (opening.source verbatimWord).length⟩
        (opening.source verbatimWord ++ (lead ++ (body ++ rest))) =
      (markerAt? endVerbatimWord rest).elim (refuse name (.behind before) .unclosedVerbatim)
        fun close =>
          .ok (ofText name (.behind (before ++ (opening.source verbatimWord ++ lead)))
              (cut close.trimsBefore body),
            (opening.source verbatimWord).length + lead.length + body.length + close.length +
              (if close.trimsAfter then ((rest.drop close.length).takeWhile isBlank).length
                else 0)) := by
  have hrun : runUntil (fun t => (markerAt? endVerbatimWord t).isSome) [] (body ++ rest) = body :=
    hbody.runUntil_eq hrest []
  have hdrop : (lead ++ (body ++ rest)).drop (lead.length + body.length) = rest := by
    rw [← List.append_assoc]
    exact List.drop_left' List.length_append
  have htake : (opening.source verbatimWord ++ (lead ++ (body ++ rest))).take
      ((opening.source verbatimWord).length + lead.length) =
        opening.source verbatimWord ++ lead := by
    rw [← List.append_assoc]
    exact List.take_left' List.length_append
  unfold verbatim
  dsimp only
  rw [List.drop_left, hlead.length_eq, List.drop_left, hrun, hdrop, htake, Place.after_behind]
  cases markerAt? endVerbatimWord rest with
  | none => rfl
  | some close => rfl

/-! ## Tags -/

theorem three_of_opens : ∀ e ∈ spellings, e.2.1.opens = true →
    e = (['\x7b', '\x7b', '-'], .openOutput, true) ∨ e = (['\x7b', '%', '-'], .openTag, true) ∨
      e = (['\x7b', '\x7b'], .openOutput, false) ∨ e = (['\x7b', '%'], .openTag, false) := by
  decide +kernel

/-- What the scanner reads at the spelling of an opening is a tag. -/
theorem pieceAt_tag (hmark : markerAt? verbatimWord s = none)
    (hsymbol : symbolAt? s = some (chars, symbol, trims)) (hopens : symbol.opens = true) :
    pieceAt name p s = tag name p chars symbol trims s := by
  obtain ⟨hspelling, ⟨rest, rfl⟩, hlongest⟩ := symbolAt?_eq_some_iff.mp hsymbol
  unfold pieceAt
  rw [hmark]
  obtain h | h | h | h := three_of_opens _ hspelling hopens
  · cases h
    rfl
  · cases h
    rfl
  · cases h
    have hdash (t : List Char) : rest ≠ '-' :: t := by
      rintro rfl
      have hlonger := hlongest (['\x7b', '\x7b', '-'], .openOutput, true) (by decide) ⟨t, rfl⟩
      exact absurd hlonger (by decide)
    dsimp only
    split
    next heq => cases heq
    next t heq => exact absurd (List.cons.inj (List.cons.inj heq).2).2 (hdash t)
    next heq => cases heq
    next => rfl
    next heq => cases heq
    next h _ => exact absurd rfl (h rest)
  · cases h
    have hdash (t : List Char) : rest ≠ '-' :: t := by
      rintro rfl
      have hlonger := hlongest (['\x7b', '%', '-'], .openTag, true) (by decide) ⟨t, rfl⟩
      exact absurd hlonger (by decide)
    dsimp only
    split
    next heq => cases heq
    next heq => cases heq
    next t heq => exact absurd (List.cons.inj (List.cons.inj heq).2).2 (hdash t)
    next heq => cases heq
    next => rfl
    next h => exact absurd rfl (h rest)

theorem pieceAt_tagged {parts : List Part} (hparts : Tagged rest parts)
    (hsymbol : symbolAt? (chars ++ (parts.flatMap Part.source ++ rest)) =
      some (chars, symbol, trims)) (hopens : symbol.opens = true)
    (hmark : markerAt? verbatimWord (chars ++ (parts.flatMap Part.source ++ rest)) = none) :
    pieceAt name (.behind before) (chars ++ (parts.flatMap Part.source ++ rest)) =
      .ok (⟨.symbol symbol, .of name (.behind before), trims⟩ ::
          Part.tokens name (before ++ chars) parts,
        chars.length + (parts.flatMap Part.source).length) := by
  rw [pieceAt_tag hmark hsymbol hopens, tag, List.drop_left, Place.after_behind, hparts.tagRest_eq]
  rfl

theorem opens_of_prefix : ∀ e ∈ spellings,
    ['\x7b', '\x7b'] <+: e.1 ∨ ['\x7b', '%'] <+: e.1 → e.2.1.opens = true := by
  decide +kernel

theorem exists_opening (hchars : chars = ['\x7b', '\x7b'] ∨ chars = ['\x7b', '%']) (t : List Char) :
    ∃ opening symbol trims,
      symbolAt? (chars ++ t) = some (opening, symbol, trims) ∧ symbol.opens = true := by
  have hspelling : ∃ symbol, (chars, symbol, false) ∈ spellings := by
    obtain rfl | rfl := hchars
    · exact ⟨.openOutput, by decide⟩
    · exact ⟨.openTag, by decide⟩
  obtain ⟨symbol, hspelling⟩ := hspelling
  cases hfound : symbolAt? (chars ++ t) with
  | none =>
    have hnot := List.find?_eq_none.mp hfound _ hspelling
    exact absurd (List.isPrefixOf_iff_prefix.mpr (List.prefix_append chars t)) hnot
  | some e =>
    obtain ⟨hmem, hleads, hlongest⟩ := symbolAt?_eq_some_iff.mp hfound
    have hlonger := hlongest _ hspelling (List.prefix_append chars t)
    have hbegins := List.prefix_of_prefix_length_le (List.prefix_append chars t) hleads hlonger
    refine ⟨e.1, e.2.1, e.2.2, rfl, opens_of_prefix e hmem ?_⟩
    obtain rfl | rfl := hchars
    · exact .inl hbegins
    · exact .inr hbegins

/-- Where something begins, there is a comment or the spelling of an opening. -/
theorem exists_of_opensHere (h : opensHere s = true) :
    (∃ t, s = ['\x7b', '#'] ++ t) ∨
      ∃ chars symbol trims, symbolAt? s = some (chars, symbol, trims) ∧ symbol.opens = true := by
  unfold opensHere at h
  split at h
  next t => exact .inl ⟨t, rfl⟩
  next t => exact .inr (exists_opening (.inr rfl) t)
  next t => exact .inr (exists_opening (.inl rfl) t)
  next => cases h

/-! ## Pieces -/

/-- A piece that fits is read. -/
theorem Piece.Fits.pieceAt_eq (h : piece.Fits rest) :
    pieceAt name (.behind before) (piece.source ++ rest) =
      .ok (piece.tokens name before rest, piece.source.length) := by
  cases h with
  | @text body hbody hplain hrest =>
    have hopens : opensHere (body ++ rest) = false := by
      cases body with
      | nil => exact absurd rfl hbody
      | cons c body => exact Bool.eq_false_iff.mpr hplain.1
    rw [Piece.source, pieceAt_plain hopens, plain_eq hplain hrest]
    rfl
  | @comment body hbody =>
    rw [Piece.source, List.append_assoc, List.append_assoc]
    refine (comment_eq hbody).trans ?_
    rw [List.length_append, List.length_append, Piece.tokens]
    congr 2
    simp only [List.length_cons, List.length_nil]
    omega
  | @verbatim opening closing lead body trail hopening hlead hbody hclosing htrail =>
    have hmark := hopening.opens
      (lead ++ (body ++ (closing.source endVerbatimWord ++ (trail ++ rest))))
    rw [Piece.source, List.append_assoc, List.append_assoc, List.append_assoc, List.append_assoc,
      pieceAt_verbatim hmark]
    refine (verbatim_eq hlead hbody (.inr (hclosing.closesVerbatim_eq _))).trans ?_
    rw [hclosing.closes]
    dsimp only [Option.elim_some]
    rw [List.drop_left, htrail.length_eq]
    simp only [Piece.tokens, List.length_append]
    congr 2
    omega
  | @tag start parts hgap hstart hopening hparts hmark =>
    obtain ⟨gap, lexeme, trims, chars⟩ := start
    obtain rfl : gap = [] := hgap
    cases lexeme with
    | text | keyword | identifier | string | number => exact hopening.elim
    | symbol symbol =>
      rw [Piece.source, List.append_assoc, List.length_append]
      refine (pieceAt_tagged hparts (spells_symbol_iff.mp hstart.spells) hopening hmark).trans ?_
      simp only [Piece.tokens, Part.token, Part.source, List.append_nil, List.nil_append]

/-- The tokens are those of a piece that the source starts with, and `n` is its length. -/
def FitsAt (name : String) (before s : List Char) (tokens : List Token) (n : Nat) : Prop :=
  ∃ (piece : Piece) (rest : List Char), s = piece.source ++ rest ∧ n = piece.source.length ∧
    piece.Fits rest ∧ tokens = piece.tokens name before rest

section Read

variable (h : pieceAt name (.behind before) s = .ok (tokens, n))
include h

theorem fitsAt_verbatim {m : Marker} (hmark : markerAt? verbatimWord s = some m) :
    FitsAt name before s tokens n := by
  obtain ⟨opening, s, rfl, hopening, rfl⟩ := mark_of_markerAt? hmark
  obtain ⟨lead, s, rfl, hlead⟩ := exists_gap_of_trims opening.trimsAfter s
  obtain ⟨body, s, rfl, hbody, hend⟩ := exists_unbroken closesVerbatim s
  rw [pieceAt_verbatim hmark, verbatim_eq hlead hbody hend] at h
  cases hclose : markerAt? endVerbatimWord s with
  | none =>
    rw [hclose] at h
    cases h
  | some m =>
    obtain ⟨closing, s, rfl, hclosing, rfl⟩ := mark_of_markerAt? hclose
    obtain ⟨trail, rest, rfl, htrail⟩ := exists_gap_of_trims closing.trimsAfter s
    rw [hclose] at h
    cases h
    refine ⟨.verbatim opening lead body closing trail, rest, ?_, ?_,
      .verbatim hopening hlead hbody hclosing htrail, rfl⟩
    · simp only [Piece.source, List.append_assoc]
    · rw [List.drop_left, htrail.length_eq]
      simp only [Piece.source, List.length_append]
      omega

theorem fitsAt_text (hopens : opensHere s = false) (hs : s ≠ []) :
    FitsAt name before s tokens n := by
  obtain ⟨body, rest, rfl, hbody, hrest⟩ := exists_unbroken opensHere s
  rw [pieceAt_plain hopens, plain_eq hbody hrest] at h
  cases h
  refine ⟨.text body, rest, rfl, rfl, .text ?_ hbody hrest, rfl⟩
  rintro rfl
  obtain rfl | hrest := hrest
  · exact hs rfl
  · rw [List.nil_append, hrest] at hopens
    cases hopens

theorem fitsAt_tag (hmark : markerAt? verbatimWord s = none)
    (hsymbol : symbolAt? s = some (chars, symbol, trims)) (hopening : symbol.opens = true) :
    FitsAt name before s tokens n := by
  rw [pieceAt_tag hmark hsymbol hopening] at h
  obtain ⟨hspelling, ⟨s, rfl⟩, hlongest⟩ := symbolAt?_eq_some_iff.mp hsymbol
  rw [tag, List.drop_left, Place.after_behind] at h
  obtain ⟨⟨tokens, m⟩, hread, hv⟩ := ok_of_bind h
  cases hv
  obtain ⟨parts, rest, rfl, rfl, hparts, rfl⟩ := tagged_of_tagRest hread
  let start : Part := ⟨[], .symbol symbol, trims, chars⟩
  have hstart : start.Stands (parts.flatMap Part.source ++ rest) :=
    ⟨List.forall_mem_nil _, .symbol hspelling hlongest⟩
  refine ⟨.tag start parts, rest, ?_, ?_, .tag rfl hstart hopening hparts hmark, ?_⟩
  · rw [Piece.source, List.append_assoc]
    rfl
  · rw [Piece.source, List.length_append]
    rfl
  · simp only [Piece.tokens, Part.token, Part.source, start, List.append_nil, List.nil_append]

/-- What is read is a piece that fits. -/
theorem fits_of_pieceAt (hs : s ≠ []) : FitsAt name before s tokens n := by
  cases hmark : markerAt? verbatimWord s with
  | some m => exact fitsAt_verbatim h hmark
  | none =>
    cases hopens : opensHere s with
    | false => exact fitsAt_text h hopens hs
    | true =>
      obtain ⟨t, rfl⟩ | ⟨chars, symbol, trims, hsymbol, hopening⟩ := exists_of_opensHere hopens
      · have hread : comment name (.behind before) (['\x7b', '#'] ++ t) = .ok (tokens, n) := h
        obtain ⟨body, rest, rfl, rfl, rfl, hbody⟩ := exists_of_comment hread
        refine ⟨.comment body, rest, ?_, ?_, .comment hbody, rfl⟩
        · simp only [Piece.source, List.append_assoc]
          rfl
        · simp only [Piece.source, List.length_append, List.length_cons, List.length_nil]
          omega
      · exact fitsAt_tag h hmark hsymbol hopening

end Read

theorem Piece.Fits.source_ne_nil (h : piece.Fits rest) : piece.source ≠ [] := by
  cases h with
  | text hbody => exact hbody
  | comment => exact nofun
  | verbatim => exact nofun
  | tag hgap hstart =>
    obtain ⟨c, cs, hchars, -⟩ := hstart.spells.exists_cons
    rw [Piece.source, Part.source, hchars]
    simp

/-! ## Templates -/

/-- The scanner goes on behind the piece that it read. -/
theorem scanFrom_append {w : List Char} (hw : w ≠ [])
    (h : pieceAt name (.behind before) (w ++ rest) = .ok (tokens, w.length)) :
    scanFrom name (.behind before) (w ++ rest) =
      scanFrom name (.behind (before ++ w)) rest >>= fun ts => pure (tokens ++ ts) := by
  cases w with
  | nil => exact absurd rfl hw
  | cons c w =>
    have hread : pieceAt name (.behind before) (c :: (w ++ rest)) = .ok (tokens, w.length + 1) := h
    rw [List.cons_append, scanFrom, hread]
    change scanFrom name _ _ >>= (fun ts => pure (tokens ++ ts)) = _
    rw [Nat.add_sub_cancel, List.take_left, List.drop_left, Place.after_behind]

/-- The scanner accepts what has a layout. -/
theorem scanFrom_of_layout (h : Layout pieces) (name : String) (before : List Char) :
    scanFrom name (.behind before) (pieces.flatMap Piece.source) =
      .ok (scanned name before pieces) := by
  induction pieces generalizing before with
  | nil =>
    rw [List.flatMap_nil, scanFrom]
    rfl
  | cons piece pieces ih =>
    rw [List.flatMap_cons, scanFrom_append h.1.source_ne_nil h.1.pieceAt_eq, ih h.2]
    rfl

/-- What the scanner accepts has a layout. -/
theorem layout_of_scanFrom {s : List Char} {ts : List Token}
    (h : scanFrom name (.behind before) s = .ok ts) :
    ∃ pieces, Layout pieces ∧ pieces.flatMap Piece.source = s ∧
      ts = scanned name before pieces := by
  induction hlength : s.length using Nat.strongRecOn generalizing s before ts with
  | ind length ih =>
  subst hlength
  by_cases hs : s = []
  · subst hs
    rw [scanFrom] at h
    cases h
    exact ⟨[], trivial, rfl, rfl⟩
  · have hpiece : ∃ read, pieceAt name (.behind before) s = .ok read := by
      obtain ⟨c, s, rfl⟩ := List.exists_cons_of_ne_nil hs
      rw [scanFrom] at h
      obtain ⟨read, hread, -⟩ := ok_of_bind h
      exact ⟨read, hread⟩
    obtain ⟨⟨tokens, n⟩, hread⟩ := hpiece
    obtain ⟨piece, rest, rfl, rfl, hfits, rfl⟩ := fits_of_pieceAt hread hs
    rw [scanFrom_append hfits.source_ne_nil hread] at h
    obtain ⟨ts, hrest, hv⟩ := ok_of_bind h
    cases hv
    have hshorter : rest.length < (piece.source ++ rest).length := by
      have hpositive := List.length_pos_iff.mpr hfits.source_ne_nil
      rw [List.length_append]
      omega
    obtain ⟨pieces, hlayout, rfl, rfl⟩ := ih _ hshorter hrest rfl
    exact ⟨piece :: pieces, ⟨hfits, hlayout⟩, List.flatMap_cons, rfl⟩

end Stencil.Token
