import Stencil.Proofs.Scanning.Places
import Stencil.Proofs.Scanning.Unique

/-!
# One text of a template

Where a source is read up to some place as whole pieces, the tokens in front of the place and those
behind it are told apart. What trimming takes from a text between them depends on the two tokens
beside it alone, also if the text is the content of a verbatim block (`verbatim_excerpt`).
-/

namespace Stencil

open Stencil.Text

/-! ## Trimming between two tokens -/

namespace Trimming

variable {o : Trimming} {before behind : Option Token} {t u : Token} {ts us : List Token}
  {w : List Char}

/-- The tokens with their texts trimmed; `before` and `behind` are the tokens beside them. -/
def settleIn (o : Trimming) (behind : Option Token) : (before : Option Token) → List Token →
    List Token
  | _, [] => []
  | before, t :: ts => o.settleOne before t (ts.head?.or behind) ++ settleIn o behind (some t) ts

theorem settle_eq_settleIn (o : Trimming) (before : Option Token) (ts : List Token) :
    o.settle before ts = o.settleIn none before ts := by
  induction ts generalizing before with
  | nil => rfl
  | cons t ts ih => rw [settle, settleIn, ih, Option.or_none]

theorem settleIn_append (o : Trimming) (before behind : Option Token) (ts us : List Token) :
    o.settleIn behind before (ts ++ us) =
      o.settleIn (us.head?.or behind) before ts ++
        o.settleIn behind (ts.getLast?.or before) us := by
  induction ts generalizing before with
  | nil => rfl
  | cons t ts ih =>
    rw [List.cons_append, settleIn, settleIn, ih, List.head?_append, Option.or_assoc,
      List.append_assoc, List.getLast?_cons]
    cases ts.getLast? <;> rfl

theorem settleOne_of_not_text (ht : t.text? = none) : o.settleOne before t behind = [t] := by
  obtain ⟨lexeme, position, trims⟩ := t
  cases lexeme with
  | text s => cases ht
  | keyword | identifier | string | number | symbol => rfl

/-- Trimming leaves the tokens of a tag as they are. -/
theorem settleIn_append_of_not_text (h : ∀ t ∈ ts, t.text? = none) (before : Option Token) :
    o.settleIn behind before (ts ++ us) =
      ts ++ o.settleIn behind (ts.getLast?.or before) us := by
  induction ts generalizing before with
  | nil => rfl
  | cons t ts ih =>
    obtain ⟨ht, hts⟩ := List.forall_mem_cons.mp h
    rw [List.cons_append, settleIn, settleOne_of_not_text ht, ih hts, List.getLast?_cons]
    cases ts.getLast? <;> rfl
theorem settleOne_text (o : Trimming) (before behind : Option Token) (name : String) (p : Place)
    (w : List Char) :
    o.settleOne before ⟨.text (String.ofList w), .of name p, false⟩ behind =
      Token.ofText name p (o.beforeOpen p.column behind (o.afterClose before w)) := by
  show (if _ then _ else _) = _
  rw [String.toList_ofList]
  rfl

/-- Trimming moves no token. -/
theorem exists_of_mem_settleIn (hu : u ∈ o.settleIn behind before ts) :
    ∃ t ∈ ts, u.position = t.position := by
  induction ts generalizing before with
  | nil => cases hu
  | cons t ts ih =>
    rw [settleIn] at hu
    obtain hu | hu := List.mem_append.mp hu
    · refine ⟨t, List.mem_cons_self, ?_⟩
      unfold settleOne at hu
      split at hu
      · dsimp only at hu
        split at hu
        · cases hu
        · rw [List.mem_singleton.mp hu]
      · rw [List.mem_singleton.mp hu]
    · obtain ⟨v, hv, hposition⟩ := ih hu
      exact ⟨v, List.mem_cons_of_mem t hv, hposition⟩

/-- The last token stays the last one if it is no text. -/
theorem getLast?_settleIn (ht : ts.getLast? = some t) (htext : t.text? = none) :
    (o.settleIn behind before ts).getLast? = some t := by
  obtain ⟨us, rfl⟩ := List.getLast?_eq_some_iff.mp ht
  rw [settleIn_append, settleIn, settleIn, settleOne_of_not_text htext, List.append_nil,
    List.getLast?_concat]

/-- The first token stays the first one if it is no text. -/
theorem head?_settleIn (ht : ts.head? = some t) (htext : t.text? = none) :
    (o.settleIn behind before ts).head? = some t := by
  obtain ⟨us, rfl⟩ := List.head?_eq_some_iff.mp ht
  rw [settleIn, settleOne_of_not_text htext]
  rfl

/-! ## What is taken from either end -/

/-- The token takes blanks from the beginning of the text behind it. -/
def TakesBehind (o : Trimming) (t : Token) : Prop :=
  t.closes = true ∧ t.trims = true ∨ o.trimBlocks = true ∧ t.isSymbol .closeTag = true

/-- The token takes blanks from the end of the text in front of it. -/
def TakesAhead (o : Trimming) (t : Token) : Prop :=
  (t.isSymbol .openOutput = true ∨ t.isSymbol .openTag = true) ∧ t.trims = true ∨
    o.lstripBlocks = true ∧ t.isSymbol .openTag = true

theorem text?_of_isSymbol {s : Symbol} (h : t.isSymbol s = true) : t.text? = none := by
  unfold Token.text?
  rw [beq_iff_eq.mp h]

theorem text?_of_takesBehind (h : o.TakesBehind t) : t.text? = none := by
  obtain ⟨hcloses, -⟩ | ⟨-, hsymbol⟩ := h
  · obtain ⟨lexeme, position, trims⟩ := t
    cases lexeme with
    | text s => cases hcloses
    | keyword | identifier | string | number | symbol => rfl
  · exact text?_of_isSymbol hsymbol

theorem text?_of_takesAhead (h : o.TakesAhead t) : t.text? = none := by
  obtain ⟨hsymbol | hsymbol, -⟩ | ⟨-, hsymbol⟩ := h
  all_goals exact text?_of_isSymbol hsymbol

theorem afterClose_split (o : Trimming) (before : Option Token) (w : List Char) :
    ∃ front, w = front ++ o.afterClose before w ∧ Blank front ∧
      (front ≠ [] → ∃ t, before = some t ∧ o.TakesBehind t) := by
  cases before with
  | none => exact ⟨[], rfl, blank_nil, fun h => absurd rfl h⟩
  | some t =>
    unfold afterClose
    dsimp only
    by_cases htrims : (t.trims && t.closes) = true
    · rw [if_pos htrims]
      obtain ⟨htrims, hcloses⟩ := Bool.and_eq_true_iff.mp htrims
      have htakes : o.TakesBehind t := .inl ⟨hcloses, htrims⟩
      obtain ⟨front, hfront, hblank⟩ := trimStart_split w
      split
      · obtain ⟨more, hmore, hblank'⟩ := dropLineBreak_split (trimStart w)
        refine ⟨front ++ more, ?_, hblank.append hblank', fun _ => ⟨t, rfl, htakes⟩⟩
        rw [List.append_assoc, ← hmore]
        exact hfront
      · exact ⟨front, hfront, hblank, fun _ => ⟨t, rfl, htakes⟩⟩
    · rw [if_neg htrims]
      split
      next hbreak =>
        obtain ⟨front, hfront, hblank⟩ := dropLineBreak_split w
        exact ⟨front, hfront, hblank, fun _ => ⟨t, rfl, .inr (Bool.and_eq_true_iff.mp hbreak)⟩⟩
      next => exact ⟨[], rfl, blank_nil, fun h => absurd rfl h⟩

theorem beforeOpen_split (o : Trimming) (column : Nat) (behind : Option Token) (w : List Char) :
    ∃ back, w = o.beforeOpen column behind w ++ back ∧ Blank back ∧
      (back ≠ [] → ∃ t, behind = some t ∧ o.TakesAhead t) := by
  cases behind with
  | none => exact ⟨[], (List.append_nil w).symm, blank_nil, fun h => absurd rfl h⟩
  | some t =>
    unfold beforeOpen
    dsimp only
    by_cases htrims : (t.trims && (t.isSymbol .openOutput || t.isSymbol .openTag)) = true
    · rw [if_pos htrims]
      obtain ⟨htrims, hopens⟩ := Bool.and_eq_true_iff.mp htrims
      have htakes : o.TakesAhead t := .inl ⟨Bool.or_eq_true_iff.mp hopens, htrims⟩
      obtain ⟨back, hback, hblank⟩ := trimEnd_split w
      split
      · obtain ⟨more, hmore, hblank'⟩ := dropIndent_split (column == 1) (trimEnd w)
        refine ⟨more ++ back, ?_, hblank'.append hblank, fun _ => ⟨t, rfl, htakes⟩⟩
        rw [← List.append_assoc, ← hmore]
        exact hback
      · exact ⟨back, hback, hblank, fun _ => ⟨t, rfl, htakes⟩⟩
    · rw [if_neg htrims]
      split
      next hindent =>
        obtain ⟨back, hback, hblank⟩ := dropIndent_split (column == 1) w
        exact ⟨back, hback, hblank, fun _ => ⟨t, rfl, .inr (Bool.and_eq_true_iff.mp hindent)⟩⟩
      next => exact ⟨[], (List.append_nil w).symm, blank_nil, fun h => absurd rfl h⟩

end Trimming

namespace Token

variable {name : String} {rest before passed body : List Char} {piece : Piece}
  {ps qs pieces : List Piece} {t : Token}

/-! ## Whole pieces -/

/-- The pieces are a layout of what they are written as in front of `rest`. -/
def LaysOut (rest : List Char) : List Piece → Prop
  | [] => True
  | piece :: pieces => piece.Fits (pieces.flatMap Piece.source ++ rest) ∧ LaysOut rest pieces

theorem layout_append : Layout (ps ++ qs) ↔ LaysOut (qs.flatMap Piece.source) ps ∧ Layout qs := by
  induction ps with
  | nil => simp [LaysOut]
  | cons piece ps ih => simp [Layout, LaysOut, ih, and_assoc]

/-- Every layout of a source goes on behind pieces that its beginning is read as. -/
theorem LaysOut.exists_append (h : LaysOut rest ps) (hqs : Layout qs)
    (heq : qs.flatMap Piece.source = ps.flatMap Piece.source ++ rest) :
    ∃ qs', qs = ps ++ qs' ∧ qs'.flatMap Piece.source = rest := by
  induction ps generalizing qs with
  | nil => exact ⟨qs, rfl, heq⟩
  | cons piece ps ih =>
    rw [List.flatMap_cons, List.append_assoc] at heq
    cases qs with
    | nil => exact absurd (List.append_eq_nil_iff.mp heq.symm).1 h.1.source_ne_nil
    | cons piece' qs =>
      obtain ⟨rfl, hbehind⟩ := hqs.1.unique h.1 heq
      obtain ⟨qs', rfl, hrest⟩ := ih h.2 hqs.2 hbehind
      exact ⟨qs', rfl, hrest⟩

/-- The tokens of pieces that stand between the text `before` and the text `rest`. -/
def scannedIn (name : String) (rest : List Char) : (before : List Char) → List Piece → List Token
  | _, [] => []
  | before, piece :: pieces =>
    piece.tokens name before (pieces.flatMap Piece.source ++ rest) ++
      scannedIn name rest (before ++ piece.source) pieces

theorem scanned_append (name : String) (before : List Char) (ps qs : List Piece) :
    scanned name before (ps ++ qs) = scannedIn name (qs.flatMap Piece.source) before ps ++
      scanned name (before ++ ps.flatMap Piece.source) qs := by
  induction ps generalizing before with
  | nil => simp [scannedIn]
  | cons piece ps ih => simp [scanned, scannedIn, ih, List.append_assoc]

/-! ## The characters of tokens -/

/-- The token stands at a character of the text `s`, in front of which there is `before`. -/
def StandsIn (name : String) (before s : List Char) (t : Token) : Prop :=
  ∃ passed c rest, s = passed ++ c :: rest ∧ t.position = .of name (.behind (before ++ passed))

theorem StandsIn.append_right {s : List Char} (h : t.StandsIn name before s) (w : List Char) :
    t.StandsIn name before (s ++ w) := by
  obtain ⟨passed, c, rest, rfl, ht⟩ := h
  exact ⟨passed, c, rest ++ w, by rw [List.append_assoc, List.cons_append], ht⟩

theorem StandsIn.append_left {w s : List Char} (h : t.StandsIn name (before ++ w) s) :
    t.StandsIn name before (w ++ s) := by
  obtain ⟨passed, c, rest, rfl, ht⟩ := h
  refine ⟨w ++ passed, c, rest, by rw [List.append_assoc], ?_⟩
  rw [ht, List.append_assoc]

theorem standsIn_ofText {s w : List Char} (hs : s ≠ []) :
    ∀ t ∈ ofText name (.behind before) w, t.StandsIn name before s := by
  intro t ht
  unfold ofText at ht
  split at ht
  · cases ht
  · obtain ⟨c, s, rfl⟩ := List.exists_cons_of_ne_nil hs
    rw [List.mem_singleton.mp ht]
    exact ⟨[], c, s, rfl, by rw [List.append_nil]⟩

theorem Part.Stands.standsIn {part : Part} (h : part.Stands rest) (name : String)
    (before : List Char) : (part.token name before).StandsIn name before part.source := by
  obtain ⟨c, cs, hchars, -⟩ := h.spells.exists_cons
  exact ⟨part.gap, c, cs, by rw [Part.source, hchars], rfl⟩

theorem Tagged.standsIn {parts : List Part} (h : Tagged rest parts) (name : String)
    (before : List Char) :
    ∀ t ∈ Part.tokens name before parts, t.StandsIn name before (parts.flatMap Part.source) := by
  induction h generalizing before with
  | close hpart =>
    rw [List.flatMap_singleton]
    exact List.forall_mem_singleton.mpr (hpart.standsIn name before)
  | cons hpart hopening hclosing h ih =>
    rw [List.flatMap_cons]
    exact List.forall_mem_cons.mpr ⟨(hpart.standsIn name before).append_right _,
      fun t ht => (ih _ t ht).append_left⟩

theorem Piece.Fits.standsIn (h : piece.Fits rest) (name : String) (before : List Char) :
    ∀ t ∈ piece.tokens name before rest, t.StandsIn name before piece.source := by
  cases h with
  | text hbody => exact standsIn_ofText hbody
  | comment => exact List.forall_mem_nil _
  | @verbatim opening closing lead body trail =>
    have hne : body ++ (closing.source endVerbatimWord ++ trail) ≠ [] := by
      intro h
      cases (List.append_eq_nil_iff.mp (List.append_eq_nil_iff.mp h).2).1
    intro t ht
    rw [Piece.source, ← List.append_assoc]
    exact (standsIn_ofText hne t ht).append_left
  | tag hgap hstart hopening hparts =>
    exact List.forall_mem_cons.mpr ⟨(hstart.standsIn name before).append_right _,
      fun t ht => (hparts.standsIn name _ t ht).append_left⟩

theorem LaysOut.standsIn (h : LaysOut rest ps) (name : String) (before : List Char) :
    ∀ t ∈ scannedIn name rest before ps, t.StandsIn name before (ps.flatMap Piece.source) := by
  induction ps generalizing before with
  | nil => exact List.forall_mem_nil _
  | cons piece ps ih =>
    rw [List.flatMap_cons]
    refine List.forall_mem_append.mpr ⟨fun t ht => ?_, fun t ht => ?_⟩
    · exact (h.1.standsIn name before t ht).append_right _
    · exact (ih h.2 _ t ht).append_left

theorem Layout.standsIn (h : Layout pieces) (name : String) (before : List Char) :
    ∀ t ∈ scanned name before pieces, t.StandsIn name before (pieces.flatMap Piece.source) := by
  intro t ht
  obtain ⟨passed, c, rest, hsplit, hposition, -⟩ := (h.follow name before).exists_place t ht
  exact ⟨passed, c, rest, hsplit, hposition⟩

/-! ## Excerpts -/

/-- Of the text `body`, which stands behind `passed` and in front of `rest`, the tokens hold `kept`
and nothing else. What is missing at its two ends is blank. -/
structure Excerpt (name : String) (passed body rest : List Char) (ts before behind : List Token)
    (front kept back : List Char) : Prop where
  tokens_eq : ts = before ++ (ofText name (.behind passed) kept ++ behind)
  before_stands : ∀ t ∈ before, t.StandsIn name [] passed
  behind_stands : ∀ t ∈ behind, t.StandsIn name (passed ++ body) rest
  body_eq : body = front ++ (kept ++ back)
  front_blank : Blank front
  back_blank : Blank back

theorem ofText_of_ne_nil {p : Place} {w : List Char} (hw : w ≠ []) :
    ofText name p w = [⟨.text (String.ofList w), .of name p, false⟩] := by
  cases w with
  | nil => exact absurd rfl hw
  | cons c w => rfl

theorem settle_between (o : Trimming) (name : String) (p : Place) (w : List Char)
    (ts us : List Token) :
    ∃ behind before, o.settle none (ts ++ (ofText name p w ++ us)) =
      o.settleIn behind none ts ++
        (ofText name p (o.beforeOpen p.column us.head? (o.afterClose ts.getLast? w)) ++
          o.settleIn none before us) := by
  rw [Trimming.settle_eq_settleIn, Trimming.settleIn_append, Trimming.settleIn_append,
    Option.or_none]
  refine ⟨_, _, congrArg _ (congrArg (· ++ _) ?_)⟩
  by_cases hw : w = []
  · subst hw
    have hnil : o.beforeOpen p.column us.head? (o.afterClose ts.getLast? []) = [] := by
      obtain ⟨front, hfront, -⟩ := o.afterClose_split ts.getLast? []
      rw [(List.append_eq_nil_iff.mp hfront.symm).2]
      obtain ⟨back, hback, -⟩ := o.beforeOpen_split p.column us.head? []
      exact (List.append_eq_nil_iff.mp hback.symm).1
    rw [hnil]
    rfl
  · rw [ofText_of_ne_nil hw, Trimming.settleIn, Trimming.settleIn, List.append_nil,
      Trimming.settleOne_text o _ _ name p w]
    simp

/-- A text of which the scanner keeps `w` is trimmed by the tokens beside it. -/
theorem exists_excerpt (o : Trimming) {ts us : List Token} {w dropped : List Char}
    (hts : ∀ t ∈ ts, t.StandsIn name [] passed)
    (hus : ∀ t ∈ us, t.StandsIn name (passed ++ (w ++ dropped)) rest) (hdropped : Blank dropped) :
    ∃ before behind front back,
      Excerpt name passed (w ++ dropped) rest
        (o.settle none (ts ++ (ofText name (.behind passed) w ++ us))) before behind front
        (o.beforeOpen (Place.behind passed).column us.head? (o.afterClose ts.getLast? w))
        (back ++ dropped) ∧
      w = front ++ o.afterClose ts.getLast? w ∧
      (front ≠ [] → ∃ t, before.getLast? = some t ∧ ts.getLast? = some t ∧ o.TakesBehind t) ∧
      (back ≠ [] → ∃ t, behind.head? = some t ∧ us.head? = some t ∧ o.TakesAhead t) := by
  obtain ⟨next, last, hsettle⟩ := settle_between o name (.behind passed) w ts us
  obtain ⟨front, hfront, hfrontBlank, hbefore⟩ := o.afterClose_split ts.getLast? w
  obtain ⟨back, hback, hbackBlank, hbehind⟩ := o.beforeOpen_split (Place.behind passed).column
    us.head? (o.afterClose ts.getLast? w)
  refine ⟨_, _, front, back, ⟨hsettle, ?_, ?_, ?_, hfrontBlank, hbackBlank.append hdropped⟩, hfront,
    ?_, ?_⟩
  · intro t ht
    obtain ⟨u, hu, hposition⟩ := Trimming.exists_of_mem_settleIn ht
    obtain ⟨passed', c, rest', hsplit, hstands⟩ := hts u hu
    exact ⟨passed', c, rest', hsplit, hposition.trans hstands⟩
  · intro t ht
    obtain ⟨u, hu, hposition⟩ := Trimming.exists_of_mem_settleIn ht
    obtain ⟨passed', c, rest', hsplit, hstands⟩ := hus u hu
    exact ⟨passed', c, rest', hsplit, hposition.trans hstands⟩
  · have hw := hfront.trans (congrArg (front ++ ·) hback)
    refine (congrArg (· ++ dropped) hw).trans ?_
    simp only [List.append_assoc]
  · intro hne
    obtain ⟨t, ht, htakes⟩ := hbefore hne
    exact ⟨t, Trimming.getLast?_settleIn ht (Trimming.text?_of_takesBehind htakes), ht, htakes⟩
  · intro hne
    obtain ⟨t, ht, htakes⟩ := hbehind hne
    exact ⟨t, Trimming.head?_settleIn ht (Trimming.text?_of_takesAhead htakes), ht, htakes⟩

end Token

end Stencil

/-!
## The content of verbatim blocks

The scanner takes the content of a verbatim block as it is. Trimming comes later and does not know
it from other texts: a tag right beside the block takes from it what it takes from any text, and
nothing else is ever missing.
-/

namespace Stencil.Token

open Stencil.Text

/-- If `rest` stands behind `passed`, the scanner is outside of tags, comments and verbatim blocks
when it comes there. -/
def TextMode (passed rest : List Char) : Prop :=
  ∃ pieces, pieces.flatMap Piece.source = passed ∧ LaysOut rest pieces

/-- A mark is written without trim marks. -/
structure Mark.Bare (m : Mark) : Prop where
  proper : m.Proper
  before : m.trimsBefore = false
  after : m.trimsAfter = false

variable {rest body passed : List Char} {m opening closing : Mark} {o : Trimming}
  {name source : String} {ts : List Token}

/-! ### Where the content ends -/

/-- A brace stands in a mark at its beginning only. -/
theorem Mark.Proper.exists_cons (h : m.Proper) :
    ∃ chars, m.source endVerbatimWord = '\x7b' :: chars ∧ '\x7b' ∉ chars := by
  refine ⟨_, rfl, ?_⟩
  have hdashes (trims : Bool) : '\x7b' ∉ dashes trims := by cases trims <;> decide
  have hblank {gap : List Char} (hgap : ∀ c ∈ gap, isBlank c = true) : '\x7b' ∉ gap :=
    fun hmem => absurd (hgap _ hmem) (by decide)
  have hword : '\x7b' ∉ endVerbatimWord := by decide
  simp [hdashes, hblank h.lead, hblank h.trail, hword]

/-- A mark that begins in a text and one that stands behind the text do not overlap. -/
theorem closesVerbatim_append {c : Char} {s : List Char} (hclosing : closing.Proper)
    (h : closesVerbatim (c :: s ++ (closing.source endVerbatimWord ++ rest)) = true) :
    closesVerbatim (c :: s) = true := by
  obtain ⟨marker, hmarker⟩ := Option.isSome_iff_exists.mp h
  obtain ⟨m, behind, heq, hm, -⟩ := mark_of_markerAt? hmarker
  obtain ⟨chars, hchars, hbrace⟩ := hm.exists_cons
  obtain ⟨more, hmore, -⟩ := hclosing.exists_cons
  obtain ⟨a, hmark, ha⟩ | ⟨a, hs, -⟩ := List.append_eq_append_iff.mp heq
  · cases a with
    | nil =>
      rw [List.append_nil] at hmark
      have hcloses := hm.closesVerbatim_eq []
      rwa [List.append_nil, hmark] at hcloses
    | cons d a =>
      -- the brace of the mark behind the text would stand inside of the mark
      rw [hmore, List.cons_append, List.cons_append] at ha
      obtain rfl := (List.cons.inj ha).1
      rw [hchars, List.cons_append] at hmark
      obtain rfl := (List.cons.inj hmark).2
      exact absurd (List.mem_append_right s List.mem_cons_self) hbrace
  · rw [hs]
    exact hm.closesVerbatim_eq a

/-- A text without a closing mark reaches up to the mark behind it. -/
theorem unbroken_closing (h : Unbroken (closesVerbatim · = true) body [])
    (hclosing : closing.Proper) (rest : List Char) :
    Unbroken (closesVerbatim · = true) body (closing.source endVerbatimWord ++ rest) := by
  induction body with
  | nil => trivial
  | cons c body ih =>
    obtain ⟨hc, hbody⟩ := h
    rw [List.append_nil] at hc
    exact ⟨fun hcloses => hc (closesVerbatim_append hclosing hcloses), ih hbody⟩

/-! ### What is kept of it -/

/-- Of a verbatim block behind `passed`, the tokens hold its content without the blanks that the
tokens beside it take. -/
theorem verbatim_excerpt (h : tokenize o name source = .ok ts) (hopening : opening.Bare)
    (hclosing : closing.Bare)
    (hsource : source.toList = passed ++ (opening.source verbatimWord ++
      (body ++ (closing.source endVerbatimWord ++ rest))))
    (hpassed : TextMode passed (opening.source verbatimWord ++
      (body ++ (closing.source endVerbatimWord ++ rest))))
    (hbody : Unbroken (closesVerbatim · = true) body []) :
    ∃ before behind front kept back,
      Excerpt name (passed ++ opening.source verbatimWord) body
        (closing.source endVerbatimWord ++ rest) ts before behind front kept back ∧
      (front ≠ [] → ∃ t, before.getLast? = some t ∧ o.TakesBehind t) ∧
      (back ≠ [] → ∃ t, behind.head? = some t ∧ o.TakesAhead t) := by
  obtain ⟨scan, hscan, hts⟩ := ok_of_bind h
  cases hts
  have hbegin : scanFrom name (.behind []) source.toList = .ok scan := hscan
  obtain ⟨pieces, hlayout, hpieces, rfl⟩ := layout_of_scanFrom hbegin
  obtain ⟨ps, rfl, hps⟩ := hpassed
  obtain ⟨qs, rfl, hqs⟩ := hps.exists_append hlayout (hpieces.trans hsource)
  have hbehind := (layout_append.mp hlayout).2
  -- the first piece behind `ps` is the block
  have hfits : (Piece.verbatim opening [] body closing []).Fits rest := by
    refine .verbatim hopening.proper ?_ (unbroken_closing hbody hclosing.proper _)
      hclosing.proper ?_
    · rw [hopening.after]
      rfl
    · rw [hclosing.after]
      rfl
  have hblock : (Piece.verbatim opening [] body closing []).source ++ rest =
      opening.source verbatimWord ++ (body ++ (closing.source endVerbatimWord ++ rest)) := by
    simp [Piece.source]
  cases qs with
  | nil =>
    rw [List.flatMap_nil, ← hblock] at hqs
    exact absurd (List.append_eq_nil_iff.mp hqs.symm).1 hfits.source_ne_nil
  | cons piece qs =>
    rw [List.flatMap_cons, ← hblock] at hqs
    obtain ⟨rfl, hrest⟩ := hbehind.1.unique hfits hqs
    subst hrest
    have hafter : ∀ t ∈ scanned name (ps.flatMap Piece.source ++
          (Piece.verbatim opening [] body closing []).source) qs,
        t.StandsIn name (ps.flatMap Piece.source ++ opening.source verbatimWord ++ (body ++ []))
          (closing.source endVerbatimWord ++ qs.flatMap Piece.source) := by
      intro t ht
      have hstands := hbehind.2.standsIn name _ t ht
      simp only [Piece.source, List.append_nil, List.nil_append, ← List.append_assoc] at hstands ⊢
      exact hstands.append_left
    have hbefore : ∀ t ∈ scannedIn name ((Piece.verbatim opening [] body closing []).source ++
          qs.flatMap Piece.source) [] ps,
        t.StandsIn name [] (ps.flatMap Piece.source ++ opening.source verbatimWord) := by
      rw [hblock]
      exact fun t ht => (hps.standsIn name [] t ht).append_right _
    obtain ⟨before, behind, front, back, hexcerpt, -, hfront, hback⟩ :=
      exists_excerpt o hbefore hafter blank_nil
    rw [List.append_nil, List.append_nil] at hexcerpt
    have hscanned : scanned name [] (ps ++ Piece.verbatim opening [] body closing [] :: qs) =
        scannedIn name ((Piece.verbatim opening [] body closing []).source ++
          qs.flatMap Piece.source) [] ps ++ (ofText name
            (.behind (ps.flatMap Piece.source ++ opening.source verbatimWord)) body ++
          scanned name (ps.flatMap Piece.source ++
            (Piece.verbatim opening [] body closing []).source) qs) := by
      rw [scanned_append, scanned, Piece.tokens, hclosing.before, List.append_nil]
      rfl
    rw [hscanned]
    refine ⟨before, behind, front, _, back, hexcerpt, fun hne => ?_, fun hne => ?_⟩
    · obtain ⟨t, ht, -, htakes⟩ := hfront hne
      exact ⟨t, ht, htakes⟩
    · obtain ⟨t, ht, -, htakes⟩ := hback hne
      exact ⟨t, ht, htakes⟩

/-- A mark as it is usually written. -/
def Mark.spaced : Mark := ⟨false, [' '], [' '], false⟩

theorem Mark.bare_spaced : Mark.spaced.Bare :=
  ⟨⟨List.forall_mem_singleton.mpr rfl, List.forall_mem_singleton.mpr rfl⟩, rfl, rfl⟩

theorem textMode_nil (rest : List Char) : TextMode [] rest := ⟨[], rfl, trivial⟩

/-- The tokens of a block that ends in an indent, with a block tag behind it. -/
def indentedTokens : List Token :=
  [⟨.text "x\n", ⟨"page", 1, 15⟩, false⟩, ⟨.symbol .openTag, ⟨"page", 2, 20⟩, false⟩,
    ⟨.identifier "if", ⟨"page", 2, 23⟩, false⟩, ⟨.identifier "a", ⟨"page", 2, 26⟩, false⟩,
    ⟨.symbol .closeTag, ⟨"page", 2, 28⟩, false⟩]

theorem tokenize_indented :
    tokenize ⟨false, true⟩ "page"
      "\x7b% verbatim %\x7dx\n  \x7b% endverbatim %\x7d\x7b% if a %\x7d" =
      .ok indentedTokens :=
  ok_of_toOption (by decide +kernel)

theorem unbroken_indented :
    Unbroken (closesVerbatim · = true) ['x', '\n', ' ', ' '] [] :=
  ⟨by decide, by decide, by decide, by decide, trivial⟩

theorem verbatim_excerpt_indented :
    ∃ before behind front kept back,
      Excerpt "page" "\x7b% verbatim %\x7d".toList ['x', '\n', ' ', ' ']
        "\x7b% endverbatim %\x7d\x7b% if a %\x7d".toList indentedTokens before behind front kept
        back ∧
      (front ≠ [] → ∃ t, before.getLast? = some t ∧ Trimming.TakesBehind ⟨false, true⟩ t) ∧
      (back ≠ [] → ∃ t, behind.head? = some t ∧ Trimming.TakesAhead ⟨false, true⟩ t) :=
  verbatim_excerpt tokenize_indented Mark.bare_spaced Mark.bare_spaced (by decide) (textMode_nil _)
    unbroken_indented

/-- The content of a verbatim block can be trimmed, though its marks do not ask for it. -/
theorem not_verbatim_untouched :
    ¬∀ (o : Trimming) (name source : String) (ts : List Token) (passed body rest : List Char)
        (opening closing : Mark), tokenize o name source = .ok ts → opening.Bare → closing.Bare →
      source.toList = passed ++ (opening.source verbatimWord ++
        (body ++ (closing.source endVerbatimWord ++ rest))) →
      TextMode passed (opening.source verbatimWord ++
        (body ++ (closing.source endVerbatimWord ++ rest))) →
      Unbroken (closesVerbatim · = true) body [] →
        ∃ before behind, Excerpt name (passed ++ opening.source verbatimWord) body
          (closing.source endVerbatimWord ++ rest) ts before behind [] body [] := by
  intro h
  obtain ⟨before, behind, hexcerpt⟩ := h _ _ _ _ [] ['x', '\n', ' ', ' ']
    "\x7b% if a %\x7d".toList .spaced .spaced tokenize_indented Mark.bare_spaced Mark.bare_spaced
    (by decide) (textMode_nil _) unbroken_indented
  have hmem : Token.mk (.text "x\n  ") ⟨"page", 1, 15⟩ false ∈ indentedTokens := by
    rw [hexcerpt.tokens_eq]
    exact List.mem_append_right _ (List.mem_append_left _ (by decide))
  exact absurd hmem (by decide)

end Stencil.Token

/-!
## In front of other texts

How far pieces reach shows in the first characters behind them. So they are read in the same way if
something else stands further behind.
-/

namespace Stencil.Token

open Stencil.Text

variable {name : String} {rest rest' a w chars gap body : List Char} {piece : Piece}
  {ps : List Piece} {lexeme : Lexeme} {trims : Bool} {start : Part} {parts : List Part}

theorem Unbroken.congr {stop : List Char → Prop} (h : Unbroken stop body rest)
    (hstop : ∀ c s, stop (c :: (s ++ rest')) → stop (c :: (s ++ rest))) :
    Unbroken stop body rest' := by
  induction body with
  | nil => trivial
  | cons c body ih => exact ⟨fun hc => h.1 (hstop c body hc), ih h.2⟩

theorem Run.in_front {p : Char → Bool} (h : Run p gap (a ++ rest)) (ha : a ≠ []) :
    Run p gap (a ++ rest') := by
  obtain ⟨c, a, rfl⟩ := List.exists_cons_of_ne_nil ha
  exact ⟨h.all, h.stops⟩

theorem Gap.in_front (h : Gap trims gap (a ++ rest)) (ha : a ≠ []) :
    Gap trims gap (a ++ rest') := by
  cases trims with
  | true => exact Run.in_front h ha
  | false => exact h

/-- Two characters show where a lexeme ends. -/
theorem Spells.in_front (h : Spells (a ++ rest) lexeme trims chars) (ha : 2 ≤ a.length) :
    Spells (a ++ rest') lexeme trims chars := by
  have hne : a ≠ [] := List.ne_nil_of_length_pos (by omega)
  cases h with
  | word hc hw => exact .word hc (hw.in_front hne)
  | number hds hrest =>
    obtain ⟨c, a, rfl⟩ := List.exists_cons_of_ne_nil hne
    exact .number hds hrest
  | digits hds hd hw => exact .digits hds hd (hw.in_front hne)
  | string hquote hbody => exact .string hquote hbody
  | symbol hspelling hlongest =>
    refine .symbol hspelling fun e he hleads => hlongest e he ?_
    have hlength := length_spellings e he
    have hpositive := (length_spellings _ hspelling).1
    rw [← List.append_assoc] at hleads ⊢
    refine (List.prefix_of_prefix_length_le hleads (List.prefix_append _ rest') ?_).trans
      (List.prefix_append _ rest)
    rw [List.length_append]
    dsimp only at hpositive
    omega

/-- A delimiter that closes a tag is never the beginning of a longer symbol. -/
theorem spellings_closing : ∀ e ∈ spellings, e.2.1.closes = true → 2 ≤ e.1.length ∧
    e.1.getLast? = some '\x7d' ∧ ∀ e' ∈ spellings, e.1 <+: e'.1 → e'.1.length ≤ e.1.length := by
  decide +kernel

theorem Spells.closing (h : Spells rest lexeme trims chars) (hclosing : Closing lexeme)
    (rest' : List Char) :
    Spells rest' lexeme trims chars ∧ 2 ≤ chars.length ∧ chars.getLast? = some '\x7d' := by
  cases h with
  | word =>
    rename_i c w _ _
    obtain ⟨k, hword⟩ | hword := ofWord_cases (c :: w)
    all_goals
      rw [hword] at hclosing
      exact hclosing.elim
  | number | digits | string => exact hclosing.elim
  | symbol hspelling hlongest =>
    obtain ⟨hlength, hlast, hlonger⟩ := spellings_closing _ hspelling hclosing
    refine ⟨.symbol hspelling fun e he hleads => ?_, hlength, hlast⟩
    refine Nat.le_of_not_lt fun hlt => Nat.not_le_of_lt hlt (hlonger e he ?_)
    exact List.prefix_of_prefix_length_le (List.prefix_append ..) hleads (Nat.le_of_lt hlt)

/-- A tag reaches to its closing delimiter, whatever stands behind it. -/
theorem Tagged.in_front (h : Tagged rest parts) (rest' : List Char) :
    Tagged rest' parts ∧ 2 ≤ (parts.flatMap Part.source).length ∧
      (parts.flatMap Part.source).getLast? = some '\x7d' := by
  induction h with
  | @close part hpart hclosing =>
    obtain ⟨hspells, hlength, hlast⟩ := hpart.spells.closing hclosing rest'
    rw [List.flatMap_singleton, Part.source, List.length_append, List.getLast?_append, hlast]
    exact ⟨.close ⟨hpart.gap, hspells⟩ hclosing, by omega, rfl⟩
  | @cons part parts hpart hopening hclosing h ih =>
    obtain ⟨htagged, hlength, hlast⟩ := ih
    rw [List.flatMap_cons, List.length_append, List.getLast?_append, hlast]
    exact ⟨.cons ⟨hpart.gap, hpart.spells.in_front hlength⟩ hopening hclosing htagged,
      by omega, rfl⟩

/-- The only brace of a mark that closes stands at its end. -/
theorem Mark.Proper.not_mem_dropLast {m : Mark} (h : m.Proper) :
    '\x7d' ∉ (m.source verbatimWord).dropLast := by
  have hdashes (trims : Bool) : '\x7d' ∉ dashes trims := by cases trims <;> decide
  have hblank {gap : List Char} (hgap : ∀ c ∈ gap, isBlank c = true) : '\x7d' ∉ gap :=
    fun hmem => absurd (hgap _ hmem) (by decide)
  have hword : '\x7d' ∉ verbatimWord := by decide
  have hsource : m.source verbatimWord = (['\x7b', '%'] ++ (dashes m.trimsBefore ++ (m.lead ++
      (verbatimWord ++ (m.trail ++ (dashes m.trimsAfter ++ ['%'])))))) ++ ['\x7d'] := by
    simp [Mark.source]
  rw [hsource, List.dropLast_concat]
  simp [hdashes, hblank h.lead, hblank h.trail, hword]

/-- Whether a tag is the mark of a verbatim block shows within the tag. -/
theorem markerAt?_in_front (h : markerAt? verbatimWord (w ++ rest) = none)
    (hlast : w.getLast? = some '\x7d') : markerAt? verbatimWord (w ++ rest') = none := by
  refine Option.eq_none_iff_forall_ne_some.mpr fun marker hmarker => ?_
  obtain ⟨m, behind, heq, hm, -⟩ := mark_of_markerAt? hmarker
  have hopens (s : List Char) : markerAt? verbatimWord (m.source verbatimWord ++ s) ≠ none := by
    rw [hm.opens]
    exact nofun
  obtain ⟨a, hmark, -⟩ | ⟨a, rfl, -⟩ := List.append_eq_append_iff.mp heq
  · by_cases ha : a = []
    · rw [ha, List.append_nil] at hmark
      exact hopens rest (hmark ▸ h)
    · have hbrace := hm.not_mem_dropLast
      rw [hmark, List.dropLast_append_of_ne_nil ha] at hbrace
      exact hbrace (List.mem_append_left _ (List.mem_of_getLast? hlast))
  · rw [List.append_assoc] at h
    exact hopens _ h

theorem opensHere_in_front {c d : Char} {s : List Char} (h : opensHere (c :: d :: s) = true)
    (s' : List Char) : opensHere (c :: d :: s') = true := by
  unfold opensHere at h
  split at h <;> rename_i heq
  case h_4 => cases h
  all_goals
    cases heq
    rfl

theorem breaksComment_in_front {c d e : Char} {s : List Char} :
    breaksComment (c :: (s ++ (d :: e :: rest))) =
      breaksComment (c :: (s ++ (d :: e :: rest'))) := by
  cases s <;> rfl

theorem closesVerbatim_in_front {c : Char} {s : List Char} (h : closesVerbatim (c :: s) = true)
    (rest : List Char) : closesVerbatim (c :: s ++ rest) = true := by
  obtain ⟨marker, hmarker⟩ := Option.isSome_iff_exists.mp h
  obtain ⟨m, behind, heq, hm, -⟩ := mark_of_markerAt? hmarker
  rw [heq, List.append_assoc]
  exact hm.closesVerbatim_eq _

/-- Where a tag ends does not depend on what stands behind it. -/
theorem Piece.Fits.in_front_tag (h : (Piece.tag start parts).Fits rest)
    (rest' : List Char) : (Piece.tag start parts).Fits rest' := by
  cases h with
  | tag hgap hstart hopening hparts hmark =>
    obtain ⟨hparts', hlength, hlast⟩ := hparts.in_front rest'
    rw [← List.append_assoc] at hmark
    have hmark' : markerAt? verbatimWord
      (start.source ++ parts.flatMap Part.source ++ rest') = none :=
      markerAt?_in_front hmark (by rw [List.getLast?_append, hlast]; rfl)
    rw [List.append_assoc] at hmark'
    exact .tag hgap ⟨hstart.gap, hstart.spells.in_front hlength⟩ hopening hparts' hmark'

/-- A piece reaches as far in front of another text that begins in the same way. -/
theorem Piece.Fits.in_front (h : piece.Fits (a ++ rest)) (ha : 2 ≤ a.length)
    (rest' : List Char) : piece.Fits (a ++ rest') := by
  obtain ⟨d, b, rfl⟩ :=
    List.exists_cons_of_ne_nil (List.ne_nil_of_length_pos (by omega : 0 < a.length))
  obtain ⟨e, a, rfl⟩ :=
    List.exists_cons_of_ne_nil (List.ne_nil_of_length_pos (Nat.le_of_succ_le_succ ha))
  cases h with
  | text hbody hplain hrest =>
    refine .text hbody (hplain.congr fun c s hopens => ?_) (.inr ?_)
    · cases s with
      | nil => exact opensHere_in_front hopens _
      | cons b s => exact opensHere_in_front hopens _
    · exact opensHere_in_front (hrest.resolve_left nofun) _
  | comment hbody =>
    refine .comment (hbody.congr fun c s hbreaks => ?_)
    rwa [breaksComment_in_front] at hbreaks
  | @verbatim opening closing lead body trail hopening hlead hbody hclosing htrail =>
    refine .verbatim hopening ?_ (hbody.congr fun c s hcloses => ?_) hclosing
      (htrail.in_front nofun)
    · rw [← List.append_assoc] at hlead ⊢
      exact hlead.in_front (List.append_ne_nil_of_right_ne_nil _ nofun)
    · exact closesVerbatim_in_front (closesVerbatim_append hclosing hcloses) _
  | tag hgap hstart hopening hparts hmark =>
    exact (Piece.Fits.tag hgap hstart hopening hparts hmark).in_front_tag _

/-- Whole pieces are read in the same way in front of another text that begins in the same way. -/
theorem LaysOut.in_front (h : LaysOut (a ++ rest) ps) (ha : 2 ≤ a.length) (rest' : List Char) :
    LaysOut (a ++ rest') ps := by
  induction ps with
  | nil => trivial
  | cons piece ps ih =>
    obtain ⟨hpiece, hps⟩ := h
    refine ⟨?_, ih hps⟩
    rw [← List.append_assoc] at hpiece ⊢
    exact hpiece.in_front (by rw [List.length_append]; omega) rest'

/-- Whether a piece trims what stands in front of it does not depend on what stands behind it. -/
theorem Piece.Fits.trimsText_eq (h : piece.Fits rest) (h' : piece.Fits rest') :
    trimsText (piece.source ++ rest) = trimsText (piece.source ++ rest') := by
  have hnone {rest : List Char} (h : piece.Fits rest) (hkind : piece.kind.1 = false) :
      trimsText (piece.source ++ rest) = false := by
    rw [← h.kindAt_eq] at hkind
    unfold trimsText
    rw [Option.isNone_iff_eq_none.mp (Option.isSome_eq_false_iff.mp hkind)]
  cases piece with
  | verbatim opening lead body closing trail =>
    cases h with
    | verbatim hopening =>
      unfold trimsText
      rw [Piece.source, List.append_assoc, hopening.opens, List.append_assoc, hopening.opens]
  | text | comment | tag => rw [hnone h rfl, hnone h' rfl]

/-- So are the tokens of whole pieces. -/
theorem LaysOut.scannedIn_eq (h : LaysOut rest ps) (h' : LaysOut rest' ps)
    (htrims : trimsText rest = trimsText rest') (name : String) (before : List Char) :
    scannedIn name rest before ps = scannedIn name rest' before ps := by
  induction ps generalizing before with
  | nil => rfl
  | cons piece ps ih =>
    have hbehind : trimsText (ps.flatMap Piece.source ++ rest) =
        trimsText (ps.flatMap Piece.source ++ rest') := by
      cases ps with
      | nil => exact htrims
      | cons next ps =>
        rw [List.flatMap_cons, List.append_assoc, List.append_assoc]
        exact h.2.1.trimsText_eq h'.2.1
    rw [scannedIn, scannedIn, ih h.2 h'.2]
    cases piece with
    | text body => rw [Piece.tokens, Piece.tokens, hbehind]
    | comment | verbatim | tag => rfl

end Stencil.Token
