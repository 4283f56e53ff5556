import Stencil.Proofs.Scanning.Account
import Stencil.Proofs.Scanning.Excerpt

/-!
# The options for block tags

One option takes the line break behind a block tag, the other one the indent in front of it. Each
works whatever the other one does, with one exception: the line break in front of an indent is not
seen any more once it is taken as the one behind a tag, and then the indent stays.
-/

namespace Stencil

open Stencil.Text

/-! ## Line breaks and indents -/

/-- A line break as it is dropped behind a tag. -/
def LineBreak (s : List Char) : Prop := s = ['\n'] ∨ s = ['\r', '\n']

/-- Nothing but spaces and tabs. -/
def Indent (s : List Char) : Prop := ∀ c ∈ s, c = ' ' ∨ c = '\t'

variable {s u w front kept back passed indent : List Char} {o : Trimming} {t : Token}
  {before : Option Token}

theorem LineBreak.blank (h : LineBreak s) : Blank s := by
  obtain rfl | rfl := h <;> simp [isBlank]

theorem Indent.blank (h : Indent s) : Blank s := by
  intro c hc
  obtain rfl | rfl := h c hc <;> rfl

theorem Indent.of_suffix (h : Indent s) (hw : w <:+ s) : Indent w :=
  fun c hc => h c (hw.subset hc)

theorem Indent.all (h : Indent indent) :
    (indent.all fun c => c == ' ' || c == '\t') = true := by
  rw [List.all_eq_true]
  intro c hc
  obtain rfl | rfl := h c hc <;> rfl

/-- The last line of a text is what stands behind its last line break. -/
theorem Indent.lastLine_eq (h : Indent indent) (hs : ∀ c ∈ s.head?, (c != '\n') = false) :
    ((indent.reverse ++ s).takeWhile (· != '\n')).reverse = indent := by
  have hrun : Token.Run (· != '\n') indent.reverse s := by
    refine ⟨fun c hc => ?_, hs⟩
    obtain rfl | rfl := h c (List.mem_reverse.mp hc) <;> rfl
  rw [hrun.takeWhile_eq, List.reverse_reverse]

/-! ## Beginnings of lines -/

/-- A line begins behind a line break only. -/
theorem Place.eq_of_column_eq_one {c : Char} (h : (Place.behind (s ++ [c])).column = 1) :
    c = '\n' := by
  rw [← Place.step_behind] at h
  unfold Place.step Place.behind at h
  split at h
  · assumption
  · dsimp only at h
    omega

namespace Trimming

/-! ## The indent in front of a tag -/

theorem isPrefix_dropIndent (fresh : Bool) (s : List Char) : dropIndent fresh s <+: s := by
  obtain ⟨back, hback, -⟩ := dropIndent_split fresh s
  exact ⟨back, hback.symm⟩

/-- The last line of a text is dropped if it is an indent. -/
theorem dropIndent_append (hindent : Indent indent) (fresh : Bool) (s : List Char) :
    dropIndent fresh (s ++ '\n' :: indent) = s ++ ['\n'] := by
  have hreverse : (s ++ '\n' :: indent).reverse = indent.reverse ++ '\n' :: s.reverse := by simp
  have hlength : (s ++ '\n' :: indent).length - indent.length = (s ++ ['\n']).length := by
    simp only [List.length_append, List.length_cons, List.length_nil]
    omega
  have hsplit : s ++ '\n' :: indent = (s ++ ['\n']) ++ indent := by simp
  unfold dropIndent
  dsimp only
  rw [hreverse, hindent.lastLine_eq (by simp), hindent.all, hlength]
  rw [hsplit, List.take_left]
  simp

/-- A text that is an indent and begins a line is dropped. -/
theorem dropIndent_indent (hindent : Indent indent) : dropIndent true indent = [] := by
  have hlast := hindent.lastLine_eq (s := []) nofun
  rw [List.append_nil] at hlast
  unfold dropIndent
  dsimp only
  rw [hlast, hindent.all]
  simp

/-- Behind a line break that is still there, the indent in front of a block tag is taken. -/
theorem beforeOpen_append (hoption : o.lstripBlocks = true) (ht : t.isSymbol .openTag = true)
    (hindent : Indent indent) (column : Nat) (s : List Char) :
    o.beforeOpen column (some t) (s ++ '\n' :: indent) <+: s ++ ['\n'] := by
  unfold beforeOpen
  dsimp only
  rw [hoption, ht, Bool.and_self, if_pos rfl]
  split
  · refine (isPrefix_dropIndent _ _).trans ?_
    have hsplit : s ++ '\n' :: indent = (s ++ ['\n']) ++ indent := by simp
    rw [hsplit, trimEnd_append_of_blank hindent.blank]
    exact isPrefix_trimEnd _
  · exact ⟨[], by rw [dropIndent_append hindent, List.append_nil]⟩

/-- At the beginning of a line, an indent in front of a block tag is taken. -/
theorem beforeOpen_indent (hoption : o.lstripBlocks = true) (ht : t.isSymbol .openTag = true)
    (hindent : Indent indent) : o.beforeOpen 1 (some t) indent = [] := by
  unfold beforeOpen
  dsimp only
  rw [hoption, ht, Bool.and_self, if_pos rfl]
  split
  · rw [trimEnd_of_blank hindent.blank]
    rfl
  · exact dropIndent_indent hindent

/-! ## The line break behind a tag -/

/-- The line break behind a block tag is taken. -/
theorem afterClose_lineBreak (hoption : o.trimBlocks = true) (ht : t.isSymbol .closeTag = true)
    (hs : LineBreak s) (w : List Char) :
    ∃ front, w = front ++ o.afterClose (some t) (s ++ w) := by
  unfold afterClose
  dsimp only
  rw [hoption, ht, Bool.and_self, if_pos rfl]
  split
  · have htrim : trimStart (s ++ w) = trimStart w := by
      unfold trimStart
      exact List.dropWhile_append_of_pos hs.blank
    obtain ⟨front, hfront, -⟩ := trimStart_split w
    obtain ⟨more, hmore, -⟩ := dropLineBreak_split (trimStart w)
    refine ⟨front ++ more, ?_⟩
    rw [htrim, List.append_assoc, ← hmore]
    exact hfront
  · obtain rfl | rfl := hs <;> exact ⟨[], rfl⟩

theorem dropLineBreak_append (s indent : List Char) :
    (∃ w, dropLineBreak (s ++ '\n' :: indent) = w ++ '\n' :: indent) ∨
      LineBreak (s ++ ['\n']) ∧ dropLineBreak (s ++ '\n' :: indent) = indent := by
  unfold dropLineBreak
  split
  next rest heq =>
    cases s with
    | nil => cases heq
    | cons c s =>
      cases s with
      | nil =>
        cases heq
        exact .inr ⟨.inr rfl, rfl⟩
      | cons d s =>
        cases heq
        exact .inl ⟨s, rfl⟩
  next rest heq =>
    cases s with
    | nil =>
      cases heq
      exact .inr ⟨.inl rfl, rfl⟩
    | cons c s =>
      cases heq
      exact .inl ⟨s, rfl⟩
  next => exact .inl ⟨s, rfl⟩

theorem dropLineBreak_trimStart (s : List Char) : dropLineBreak (trimStart s) = trimStart s := by
  have hstops := (Token.run_takeWhile isBlank s).stops
  change ∀ c ∈ (trimStart s).head?, isBlank c = false at hstops
  unfold dropLineBreak
  split
  next rest heq =>
    rw [heq] at hstops
    cases hstops '\r' rfl
  next rest heq =>
    rw [heq] at hstops
    cases hstops '\n' rfl
  next => rfl

/-- What is taken behind a tag leaves the last line of a text and the line break in front of it, or
it leaves nothing, unless this is the line break behind a block tag. -/
theorem afterClose_append (hindent : Indent indent) (before : Option Token) (s : List Char) :
    o.afterClose before (s ++ '\n' :: indent) = [] ∨
      (∃ w, o.afterClose before (s ++ '\n' :: indent) = w ++ '\n' :: indent) ∨
      o.trimBlocks = true ∧ LineBreak (s ++ ['\n']) ∧
        o.afterClose before (s ++ '\n' :: indent) = indent := by
  cases before with
  | none => exact .inr (.inl ⟨s, rfl⟩)
  | some t =>
    unfold afterClose
    dsimp only
    by_cases htrims : (t.trims && t.closes) = true
    · rw [if_pos htrims, dropLineBreak_trimStart, ite_self]
      have hline : Blank ('\n' :: indent) := blank_cons.mpr ⟨rfl, hindent.blank⟩
      unfold trimStart
      rw [List.dropWhile_append]
      split
      · exact .inl (trimStart_of_blank hline)
      · exact .inr (.inl ⟨_, rfl⟩)
    · rw [if_neg htrims]
      split
      next hbreak =>
        obtain hkept | ⟨hs, hdropped⟩ := dropLineBreak_append s indent
        · exact .inr (.inl hkept)
        · exact .inr (.inr ⟨(Bool.and_eq_true_iff.mp hbreak).1, hs, hdropped⟩)
      next => exact .inr (.inl ⟨s, rfl⟩)

theorem afterClose_suffix (o : Trimming) (before : Option Token) (s : List Char) :
    o.afterClose before s <:+ s := by
  obtain ⟨front, hfront, -⟩ := o.afterClose_split before s
  exact ⟨front, hfront.symm⟩

/-- Of a line break behind a block tag nothing is left. -/
theorem lineBreak_taken (hoption : o.trimBlocks = true) (ht : t.isSymbol .closeTag = true)
    (hs : LineBreak s) (hfront : s ++ w = front ++ o.afterClose (some t) (s ++ w)) :
    s <+: front := by
  obtain ⟨more, hmore⟩ := afterClose_lineBreak hoption ht hs w
  have hsplit : front ++ o.afterClose (some t) (s ++ w) =
      (s ++ more) ++ o.afterClose (some t) (s ++ w) := by
    rw [← hfront, List.append_assoc, ← hmore]
  exact ⟨more, (List.append_cancel_right hsplit).symm⟩

/-- Of an indent in front of a block tag nothing is left, unless the line break in front of it was
taken. -/
theorem indent_taken (hoption : o.lstripBlocks = true) (ht : t.isSymbol .openTag = true)
    (hindent : Indent indent) (hline : (Place.behind (passed ++ u)).column = 1)
    (hfront : u ++ indent = front ++ o.afterClose before (u ++ indent))
    (hkept : o.beforeOpen (Place.behind passed).column (some t)
      (o.afterClose before (u ++ indent)) = kept)
    (hback : o.afterClose before (u ++ indent) = kept ++ back) :
    kept = [] ∨ indent <:+ back ∨ o.trimBlocks = true ∧ LineBreak u ∧ front = u := by
  obtain rfl | ⟨s, c, rfl⟩ := List.eq_nil_or_concat u
  · -- the text begins the line
    rw [List.append_nil] at hline
    rw [List.nil_append, hline, beforeOpen_indent hoption ht
      (hindent.of_suffix (o.afterClose_suffix before indent))] at hkept
    exact .inl hkept.symm
  · rw [List.concat_eq_append, ← List.append_assoc] at hline
    obtain rfl := Place.eq_of_column_eq_one hline
    rw [List.concat_eq_append, List.append_assoc, List.singleton_append] at *
    obtain hnone | ⟨w, hw⟩ | ⟨htrim, hbreak, hleft⟩ := o.afterClose_append hindent before s
    · rw [hnone] at hback
      exact .inl (List.append_eq_nil_iff.mp hback.symm).1
    · have hprefix := beforeOpen_append hoption ht hindent (Place.behind passed).column w
      rw [← hw, hkept] at hprefix
      obtain ⟨more, hmore⟩ := hprefix
      refine .inr (.inl ⟨more, ?_⟩)
      have hsplit : kept ++ back = kept ++ (more ++ indent) := by
        rw [← hback, hw, ← List.append_assoc, hmore, List.append_assoc, List.singleton_append]
      exact (List.append_cancel_left hsplit).symm
    · rw [hleft] at hfront
      have hsplit : front ++ indent = (s ++ ['\n']) ++ indent := by
        rw [← hfront, List.append_assoc, List.singleton_append]
      exact .inr (.inr ⟨htrim, hbreak, List.append_cancel_right hsplit⟩)

/-! ## What the options take -/

theorem afterClose_options (o : Trimming) (before : Option Token) (s : List Char) :
    ∃ front, ({} : Trimming).afterClose before s = front ++ o.afterClose before s ∧
      Blank front := by
  cases before with
  | none => exact ⟨[], rfl, blank_nil⟩
  | some t =>
    unfold afterClose
    dsimp only
    by_cases hbreak : (o.trimBlocks && t.isSymbol .closeTag) = true
    · rw [Bool.false_and, if_neg Bool.false_ne_true, if_pos hbreak]
      exact dropLineBreak_split _
    · rw [Bool.false_and, if_neg Bool.false_ne_true, if_neg hbreak]
      exact ⟨[], rfl, blank_nil⟩

theorem beforeOpen_options (o : Trimming) (column : Nat) (behind : Option Token) (s : List Char) :
    ∃ back, ({} : Trimming).beforeOpen column behind s = o.beforeOpen column behind s ++ back ∧
      Blank back := by
  cases behind with
  | none => exact ⟨[], (List.append_nil s).symm, blank_nil⟩
  | some t =>
    unfold beforeOpen
    dsimp only
    by_cases hindent : (o.lstripBlocks && t.isSymbol .openTag) = true
    · rw [Bool.false_and, if_neg Bool.false_ne_true, if_pos hindent]
      exact dropIndent_split _ _
    · rw [Bool.false_and, if_neg Bool.false_ne_true, if_neg hindent]
      exact ⟨[], (List.append_nil _).symm, blank_nil⟩

theorem beforeOpen_blank_append (hs : Blank s) (column : Nat) (behind : Option Token)
    (w : List Char) :
    Trimmed (({} : Trimming).beforeOpen column behind (s ++ w))
      (({} : Trimming).beforeOpen column behind w) := by
  cases behind with
  | none => exact .front rfl hs
  | some t =>
    unfold beforeOpen
    dsimp only
    rw [Bool.false_and, if_neg Bool.false_ne_true, if_neg Bool.false_ne_true]
    split
    · obtain ⟨hw, hnone⟩ | hleft := trimEnd_blank_append hs w
      · rw [hw, hnone]
        exact .refl []
      · exact .front hleft hs
    · exact .front rfl hs

/-- Of what is left of a text without the options, they take blanks at the two ends. -/
theorem trimmed_options (o : Trimming) (before behind : Option Token) (column : Nat)
    (s : List Char) :
    Trimmed (({} : Trimming).beforeOpen column behind (({} : Trimming).afterClose before s))
      (o.beforeOpen column behind (o.afterClose before s)) := by
  obtain ⟨front, hfront, hblank⟩ := afterClose_options o before s
  obtain ⟨back, hback, hblank'⟩ := beforeOpen_options o column behind (o.afterClose before s)
  rw [hfront]
  exact (beforeOpen_blank_append hblank column behind _).trans (.back hback hblank')

end Trimming

namespace Token

/-- The tokens `us` are those of `ts`, but for blanks that are missing at the ends of texts. -/
inductive Thinned : (ts us : List Token) → Prop where
  | nil : Thinned [] []
  | same {ts us : List Token} (t : Token) (h : Thinned ts us) : Thinned (t :: ts) (t :: us)
  | text {ts us : List Token} {s v : String} {p : Position} {trims : Bool}
      (hs : Trimmed s.toList v.toList) (h : Thinned ts us) :
      Thinned (⟨.text s, p, trims⟩ :: ts) (⟨.text v, p, trims⟩ :: us)
  | dropped {ts us : List Token} {s : String} {p : Position} {trims : Bool}
      (hs : Blank s.toList) (h : Thinned ts us) : Thinned (⟨.text s, p, trims⟩ :: ts) us

theorem thinned_settle (o : Trimming) (before : Option Token) (ts : List Token) :
    Thinned (({} : Trimming).settle before ts) (o.settle before ts) := by
  induction ts generalizing before with
  | nil => exact .nil
  | cons t ts ih =>
    rw [Trimming.settle, Trimming.settle]
    obtain ⟨lexeme, p, trims⟩ := t
    cases lexeme with
    | text s =>
      have htrimmed := Trimming.trimmed_options o before ts.head? p.column s.toList
      unfold Trimming.settleOne
      dsimp only
      revert htrimmed
      generalize ({} : Trimming).beforeOpen _ _ _ = plain
      generalize o.beforeOpen _ _ _ = kept
      rintro ⟨front, back, rfl, hfront, hback⟩
      cases kept with
      | nil =>
        split
        · exact ih _
        · refine .dropped ?_ (ih _)
          rw [String.toList_ofList]
          exact hfront.append hback
      | cons c kept =>
        have hne : (front ++ (c :: kept ++ back)).isEmpty = false := by simp
        rw [hne]
        refine .text ?_ (ih _)
        rw [String.toList_ofList, String.toList_ofList]
        exact ⟨front, back, rfl, hfront, hback⟩
    | keyword | identifier | string | number | symbol => exact .same _ (ih _)

/-! ## The options in a whole source -/

/-- The last piece is a tag that is closed as a block tag. -/
def EndsTag (pieces : List Piece) : Prop :=
  ∃ start parts part, pieces.getLast? = some (.tag start parts) ∧ parts.getLast? = some part ∧
    part.lexeme = .symbol .closeTag

/-- The first piece is a tag that is opened as a block tag. -/
def BeginsTag (pieces : List Piece) : Prop :=
  ∃ start parts, pieces.head? = some (.tag start parts) ∧ start.lexeme = .symbol .openTag

variable {name source : String} {rest body : List Char} {ts : List Token} {parts : List Part}
  {part : Part} {ps qs pieces : List Piece}

theorem Part.exists_getLast?_tokens (h : parts.getLast? = some part) (name : String)
    (before : List Char) : ∃ before',
      (Part.tokens name before parts).getLast? = some (part.token name before') := by
  induction parts generalizing before with
  | nil => cases h
  | cons p parts ih =>
    rw [List.getLast?_cons] at h
    cases hparts : parts.getLast? with
    | none =>
      obtain rfl := List.getLast?_eq_none_iff.mp hparts
      cases h
      exact ⟨before, rfl⟩
    | some q =>
      rw [hparts] at h
      cases h
      obtain ⟨before', hlast⟩ := ih hparts (before ++ p.source)
      exact ⟨before', by rw [Part.tokens, List.getLast?_cons, hlast]; rfl⟩

theorem EndsTag.exists_getLast? (h : EndsTag ps) (name : String) (rest before : List Char) :
    ∃ t, (scannedIn name rest before ps).getLast? = some t ∧ t.isSymbol .closeTag = true := by
  obtain ⟨start, parts, part, htag, hpart, hclose⟩ := h
  obtain ⟨ps, rfl⟩ := List.getLast?_eq_some_iff.mp htag
  induction ps generalizing before with
  | nil =>
    obtain ⟨before', hlast⟩ := Part.exists_getLast?_tokens hpart name (before ++ start.source)
    refine ⟨part.token name before', ?_, beq_iff_eq.mpr hclose⟩
    rw [List.nil_append, scannedIn, scannedIn, List.append_nil, Piece.tokens, List.getLast?_cons,
      hlast]
    rfl
  | cons piece ps ih =>
    obtain ⟨t, ht, hsymbol⟩ := ih (before ++ piece.source) (by simp)
    refine ⟨t, ?_, hsymbol⟩
    rw [List.cons_append, scannedIn, List.getLast?_append, ht]
    rfl

theorem BeginsTag.exists_head? (h : BeginsTag qs) (name : String) (before : List Char) :
    ∃ t, (scanned name before qs).head? = some t ∧ t.isSymbol .openTag = true := by
  obtain ⟨start, parts, htag, hopen⟩ := h
  obtain ⟨qs, rfl⟩ := List.head?_eq_some_iff.mp htag
  exact ⟨start.token name before, rfl, beq_iff_eq.mpr hopen⟩

/-- In front of a tag, nothing is taken from a text before it comes to the options. -/
theorem BeginsTag.trimsText_eq_false (h : BeginsTag qs) (hqs : Layout qs) :
    trimsText (qs.flatMap Piece.source) = false := by
  obtain ⟨start, parts, htag, -⟩ := h
  obtain ⟨qs, rfl⟩ := List.head?_eq_some_iff.mp htag
  cases hqs.1 with
  | tag _ _ _ _ hmark =>
    rw [List.flatMap_cons, trimsText, Piece.source, List.append_assoc, hmark]

/-- What the options do to the text `body` between `ps` and `qs`, of which `kept` is left. -/
structure Governed (o : Trimming) (ps qs : List Piece) (body front kept back : List Char) :
    Prop where
  /-- Behind a block tag, the line break is taken. -/
  lineBreak : o.trimBlocks = true → EndsTag ps → ∀ s, LineBreak s → s <+: body →
    kept = [] ∨ s <+: front
  /-- Between the beginning of a line and a block tag, spaces and tabs are taken, unless the line
  begins behind a line break that was taken. -/
  indent : o.lstripBlocks = true → BeginsTag qs → ∀ u indent, body = u ++ indent → Indent indent →
    (Place.behind (ps.flatMap Piece.source ++ u)).column = 1 →
      kept = [] ∨ indent <:+ back ∨ o.trimBlocks = true ∧ LineBreak u ∧ front = u

theorem isPrefix_cut {s : List Char} (hs : Blank s) (h : s <+: body) (trims : Bool) :
    cut trims body = [] ∨ s <+: cut trims body := by
  cases trims with
  | false => exact .inr h
  | true =>
    obtain ⟨rest, rfl⟩ := h
    obtain ⟨-, hnone⟩ | hleft := trimEnd_blank_append hs rest
    · exact .inl hnone
    · exact .inr ⟨trimEnd rest, hleft.symm⟩

/-- The options govern every text. -/
theorem Layout.exists_governed (h : Layout (ps ++ .text body :: qs)) (o : Trimming)
    (name : String) :
    ∃ before behind front kept back,
      Excerpt name (ps.flatMap Piece.source) body (qs.flatMap Piece.source)
        (o.settle none (scanned name [] (ps ++ .text body :: qs))) before behind front kept back ∧
      Governed o ps qs body front kept back := by
  obtain ⟨hps, -, hqs⟩ := layout_append.mp h
  have hbefore := hps.standsIn name []
  have hbehind := hqs.standsIn name (ps.flatMap Piece.source ++ body)
  have hlast (hends : EndsTag ps) := hends.exists_getLast? name
    ((Piece.text body :: qs).flatMap Piece.source) []
  have hhead (hbegins : BeginsTag qs) :=
    hbegins.exists_head? name (ps.flatMap Piece.source ++ body)
  obtain ⟨dropped, hdropped, hblank, -⟩ : ∃ dropped,
      body = cut (trimsText (qs.flatMap Piece.source)) body ++ dropped ∧ Spare False dropped :=
    cut_split False.elim body
  have hcut {s : List Char} (hs : Blank s) (hbody : s <+: body) :=
    isPrefix_cut hs hbody (trimsText (qs.flatMap Piece.source))
  have huncut (hbegins : BeginsTag qs) : cut (trimsText (qs.flatMap Piece.source)) body = body := by
    rw [hbegins.trimsText_eq_false hqs]
    rfl
  rw [scanned_append, scanned, List.nil_append, Piece.tokens, Piece.source]
  generalize scannedIn name _ [] ps = ts at *
  generalize scanned name _ qs = us at *
  generalize cut _ body = w at *
  subst hdropped
  obtain ⟨before, behind, front, back, hexcerpt, hfront, -⟩ :=
    exists_excerpt o hbefore hbehind hblank
  have hw : o.afterClose ts.getLast? w =
      o.beforeOpen (Place.behind (ps.flatMap Piece.source)).column us.head?
        (o.afterClose ts.getLast? w) ++ back := by
    have hbody := hexcerpt.body_eq
    rw [← List.append_assoc, ← List.append_assoc, List.append_assoc front] at hbody
    have hsplit := List.append_cancel_right hbody
    exact List.append_cancel_left (hfront.symm.trans hsplit)
  refine ⟨before, behind, front, _, _, hexcerpt, ?_, ?_⟩
  · intro hoption hends s hs hbody
    obtain ⟨t, ht, hclose⟩ := hlast hends
    obtain rfl | ⟨rest, rfl⟩ := hcut hs.blank hbody
    · rw [(List.append_eq_nil_iff.mp hfront.symm).2] at hw ⊢
      exact .inl (List.append_eq_nil_iff.mp hw.symm).1
    · rw [ht] at hfront
      exact .inr (Trimming.lineBreak_taken hoption hclose hs hfront)
  · intro hoption hbegins u indent hbody hindent hline
    obtain ⟨t, ht, hopen⟩ := hhead hbegins
    obtain rfl : dropped = [] := List.append_right_eq_self.mp (huncut hbegins).symm
    rw [List.append_nil] at hbody
    subst hbody
    rw [ht] at hw ⊢
    rw [List.append_nil]
    exact Trimming.indent_taken hoption hopen hindent hline hfront rfl hw

/-- Each option does its part to every text that it is for, and the two of them take nothing but
blanks. -/
theorem block_options (h : tokenize o name source = .ok ts) :
    ∃ plain pieces, tokenize {} name source = .ok plain ∧ Thinned plain ts ∧
      Layout pieces ∧ pieces.flatMap Piece.source = source.toList ∧
      ∀ ps body qs, pieces = ps ++ .text body :: qs → ∃ before behind front kept back,
        Excerpt name (ps.flatMap Piece.source) body (qs.flatMap Piece.source) ts before behind front
          kept back ∧
        Governed o ps qs body front kept back := by
  obtain ⟨scan, hscan, hts⟩ := ok_of_bind h
  cases hts
  have hbegin : scanFrom name (.behind []) source.toList = .ok scan := hscan
  obtain ⟨pieces, hlayout, hsource, rfl⟩ := layout_of_scanFrom hbegin
  refine ⟨_, pieces, ?_, thinned_settle o none _, hlayout, hsource, ?_⟩
  · rw [tokenize, hscan]
    rfl
  · rintro ps body qs rfl
    exact hlayout.exists_governed o name

/-- The tokens of a block tag, a line behind it and another block tag behind an indent. -/
def blockTokens : List Token :=
  [⟨.symbol .openTag, ⟨"page", 1, 1⟩, false⟩, ⟨.identifier "if", ⟨"page", 1, 4⟩, false⟩,
    ⟨.identifier "a", ⟨"page", 1, 7⟩, false⟩, ⟨.symbol .closeTag, ⟨"page", 1, 9⟩, false⟩,
    ⟨.text "x\n", ⟨"page", 1, 11⟩, false⟩, ⟨.symbol .openTag, ⟨"page", 3, 3⟩, false⟩,
    ⟨.identifier "endif", ⟨"page", 3, 6⟩, false⟩, ⟨.symbol .closeTag, ⟨"page", 3, 12⟩, false⟩]

theorem block_options_both :
    ∃ plain pieces, tokenize {} "page" "\x7b% if a %\x7d\nx\n  \x7b% endif %\x7d" = .ok plain ∧
      Thinned plain blockTokens ∧ Layout pieces ∧
      pieces.flatMap Piece.source = "\x7b% if a %\x7d\nx\n  \x7b% endif %\x7d".toList ∧
      ∀ ps body qs, pieces = ps ++ .text body :: qs → ∃ before behind front kept back,
        Excerpt "page" (ps.flatMap Piece.source) body (qs.flatMap Piece.source) blockTokens before
          behind front kept back ∧
        Governed ⟨true, true⟩ ps qs body front kept back :=
  block_options (ok_of_toOption (by decide +kernel))

/-! ## The two options together -/

/-- A block tag with nothing in it. -/
def bareTag : Piece :=
  .tag ⟨[], .symbol .openTag, false, ['\x7b', '%']⟩ [⟨[], .symbol .closeTag, false, ['%', '\x7d']⟩]

theorem fits_bareTag (hrest : rest = [] ∨ rest = "\n  \x7b%%\x7d".toList) : bareTag.Fits rest := by
  have hstart :
      Part.Stands (['%', '\x7d'] ++ rest) ⟨[], .symbol .openTag, false, ['\x7b', '%']⟩ := by
    obtain rfl | rfl := hrest
    all_goals exact ⟨List.forall_mem_nil _, .symbol (by decide) (by decide)⟩
  have hclose : Part.Stands rest ⟨[], .symbol .closeTag, false, ['%', '\x7d']⟩ := by
    obtain rfl | rfl := hrest
    all_goals exact ⟨List.forall_mem_nil _, .symbol (by decide) (by decide)⟩
  refine .tag rfl hstart rfl (.close hclose rfl) ?_
  obtain rfl | rfl := hrest
  all_goals decide

/-- The tokens of two such tags, the second one on a line of its own. -/
def bareTokens : List Token :=
  [⟨.symbol .openTag, ⟨"page", 1, 1⟩, false⟩, ⟨.symbol .closeTag, ⟨"page", 1, 3⟩, false⟩,
    ⟨.text "  ", ⟨"page", 1, 5⟩, false⟩, ⟨.symbol .openTag, ⟨"page", 2, 3⟩, false⟩,
    ⟨.symbol .closeTag, ⟨"page", 2, 5⟩, false⟩]

theorem layout_bare : Layout [bareTag, .text ['\n', ' ', ' '], bareTag] :=
  ⟨fits_bareTag (.inr rfl), .text (by decide) ⟨by decide, by decide, by decide, trivial⟩
    (.inr (by decide)), fits_bareTag (.inl rfl), trivial⟩

theorem excerpt_bare :
    Excerpt "page" "\x7b%%\x7d".toList ['\n', ' ', ' '] "\x7b%%\x7d".toList bareTokens
      (bareTokens.take 2) (bareTokens.drop 3) ['\n'] [' ', ' '] [] where
  tokens_eq := rfl
  before_stands := List.forall_mem_cons.mpr ⟨⟨[], '\x7b', _, rfl, rfl⟩,
    List.forall_mem_singleton.mpr ⟨['\x7b', '%'], '%', _, rfl, rfl⟩⟩
  behind_stands := List.forall_mem_cons.mpr ⟨⟨[], '\x7b', _, rfl, rfl⟩,
    List.forall_mem_singleton.mpr ⟨['\x7b', '%'], '%', _, rfl, rfl⟩⟩
  body_eq := rfl
  front_blank := by simp [isBlank]
  back_blank := blank_nil

/-- The indent in front of a block tag can stay, if the line break in front of it is taken. -/
theorem not_options_independent :
    ¬∀ (o : Trimming) (name source : String) (ts before behind : List Token) (ps qs : List Piece)
        (u indent front kept back : List Char), tokenize o name source = .ok ts →
      Layout (ps ++ .text (u ++ indent) :: qs) →
      (ps ++ .text (u ++ indent) :: qs).flatMap Piece.source = source.toList →
      Excerpt name (ps.flatMap Piece.source) (u ++ indent) (qs.flatMap Piece.source) ts before
        behind front kept back →
      o.lstripBlocks = true → BeginsTag qs → Indent indent →
      (Place.behind (ps.flatMap Piece.source ++ u)).column = 1 → kept = [] ∨ indent <:+ back := by
  intro h
  have hscanned : tokenize ⟨true, true⟩ "page" "\x7b%%\x7d\n  \x7b%%\x7d" = .ok bareTokens :=
    ok_of_toOption (by decide +kernel)
  have hnone := h _ _ _ _ _ _ [bareTag] [bareTag] ['\n'] [' ', ' '] _ _ _ hscanned layout_bare
    (by decide) excerpt_bare rfl ⟨_, _, rfl, rfl⟩ (by simp [Indent]) (by decide)
  exact absurd hnone (by simp)

end Token

end Stencil
