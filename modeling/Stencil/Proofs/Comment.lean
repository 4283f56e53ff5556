import Stencil.Proofs.Groups
import Stencil.Proofs.Twins.Comments
import Stencil.Proofs.Writing.Source

/-!
# Comments

The body of a comment is read like any other and dropped. Where nothing is noted in it, it makes no
difference whether it is there: the template shows the same without it, and so do those that extend
it, include it or import its macros (`shown_uncommented`). What was noted while the body was read is
not dropped with it: its blocks stand in the template all the same (`not_shown_eq_of_comment`).
-/

/-!
## Behind a tag

Behind a tag the same text is scanned and trimmed in the same way, whatever stands in front of the
tag.
-/

namespace Stencil

open Stencil.Text Token

/-- Behind a delimiter that closes a tag, whether a line begins shows in what follows. -/
theorem Place.begins_behind {before before' : List Char} (h : before.getLast? = some '\x7d')
    (h' : before'.getLast? = some '\x7d') (w : List Char) :
    (Place.behind (before ++ w)).column = 1 ↔ (Place.behind (before' ++ w)).column = 1 := by
  have hcolumn {before : List Char} (h : before.getLast? = some '\x7d') :
      (Place.behind (before ++ w)).column = 1 ↔ w.getLast? = some '\n' := by
    obtain ⟨init, rfl⟩ := List.getLast?_eq_some_iff.mp h
    rcases List.eq_nil_or_concat w with rfl | ⟨w, d, rfl⟩
    · simp [Place.behind]
    · by_cases hd : d = '\n' <;> simp [Place.behind, hd, ← List.append_assoc]
  rw [hcolumn h, hcolumn h']

/-! ### Trimming -/

/-- The tokens say the same and trim the same of the texts beside them. -/
structure Token.TrimsLike (t t' : Token) : Prop where
  lexeme : t.lexeme = t'.lexeme
  trims : t.trims = t'.trims

/-- The tokens are also trimmed alike themselves. -/
structure Token.StandsLike (t t' : Token) : Prop extends t.TrimsLike t' where
  begins : t.position.column = 1 ↔ t'.position.column = 1

section Trimming

variable {o : Trimming} {t t' : Token} {ts ts' : List Token}
  {before before' behind behind' : Option Token}

theorem afterClose_like (h : Option.Rel TrimsLike before before') (s : List Char) :
    o.afterClose before s = o.afterClose before' s := by
  cases h with
  | none => rfl
  | some ht =>
    unfold Trimming.afterClose Token.isSymbol
    dsimp only
    rw [ht.trims, closes_eq ht.lexeme, ht.lexeme]

theorem beforeOpen_like (h : Option.Rel TrimsLike behind behind') (ht : t.StandsLike t')
    (s : List Char) :
    o.beforeOpen t.position.column behind s = o.beforeOpen t'.position.column behind' s := by
  have hbegins : (t.position.column == 1) = (t'.position.column == 1) := by
    rw [Bool.eq_iff_iff, beq_iff_eq, beq_iff_eq]
    exact ht.begins
  cases h with
  | none => rfl
  | some hu =>
    unfold Trimming.beforeOpen Token.isSymbol
    dsimp only
    rw [hu.lexeme, hu.trims, hbegins]

theorem settleOne_like (hbefore : Option.Rel TrimsLike before before') (ht : t.StandsLike t')
    (hbehind : Option.Rel TrimsLike behind behind') :
    SayAlike (o.settleOne before t behind) (o.settleOne before' t' behind') := by
  unfold Trimming.settleOne
  rw [← ht.lexeme]
  split
  · dsimp only
    rw [afterClose_like hbefore, beforeOpen_like hbehind ht]
    split
    · exact .nil
    · exact .cons rfl .nil
  · exact .cons ht.lexeme .nil

/-- Trimming leaves the same of tokens that say the same. -/
theorem settle_like (hbefore : Option.Rel TrimsLike before before')
    (h : List.Forall₂ StandsLike ts ts') :
    SayAlike (o.settle before ts) (o.settle before' ts') := by
  induction h generalizing before before' with
  | nil => exact .nil
  | @cons t t' ts ts' ht hts ih =>
    have hbehind : Option.Rel TrimsLike ts.head? ts'.head? := by
      cases hts with
      | nil => exact .none
      | cons hu => exact .some hu.toTrimsLike
    exact List.rel_append (settleOne_like hbefore ht hbehind) (ih (.some ht.toTrimsLike))

end Trimming

/-! ### Scanning -/

section Behind

variable {before before' : List Char} (h : before.getLast? = some '\x7d')
  (h' : before'.getLast? = some '\x7d') (name : String)
include h h'

theorem like_behind (lexeme : Lexeme) (trims : Bool) (w : List Char) :
    StandsLike ⟨lexeme, .of name (.behind (before ++ w)), trims⟩
      ⟨lexeme, .of name (.behind (before' ++ w)), trims⟩ :=
  ⟨⟨rfl, rfl⟩, Place.begins_behind h h' w⟩

theorem like_ofText (w body : List Char) :
    List.Forall₂ StandsLike (ofText name (.behind (before ++ w)) body)
      (ofText name (.behind (before' ++ w)) body) := by
  unfold ofText
  split
  · exact .nil
  · exact .cons (like_behind h h' name _ false w) .nil

theorem like_parts (w : List Char) (parts : List Part) :
    List.Forall₂ StandsLike (Part.tokens name (before ++ w) parts)
      (Part.tokens name (before' ++ w) parts) := by
  induction parts generalizing w with
  | nil => exact .nil
  | cons part parts ih =>
    have hpart := like_behind h h' name part.lexeme part.trims (w ++ part.gap)
    simp only [Part.tokens, Part.token, List.append_assoc]
    exact .cons hpart (ih (w ++ part.source))

/-- Behind two texts on whose last lines there is something, the same pieces are scanned alike. -/
theorem like_scanned (w : List Char) (pieces : List Piece) :
    List.Forall₂ StandsLike (scanned name (before ++ w) pieces)
      (scanned name (before' ++ w) pieces) := by
  induction pieces generalizing w with
  | nil => exact .nil
  | cons piece pieces ih =>
    have hbehind := ih (w ++ piece.source)
    simp only [scanned, List.append_assoc]
    refine List.rel_append ?_ hbehind
    cases piece with
    | text body => exact like_ofText h h' name w _
    | comment body => exact .nil
    | verbatim opening lead body closing trail =>
      simp only [Piece.tokens, List.append_assoc]
      exact like_ofText h h' name _ _
    | tag start parts =>
      have htag := like_parts h h' name w (start :: parts)
      exact htag

end Behind

/-!
## Sources with a comment

Where a comment loses its body, the tokens of the source lose those of the body. In front of it all
tokens stay, and behind it they say the same further ahead.
-/

/-- A tag that is written with its name alone. -/
structure BareTag (name : String) where
  start : Part
  word : Part
  close : Part
  opens : start.lexeme = .symbol .openTag
  named : word.lexeme = .identifier name
  closes : close.lexeme = .symbol .closeTag

namespace BareTag

variable {tagName : String} (t : BareTag tagName)

/-- The tag as a part of a template. -/
def piece : Piece := .tag t.start [t.word, t.close]

/-- What is written of the tag. -/
def source : List Char := t.piece.source

/-- The tokens of the tag behind the text `before`. -/
def tokens (name : String) (before : List Char) : TagTokens where
  opening := t.start.token name before
  start := t.word.token name (before ++ t.start.source)
  args := []
  close := t.close.token name (before ++ t.start.source ++ t.word.source)
  opens := t.opens
  inside := List.forall_mem_nil _
  closes := t.closes

theorem piece_tokens (name : String) (before rest : List Char) :
    t.piece.tokens name before rest = (t.tokens name before).tokens := rfl

theorem name?_start (name : String) (before : List Char) :
    (t.tokens name before).start.name? = some tagName := by
  have hnamed : (t.tokens name before).start.lexeme = .identifier tagName := t.named
  unfold Token.name?
  rw [hnamed]

theorem text?_eq_none (name : String) (before : List Char) :
    ∀ u ∈ (t.tokens name before).tokens, u.text? = none := by
  have hpart {part : Part} {lexeme : Lexeme} (h : part.lexeme = lexeme)
      (hno : ∀ s, lexeme ≠ .text s) (before : List Char) :
      (part.token name before).text? = none := by
    unfold Token.text? Part.token
    rw [h]
    cases lexeme with
    | text s => exact absurd rfl (hno s)
    | keyword | identifier | string | number | symbol => rfl
  refine List.forall_mem_cons.mpr ⟨hpart t.opens nofun _, List.forall_mem_cons.mpr ⟨?_, ?_⟩⟩
  · exact hpart t.named nofun _
  · exact List.forall_mem_singleton.mpr (hpart t.closes nofun _)

/-- A tag is not short, and it ends in a brace. -/
theorem source_of_fits {rest : List Char} (h : t.piece.Fits rest) :
    2 ≤ t.source.length ∧ t.source.getLast? = some '\x7d' := by
  cases h with
  | tag hgap hstart hopening hparts hmark =>
    obtain ⟨-, hlength, hlast⟩ := hparts.in_front []
    rw [source, piece, Piece.source, List.length_append, List.getLast?_append, hlast]
    exact ⟨by omega, rfl⟩

/-- Trimming leaves the tag as it is. -/
theorem settleIn_tokens (name : String) (before : List Char) (o : Trimming)
    (last behind : Option Token) (ts : List Token) :
    o.settleIn behind last ((t.tokens name before).tokens ++ ts) =
      (t.tokens name before).tokens ++ o.settleIn behind (some (t.tokens name before).close) ts :=
  Trimming.settleIn_append_of_not_text (t.text?_eq_none name before) last

end BareTag

/-- A source in which a comment is written. -/
structure Commented where
  front : List Piece
  opening : BareTag "comment"
  body : List Piece
  closing : BareTag "endcomment"
  behind : List Piece

namespace Commented

variable (s : Commented) (o : Trimming) (name : String)

/-- The parts of the source. -/
def pieces : List Piece :=
  s.front ++ s.opening.piece :: (s.body ++ s.closing.piece :: s.behind)

/-- The source as it is written. -/
def source : String := String.ofList (s.pieces.flatMap Piece.source)

/-- The source without the body of the comment. -/
def emptied : Commented := { s with body := [] }

/-- What is written from the end of the comment on. -/
def rest : List Char := s.closing.source ++ s.behind.flatMap Piece.source

/-- What is written up to the body of the comment. -/
def start : List Char := s.front.flatMap Piece.source ++ s.opening.source

/-- The tokens of the tag that opens the comment. -/
def opener : TagTokens := s.opening.tokens name (s.front.flatMap Piece.source)

/-- The tokens of the tag that ends the comment. -/
def closer : TagTokens := s.closing.tokens name (s.start ++ s.body.flatMap Piece.source)

/-- The tokens in front of the comment. -/
def tokensAhead : List Token :=
  o.settleIn (some (s.opener name).opening) none
    (scannedIn name (s.opening.source ++ (s.body.flatMap Piece.source ++ s.rest)) [] s.front)

/-- The tokens of the body of the comment. -/
def tokensInside : List Token :=
  o.settleIn (some (s.closer name).opening) (some (s.opener name).close)
    (scannedIn name s.rest s.start s.body)

/-- The tokens behind the comment. -/
def tokensBehind : List Token :=
  o.settle (some (s.closer name).close)
    (scanned name (s.start ++ s.body.flatMap Piece.source ++ s.closing.source) s.behind)

variable {s o name}

theorem tokenize_eq (h : Layout s.pieces) :
    tokenize o name s.source = .ok (s.tokensAhead o name ++ ((s.opener name).tokens ++
      (s.tokensInside o name ++ ((s.closer name).tokens ++ s.tokensBehind o name)))) := by
  have hscanned : scanned name [] s.pieces =
      scannedIn name (s.opening.source ++ (s.body.flatMap Piece.source ++ s.rest)) [] s.front ++
        ((s.opener name).tokens ++ (scannedIn name s.rest s.start s.body ++
          ((s.closer name).tokens ++ scanned name
            (s.start ++ s.body.flatMap Piece.source ++ s.closing.source) s.behind))) := by
    rw [pieces, scanned_append, scanned, scanned_append, scanned, List.flatMap_cons,
      List.flatMap_append, List.flatMap_cons, BareTag.piece_tokens, BareTag.piece_tokens]
    rfl
  unfold tokenize source
  rw [String.toList_ofList]
  change (scanFrom name (.behind []) _ >>= _) = _
  rw [scanFrom_of_layout h]
  refine congrArg Except.ok ?_
  rw [hscanned, Trimming.settle_eq_settleIn, Trimming.settleIn_append, opener,
    BareTag.settleIn_tokens, Trimming.settleIn_append, closer, BareTag.settleIn_tokens, tokensAhead,
    tokensInside, tokensBehind, Trimming.settle_eq_settleIn]
  rfl

section Layout

variable (h : Layout s.pieces)
include h

theorem fits_opening :
    s.opening.piece.Fits ((s.body ++ s.closing.piece :: s.behind).flatMap Piece.source) :=
  (layout_append.mp h).2.1

theorem layout_rest : Layout (s.closing.piece :: s.behind) :=
  (layout_append.mp (layout_append.mp h).2.2).2

theorem laysOut_front (rest : List Char) :
    LaysOut (s.opening.source ++ rest) s.front := by
  have hfront := (layout_append.mp h).1
  rw [List.flatMap_cons] at hfront
  exact hfront.in_front (s.opening.source_of_fits (fits_opening h)).1 rest

/-- The source without the body of the comment is laid out in the same way. -/
theorem layout_emptied : Layout s.emptied.pieces := by
  show Layout (s.front ++ s.opening.piece :: s.closing.piece :: s.behind)
  exact layout_append.mpr ⟨laysOut_front h _, (fits_opening h).in_front_tag _, layout_rest h⟩

theorem tokensAhead_emptied (o : Trimming) (name : String) :
    s.emptied.tokensAhead o name = s.tokensAhead o name := by
  have hfits (rest : List Char) : s.opening.piece.Fits rest := (fits_opening h).in_front_tag rest
  have hscanned := (laysOut_front h s.rest).scannedIn_eq
    (laysOut_front h (s.body.flatMap Piece.source ++ s.rest))
    ((hfits _).trimsText_eq (hfits _)) name []
  exact congrArg (o.settleIn (some (s.opener name).opening) none) hscanned

/-- Behind the comment both sources say the same. -/
theorem tokensBehind_emptied (o : Trimming) (name : String) :
    SayAlike (s.tokensBehind o name) (s.emptied.tokensBehind o name) := by
  have hlast (before : List Char) : (before ++ s.closing.source).getLast? = some '\x7d' := by
    rw [List.getLast?_append, (s.closing.source_of_fits (layout_rest h).1).2]
    rfl
  have hscanned := like_scanned (hlast (s.start ++ s.body.flatMap Piece.source))
    (hlast (s.start ++ [])) name [] s.behind
  rw [List.append_nil, List.append_nil] at hscanned
  exact settle_like (.some ⟨rfl, rfl⟩) hscanned

theorem grouped_ahead (o : Trimming) (name : String) : Grouped (s.tokensAhead o name) :=
  ((laysOut_front h _).grouped name []).settleIn o _ _

end Layout

end Commented

/-- The same tags and texts stand in front of both sources. -/
theorem Token.Grouped.recast {r : Rewording} {ts us us' : List Token} (h : Grouped ts)
    (hrest : Recast r us us') : Recast r (ts ++ us) (ts ++ us') := by
  induction h with
  | nil => exact hrest
  | text ht h ih => exact .text _ ht ht ih
  | @tag opening close inner ts hopening hinner hclosing h ih =>
    obtain ⟨symbol, hsymbol, hopens⟩ := exists_symbol_of_opening hopening
    simp only [List.cons_append, List.append_assoc]
    exact .tag symbol hopens hsymbol hsymbol (List.forall₂_same.mpr fun _ _ => rfl)
      (fun t ht => not_closes_of_isInner (hinner t ht)) ((closing_iff close).mp hclosing) rfl ih

/-- The source compiles somewhere, and in what its comment wraps nothing is noted or loaded. -/
structure Commented.Idle (c : Catalog) (o : Settings) (name : String) (s : Commented) : Prop where
  layout : Layout s.pieces
  compiled : ∃ l t, l.catalog = c ∧ l.settings = o ∧ (Library.compile name s.source l).1 = .ok t
  builtin : c.tags.find? "comment" = some (.builtin .comment)
  /-- The closing tag is the one that ends the comment. -/
  wrapped : c.Comments o (s.tokensInside o.trimming name) (s.closer name)
    (s.tokensBehind o.trimming name)
  quiet : c.Quiet (s.tokensInside o.trimming name)

/-- A comment in which nothing is noted may lack its body. -/
theorem Commented.Idle.uncommented {c : Catalog} {o : Settings} {name : String} {s : Commented}
    (h : s.Idle c o name) : Uncommented c o name s.source s.emptied.source where
  compiled := h.compiled
  tokens := by
    refine ⟨_, _, tokenize_eq h.layout, tokenize_eq (layout_emptied h.layout), ?_⟩
    rw [tokensAhead_emptied h.layout]
    refine (grouped_ahead h.layout _ _).recast ?_
    have hempties : c.Empties o .comment
        ((s.opener name).close :: (s.tokensInside o.trimming name ++ (s.closer name).tokens))
        ((s.opener name).close :: (s.emptied.closer name).tokens)
        (s.tokensBehind o.trimming name) :=
      .comment h.builtin s.opening.closes s.opening.closes h.wrapped h.quiet rfl
        (s.closing.name?_start _ _) rfl
    have hnamed : (s.opener name).start.lexeme = .identifier Tag.comment.name := s.opening.named
    have hvoid := @Recast.void { void := c.Empties o } .comment _ _ _ _ _ _ _ _
      (s.opener name).opens (s.opener name).opens hnamed hnamed hempties
      (.same (tokensBehind_emptied h.layout o.trimming name))
    rw [List.cons_append, List.append_assoc] at hvoid
    exact hvoid

end Stencil

/-! ## What is shown -/

namespace Stencil

open Library

/-- Rendered from two sets of which the second one lacks bodies of comments, the templates show the
same for all data of the caller: they write the same, and if one of them fails, so does the other,
and both because a template is not found, or neither. -/
def Template.ShowsLike (host : Host) (t t' : Template) : Prop :=
  ∀ l l' : Library, l.Uncomments l' → ∀ context out,
    EndAlike (Halt.Alike Error.SameKind) Eq (t.execute host (some l) context out).1
        (t'.execute host (some l') context out).1 ∧
      (t.execute host (some l) context out).2.out = (t'.execute host (some l') context out).2.out

variable {l l' : Library} {host : Host} {t t' : Template}

theorem showsLike_of_twins (hhost : host.Uniform) (ht : t.Twins Likeness.unplaced.widest t') :
    t.ShowsLike host t' := by
  intro l l' hl context out
  refine execute_across reflexive_unplaced (fun referrer name hl => ?_) hhost ht.template ht.options
    hl hl.globals context out
  obtain ⟨hend, hleft⟩ := load_uncommented hl referrer name
  exact ⟨hend.imp fun _ _ ht => ⟨ht.template, ht.options⟩, hleft⟩

/-- Let one set have sources in which comments have bodies that note nothing, and another one the
same sources without these bodies; deleting the body of such a comment in the text of a source gives
such a source. Then whatever source is compiled and whatever template is asked for, be it one with
such comments, one that extends or includes it or one that imports its macros, both sets give a
template or neither does; the templates show the same, and the sets stay like that. -/
theorem shown_uncommented (hhost : host.Uniform) (hl : l.Uncomments l') :
    (∀ name s, Commented.Idle l.catalog l.settings name s →
        l.Sources name s.source s.emptied.source) ∧
      (∀ name source source', l.Sources name source source' →
        UncommentsAt l l' (compile name source) (compile name source')
          (Template.ShowsLike host)) ∧
      (∀ name, UncommentsAt l l' (fromCache name) (fromCache name) (Template.ShowsLike host)) ∧
        ∀ name, UncommentsAt l l' (fromFile name) (fromFile name) (Template.ShowsLike host) := by
  have himp {m m' : Keeping Library Template}
      (h : UncommentsAt l l' m m' (Template.Twins Likeness.unplaced.widest)) :
      UncommentsAt l l' m m' (Template.ShowsLike host) :=
    ⟨h.1.imp fun _ _ => showsLike_of_twins hhost, h.2⟩
  refine ⟨fun _ _ hidle => .inr hidle.uncommented, fun _ _ _ hsource => ?_, fun name => ?_,
    fun name => ?_⟩
  · exact himp (compile_uncommented hl hsource)
  · exact himp (load_uncommented hl none name)
  · exact himp (fromFile_uncommented hl name)

/-! ## Examples -/

/-- Where there is no tag there is nothing that notes anything. -/
theorem Catalog.quiet_of_untagged {c : Catalog} {ts : List Token}
    (htag : Lexeme.symbol .openTag ∉ ts.map Token.lexeme)
    (hexported : Lexeme.keyword .kwExport ∉ ts.map Token.lexeme) : c.Quiet ts where
  tag _ _ h := absurd (h.subset List.mem_cons_self) htag
  included _ _ _ _ _ h hopening :=
    absurd (hopening ▸ List.mem_map_of_mem (h.subset List.mem_cons_self)) htag
  exported := hexported

/-- A tag with its name between two spaces. -/
def BareTag.spaced (name : String) : BareTag name where
  start := ⟨[], .symbol .openTag, false, ['\x7b', '%']⟩
  word := .spaced (.identifier name)
  close := .spaced (.symbol .closeTag)
  opens := rfl
  named := rfl
  closes := rfl

/-- A letter behind a comment, in which there is an output. -/
def remark : Commented where
  front := []
  opening := .spaced "comment"
  body := [(Chunk.tag false [.identifier "v"]).piece]
  closing := .spaced "endcomment"
  behind := [.text ['A']]

theorem layout_remark : Token.Layout remark.pieces := by
  have hbare : Bare "A".toList := fun _ _ h => Nat.not_succ_le_self 1 h.length_le
  have hprintable : Printable [.tag true [.identifier "comment"], .tag false [.identifier "v"],
      .tag true [.identifier "endcomment"], .text "A"] :=
    .tag (by decide) (by decide) (.tag (by decide) (by decide) (.tag (by decide) (by decide)
      (.last (by decide) hbare)))
  exact Token.layout_of_printable hprintable

/-- A page that extends a template, and the template with the given source. -/
def pageOn (base : String) : Library :=
  .new {} "set" [.memory [("base", base), ("page", "\x7b% extends \"base\" %\x7d")]]

/-- The output is read as the body of the comment. -/
theorem comments_remark : Catalog.Comments .builtin {} (remark.tokensInside {} "base")
    (remark.closer "base") (remark.tokensBehind {} "base") := by
  let scope : DraftScope := ⟨"base", .builtin, {}, fun _ => pure none⟩
  let draft : Draft :=
    { tokens := remark.tokensInside {} "base" ++ ((remark.closer "base").tokens ++
        remark.tokensBehind {} "base")
      library := .new {} "set" [] }
  exact @Catalog.Comments.intro _ _ _ _ _ scope 1 (remark.opener "base").start draft _ _ rfl rfl
    rfl ⟨rfl, rfl, rfl, rfl, rfl⟩ rfl

theorem idle_remark : remark.Idle .builtin {} "base" where
  layout := layout_remark
  compiled := by
    obtain ⟨t, ht⟩ : ∃ t, (compile "base" remark.source (pageOn "")).1 = .ok t :=
      exists_ok_of_isOk (by decide +kernel)
    exact ⟨_, t, rfl, rfl, ht⟩
  builtin := rfl
  wrapped := comments_remark
  quiet := Catalog.quiet_of_untagged (by decide +kernel) (by decide +kernel)

/-- The sets differ in the body of the comment alone. -/
theorem uncomments_page : (pageOn remark.source).Uncomments (pageOn remark.emptied.source) where
  settings := rfl
  catalog := rfl
  uniform := builtin_builtin.uniform
  globals := rfl
  loaders := by
    refine .cons ⟨fun _ _ => rfl, rfl, fun path => ?_⟩ .nil
    show EndAlike _ _ (Loader.open? (.memory _) _ path) (Loader.open? (.memory _) _ path)
    unfold Loader.open?
    dsimp only
    by_cases hpath : path = "base"
    · subst hpath
      exact .ok (.inr idle_remark.uncommented)
    · have hbase : (path == "base") = false := beq_eq_false_iff_ne.mpr hpath
      simp only [Table.get?, List.lookup_cons, List.lookup_nil, hbase]
      cases path == "page" with
      | true => exact .ok (.inl rfl)
      | false => exact .error rfl
  cache _ := .none

/-- A page on a template with an output in a comment shows what it shows on one without it. -/
theorem shown_uncommented_page :
    (pageOn remark.source).Uncomments (pageOn remark.emptied.source) ∧
      (Host.bare fixedMoment).Uniform ∧
      ∃ t t', (fromCache "page" (pageOn remark.source)).1 = .ok t ∧
        (fromCache "page" (pageOn remark.emptied.source)).1 = .ok t' ∧
        (t.execute (.bare fixedMoment) (some (pageOn remark.source)) [] .empty).2.out =
          (t'.execute (.bare fixedMoment) (some (pageOn remark.emptied.source)) []
            .empty).2.out := by
  have hl := uncomments_page
  have hhost := uniform_bare fixedMoment
  obtain ⟨-, -, hcached, -⟩ := shown_uncommented hhost hl
  obtain ⟨t, ht⟩ : ∃ t, (fromCache "page" (pageOn remark.source)).1 = .ok t :=
    exists_ok_of_isOk (by decide +kernel)
  have hend := (hcached "page").1
  rw [ht] at hend
  generalize (fromCache "page" (pageOn remark.emptied.source)).1 = found at hend ⊢
  cases hend with
  | @ok _ t' hshows => exact ⟨hl, hhost, t, t', ht, rfl, (hshows _ _ hl [] .empty).2⟩

/-- A set with a template that has a block. -/
def blocked : Library := .new {} "set" [.memory [("base", "<{% block a %}A{% endblock %}>")]]

/-- The text that a template writes when it is compiled and executed. -/
def Library.shown (l : Library) (name source : String) : Option String :=
  match compile name source l with
  | (.ok t, l) =>
    let (result, s) := t.execute (.bare fixedMoment) (some l) [] .empty
    if result.isOk then some s.out.contents else none
  | (.error _, _) => none

/-- A block in a comment shows where one without the comment's body does not. -/
theorem not_shown_eq_of_comment :
    blocked.shown "leaf" ("\x7b% extends \"base\" %\x7d" ++ "{% comment %}" ++
        "{% block a %}X{% endblock %}" ++ "{% endcomment %}") = some "<X>" ∧
      blocked.shown "leaf" ("\x7b% extends \"base\" %\x7d" ++ "{% comment %}" ++
        "{% endcomment %}") = some "<A>" := by
  constructor <;> decide +kernel

/-- A set with a template that may include another one, which cannot be compiled. -/
def parted : Library := .new {} "set" [.memory [("leaf", "{% nosuch %}"),
  ("part", "{% if false %}" ++ "\x7b% include \"leaf\" %\x7d" ++ "{% endif %}" ++ "X")]]

/-- A template that is included in a comment is loaded, here while a source with the name of the
other template is compiled. So it is there when it is looked up by a variable. -/
example :
    let shows := "\x7b% with name = \"part\" %\x7d" ++ "{% include name %}" ++ "{% endwith %}"
    parted.shown "leaf" ("{% comment %}" ++ "\x7b% include \"part\" %\x7d" ++
        "{% endcomment %}" ++ shows) = some "X" ∧
      parted.shown "leaf" ("{% comment %}" ++ "{% endcomment %}" ++ shows) = none := by
  constructor <;> decide +kernel

end Stencil
