import Mathlib.Data.List.Basic
import Stencil.Proofs.Scanning.Places
import Stencil.Proofs.Scanning.Unique

/-!
# Texts as slices of the source

Texts are slices of the source, and what is in none of them was trimmed or is markup.
-/

namespace Stencil

/-!
## Slices of a text

Some characters of a text are outside of its markup. Texts are carved out of it: they are slices of
it, in order and apart from each other, and what is outside and in none of them may be missing.
-/

/-- A stretch of a text, from one offset up to another. -/
structure Span where
  start : Nat
  stop : Nat

namespace Span

/-- The slice of the text. -/
def slice (s : List Char) (span : Span) : List Char :=
  (s.drop span.start).take (span.stop - span.start)

/-- The offset belongs to the stretch. -/
def Covers (span : Span) (i : Nat) : Prop := span.start ≤ i ∧ i < span.stop

/-- The stretch `n` characters further behind. -/
def shift (n : Nat) (span : Span) : Span := ⟨n + span.start, n + span.stop⟩

theorem slice_append_left {s : List Char} {span : Span} (h : span.stop ≤ s.length)
    (t : List Char) : span.slice (s ++ t) = span.slice s := by
  unfold slice
  by_cases hstart : span.start ≤ s.length
  · rw [List.drop_append_of_le_length hstart, List.take_append_of_le_length]
    rw [List.length_drop]
    omega
  · have hempty : span.stop - span.start = 0 := by omega
    rw [hempty]
    rfl

theorem slice_append_right (s t : List Char) (span : Span) :
    (span.shift s.length).slice (s ++ t) = span.slice t := by
  unfold slice shift
  dsimp only
  rw [Nat.add_sub_add_left, List.drop_length_add_append]

end Span

/-- The spans are those of the texts `values` in the source, and what is missing of the characters
marked as `outside` is part of something that `spare` holds of. -/
structure Carved (spare : List Char → Prop) (source : List Char) (outside : List Bool)
    (values : List (List Char)) (spans : List Span) : Prop where
  values : values = spans.map (Span.slice source)
  bounds : ∀ span ∈ spans, span.start < span.stop ∧ span.stop ≤ source.length
  ordered : spans.Pairwise fun a b => a.stop ≤ b.start
  missing : ∀ i c, source[i]? = some c → outside[i]? = some true →
    (∀ span ∈ spans, ¬ span.Covers i) → ∃ w, spare w ∧ c ∈ w

namespace Carved

variable {spare : List Char → Prop} {s s' w front back : List Char} {outside outside' : List Bool}
  {values values' : List (List Char)} {spans spans' : List Span}

theorem nil : Carved spare [] [] [] [] where
  values := rfl
  bounds := List.forall_mem_nil _
  ordered := .nil
  missing := nofun

theorem hidden (w : List Char) : Carved spare w (List.replicate w.length false) [] [] where
  values := rfl
  bounds := List.forall_mem_nil _
  ordered := .nil
  missing i c _ houtside := by
    rw [List.getElem?_replicate] at houtside
    split at houtside
    · cases houtside
    · cases houtside

theorem dropped (hw : spare w) : Carved spare w (List.replicate w.length true) [] [] where
  values := rfl
  bounds := List.forall_mem_nil _
  ordered := .nil
  missing _ _ hc _ _ := ⟨w, hw, List.mem_of_getElem? hc⟩

theorem kept (hw : w ≠ []) (hfront : spare front) (hback : spare back) :
    Carved spare (front ++ (w ++ back)) (List.replicate (front ++ (w ++ back)).length true) [w]
      [⟨front.length, front.length + w.length⟩] where
  values := by
    unfold Span.slice
    rw [List.map_singleton, List.drop_left, Nat.add_sub_cancel_left, List.take_left]
  bounds := by
    have hpositive := List.length_pos_iff.mpr hw
    simp only [List.mem_singleton, forall_eq, List.length_append]
    omega
  ordered := List.pairwise_singleton _ _
  missing i c hc _ huncovered := by
    have hi : ¬ (front.length ≤ i ∧ i < front.length + w.length) :=
      huncovered _ (List.mem_singleton_self _)
    by_cases hfrontside : i < front.length
    · rw [List.getElem?_append_left hfrontside] at hc
      exact ⟨front, hfront, List.mem_of_getElem? hc⟩
    · rw [List.getElem?_append_right (by omega), List.getElem?_append_right (by omega)] at hc
      exact ⟨back, hback, List.mem_of_getElem? hc⟩

theorem append (h : Carved spare s outside values spans) (hlength : outside.length = s.length)
    (h' : Carved spare s' outside' values' spans') :
    Carved spare (s ++ s') (outside ++ outside') (values ++ values')
      (spans ++ spans'.map (Span.shift s.length)) where
  values := by
    rw [h.values, h'.values, List.map_append, List.map_map]
    congr 1
    · refine List.map_congr_left fun span hspan => ?_
      rw [Span.slice_append_left (h.bounds span hspan).2]
    · refine List.map_congr_left fun span _ => ?_
      rw [Function.comp_apply, Span.slice_append_right]
  bounds := by
    refine List.forall_mem_append.mpr ⟨fun span hspan => ?_, ?_⟩
    · have hbounds := h.bounds span hspan
      rw [List.length_append]
      omega
    · simp only [List.forall_mem_map]
      intro span hspan
      have hbounds := h'.bounds span hspan
      rw [List.length_append]
      unfold Span.shift
      dsimp only
      omega
  ordered := by
    refine List.pairwise_append.mpr ⟨h.ordered, ?_, fun a ha => ?_⟩
    · refine List.pairwise_map.mpr (h'.ordered.imp fun {a b} hab => ?_)
      exact Nat.add_le_add_left hab _
    · simp only [List.forall_mem_map]
      intro b _
      exact Nat.le_trans (h.bounds a ha).2 (Nat.le_add_right _ _)
  missing i c hc houtside huncovered := by
    obtain ⟨hleft, hright⟩ := List.forall_mem_append.mp huncovered
    by_cases hi : i < s.length
    · rw [List.getElem?_append_left hi] at hc
      rw [List.getElem?_append_left (by omega)] at houtside
      exact h.missing i c hc houtside hleft
    · rw [List.getElem?_append_right (by omega)] at hc houtside
      rw [hlength] at houtside
      refine h'.missing (i - s.length) c hc houtside fun span hspan hcovers => ?_
      refine hright _ (List.mem_map_of_mem hspan) ?_
      unfold Span.Covers Span.shift at *
      dsimp only at *
      omega

end Carved

/-!
## An account of the source

The texts among the tokens are slices of the source. What stands outside of tags, comments and marks
and is in none of the slices was trimmed: it is blank, and there is none where nothing trims.
-/

section Texts

open Stencil.Text

namespace Token

/-- A stretch of a template: the markup of a tag, a comment or a mark, or text outside of it. -/
inductive Stretch where
  | markup (w : List Char)
  | text (w : List Char)

namespace Stretch

/-- What is written of the stretch. -/
def source : Stretch → List Char
  | markup w | text w => w

/-- For every character, whether it is outside of markup. -/
def outside : Stretch → List Bool
  | markup w => List.replicate w.length false
  | text w => List.replicate w.length true

/-- The text, if the stretch is one. -/
def text? : Stretch → Option (List Char)
  | markup _ => none
  | text w => some w

@[simp] theorem length_outside (stretch : Stretch) :
    stretch.outside.length = stretch.source.length := by
  cases stretch with
  | markup w => exact List.length_replicate
  | text w => exact List.length_replicate

end Stretch

namespace Piece

/-- The piece as markup and text. Of a verbatim block, its marks are markup. -/
def stretches : Piece → List Stretch
  | text body => [.text body]
  | comment body => [.markup (comment body).source]
  | verbatim opening lead body closing trail =>
    [.markup (opening.source verbatimWord), .text (lead ++ body),
      .markup (closing.source endVerbatimWord), .text trail]
  | tag start parts => [.markup (tag start parts).source]

/-- For every character, whether it is outside of tags, comments and marks. -/
def outside (piece : Piece) : List Bool := piece.stretches.flatMap Stretch.outside

/-- Whether a trim mark belongs to the piece. -/
def trims : Piece → Bool
  | text _ | comment _ => false
  | verbatim opening _ _ closing _ =>
    opening.trimsBefore || opening.trimsAfter || closing.trimsBefore || closing.trimsAfter
  | tag start parts => start.trims || parts.any Part.trims

@[simp] theorem flatMap_stretches (piece : Piece) :
    piece.stretches.flatMap Stretch.source = piece.source := by
  cases piece with
  | text | comment | tag => exact List.flatMap_singleton ..
  | verbatim => simp [stretches, source, Stretch.source]

end Piece

/-- The offset is that of a character outside of tags, comments and marks. -/
def Outside (pieces : List Piece) (i : Nat) : Prop :=
  (pieces.flatMap Piece.outside)[i]? = some true

/-- No piece has a trim mark. -/
def Unmarked (pieces : List Piece) : Prop := ∀ piece ∈ pieces, piece.trims = false

variable {name : String} {rest before : List Char} {piece : Piece} {pieces : List Piece}
  {stretches : List Stretch} {values : List (List Char)}

/-- What is kept of the texts of stretches is carved out of their source. -/
theorem exists_carved {spare : List Char → Prop}
    (h : Kept spare (stretches.filterMap Stretch.text?) values) :
    ∃ spans, Carved spare (stretches.flatMap Stretch.source) (stretches.flatMap Stretch.outside)
      values spans := by
  induction stretches generalizing values with
  | nil =>
    cases h
    exact ⟨[], .nil⟩
  | cons stretch stretches ih =>
    rw [List.flatMap_cons, List.flatMap_cons]
    cases stretch with
    | markup w =>
      obtain ⟨spans, hspans⟩ := ih h
      exact ⟨_, (Carved.hidden w).append (Stretch.length_outside (.markup w)) hspans⟩
    | text w =>
      generalize htexts : (Stretch.text w :: stretches).filterMap Stretch.text? = texts at h
      cases h with
      | nil => cases htexts
      | kept hw hfront hback h =>
        cases htexts
        obtain ⟨spans, hspans⟩ := ih h
        exact ⟨_, (Carved.kept hw hfront hback).append (Stretch.length_outside (.text _)) hspans⟩
      | dropped hw h =>
        cases htexts
        obtain ⟨spans, hspans⟩ := ih h
        exact ⟨_, (Carved.dropped hw).append (Stretch.length_outside (.text _)) hspans⟩

/-! ### What the scanner leaves of texts -/

variable {strict : Prop} {trims : Bool} {body gap : List Char} {parts : List Part}

theorem cut_split (htrims : strict → trims = false) (body : List Char) :
    ∃ back, body = cut trims body ++ back ∧ Spare strict back := by
  cases trims with
  | true =>
    obtain ⟨back, hback, hblank⟩ := trimEnd_split body
    exact ⟨back, hback, hblank, fun hstrict => nomatch htrims hstrict⟩
  | false => exact ⟨[], (List.append_nil body).symm, spare_nil strict⟩

theorem Gap.spare (h : Gap trims gap rest) (htrims : strict → trims = false) :
    Spare strict gap := by
  cases trims with
  | true => exact ⟨Run.all h, fun hstrict => nomatch htrims hstrict⟩
  | false =>
    obtain rfl : gap = [] := h
    exact spare_nil strict

theorem Part.Stands.text?_eq_none {part : Part} (h : part.Stands rest) (name : String)
    (before : List Char) : (part.token name before).text? = none := by
  obtain ⟨gap, lexeme, trims, chars⟩ := part
  cases lexeme with
  | text s => exact absurd rfl (h.spells.ne_text s)
  | keyword | identifier | string | number | symbol => rfl

theorem Tagged.texts_eq_nil (h : Tagged rest parts) (name : String) (before : List Char) :
    texts (Part.tokens name before parts) = [] := by
  induction h generalizing before with
  | close hpart =>
    rw [Part.tokens, texts, List.filterMap_cons_none (hpart.text?_eq_none name before)]
    rfl
  | cons hpart hopening hclosing h ih =>
    rw [Part.tokens, texts, List.filterMap_cons_none (hpart.text?_eq_none name before)]
    exact ih _

theorem Piece.Fits.kept (h : piece.Fits rest) (hpiece : strict → piece.trims = false)
    (hrest : strict → trimsText rest = false) :
    Kept (Spare strict) (piece.stretches.filterMap Stretch.text?)
      (texts (piece.tokens name before rest)) := by
  cases h with
  | @text body =>
    obtain ⟨back, hback, hspare⟩ := cut_split hrest body
    have hkept := Kept.single (w := cut (trimsText rest) body) (spare_nil strict) hspare
      fun _ _ => Spare.append
    rw [List.nil_append, ← hback] at hkept
    rw [Piece.tokens, ofText, texts_unless_empty]
    exact hkept
  | comment => exact .nil
  | @verbatim opening closing lead body trail hopening hlead hbody hclosing htrail =>
    have hmarks : strict → opening.trimsAfter = false ∧ closing.trimsBefore = false ∧
        closing.trimsAfter = false := by
      intro hstrict
      have htrims := hpiece hstrict
      simp only [Piece.trims, Bool.or_eq_false_iff] at htrims
      exact ⟨htrims.1.1.2, htrims.1.2, htrims.2⟩
    obtain ⟨back, hback, hspare⟩ := cut_split (fun h => (hmarks h).2.1) body
    have hkept := Kept.single (w := cut closing.trimsBefore body)
      (hlead.spare fun h => (hmarks h).1) hspare fun _ _ => Spare.append
    rw [← hback] at hkept
    rw [Piece.tokens, ofText, texts_unless_empty]
    have hdropped := Kept.dropped (htrail.spare fun h => (hmarks h).2.2) .nil
    have happend := hkept.append hdropped
    rwa [List.append_nil] at happend
  | tag hgap hstart hopening hparts =>
    rw [Piece.tokens, texts, List.filterMap_cons_none (hstart.text?_eq_none name before), ← texts,
      hparts.texts_eq_nil]
    exact .nil

/-- A mark that opens a verbatim block stands only where a layout has one. -/
theorem Piece.Fits.trimsText_eq_false (h : piece.Fits rest) (hpiece : piece.trims = false) :
    trimsText (piece.source ++ rest) = false := by
  cases h with
  | @text body hbody hplain =>
    have hmark : markerAt? verbatimWord (body ++ rest) = none := by
      obtain ⟨c, body, rfl⟩ := List.exists_cons_of_ne_nil hbody
      refine Option.eq_none_iff_forall_ne_some.mpr fun m hm => ?_
      exact hplain.1 (opensHere_of_markerAt? hm)
    rw [trimsText, Piece.source, hmark]
  | comment => rfl
  | @verbatim opening closing lead body trail hopening =>
    rw [trimsText, Piece.source, List.append_assoc, hopening.opens]
    simp only [Piece.trims, Bool.or_eq_false_iff] at hpiece
    exact hpiece.1.1.1
  | tag hgap hstart hopening hparts hmark =>
    rw [trimsText, Piece.source, List.append_assoc, hmark]

theorem Layout.trimsText_eq_false (h : Layout pieces) (hpieces : Unmarked pieces) :
    trimsText (pieces.flatMap Piece.source) = false := by
  cases pieces with
  | nil => rfl
  | cons piece pieces =>
    rw [List.flatMap_cons]
    exact h.1.trimsText_eq_false (hpieces piece (List.mem_cons_self ..))

theorem Layout.kept (h : Layout pieces) (hpieces : strict → Unmarked pieces) (name : String)
    (before : List Char) :
    Kept (Spare strict) ((pieces.flatMap Piece.stretches).filterMap Stretch.text?)
      (texts (scanned name before pieces)) := by
  induction pieces generalizing before with
  | nil => exact .nil
  | cons piece pieces ih =>
    have hmarks (hstrict : strict) := List.forall_mem_cons.mp (hpieces hstrict)
    rw [List.flatMap_cons, List.filterMap_append, scanned, texts_append]
    have hpiece : Kept (Spare strict) (piece.stretches.filterMap Stretch.text?)
        (texts (piece.tokens name before (pieces.flatMap Piece.source))) :=
      h.1.kept (fun hstrict => (hmarks hstrict).1)
        fun hstrict => h.2.trimsText_eq_false (hmarks hstrict).2
    exact hpiece.append (ih h.2 (fun hstrict => (hmarks hstrict).2) _)

/-! ### Where nothing trims -/

/-- A token that trimming has no reason to touch. -/
def Untouched (t : Token) : Prop := t.trims = false ∧ t.text? ≠ some []

theorem untouched_ofText (name : String) (p : Place) (w : List Char) :
    ∀ t ∈ ofText name p w, t.Untouched := by
  cases w with
  | nil => exact List.forall_mem_nil _
  | cons c w =>
    refine List.forall_mem_singleton.mpr ⟨rfl, fun h => ?_⟩
    have htext := Option.some.inj h
    rw [String.toList_ofList] at htext
    cases htext

theorem Part.Stands.untouched {part : Part} (h : part.Stands rest) (htrims : part.trims = false)
    (name : String) (before : List Char) : (part.token name before).Untouched := by
  refine ⟨htrims, ?_⟩
  rw [h.text?_eq_none]
  exact nofun

theorem Tagged.untouched (h : Tagged rest parts) (htrims : ∀ part ∈ parts, part.trims = false)
    (name : String) (before : List Char) :
    ∀ t ∈ Part.tokens name before parts, t.Untouched := by
  induction h generalizing before with
  | close hpart =>
    exact List.forall_mem_singleton.mpr
      (hpart.untouched (htrims _ (List.mem_cons_self ..)) name before)
  | cons hpart hopening hclosing h ih =>
    obtain ⟨hhead, htail⟩ := List.forall_mem_cons.mp htrims
    exact List.forall_mem_cons.mpr ⟨hpart.untouched hhead name before, ih htail _⟩

theorem Piece.Fits.untouched (h : piece.Fits rest) (hpiece : piece.trims = false) (name : String)
    (before : List Char) : ∀ t ∈ piece.tokens name before rest, t.Untouched := by
  cases h with
  | text => exact untouched_ofText _ _ _
  | comment => exact List.forall_mem_nil _
  | verbatim => exact untouched_ofText _ _ _
  | tag hgap hstart hopening hparts =>
    obtain ⟨hhead, htail⟩ := Bool.or_eq_false_iff.mp hpiece
    refine List.forall_mem_cons.mpr ⟨hstart.untouched hhead name before, ?_⟩
    exact hparts.untouched (fun part hpart => by simpa using List.any_eq_false.mp htail part hpart)
      name _

theorem Layout.untouched (h : Layout pieces) (hpieces : Unmarked pieces) (name : String)
    (before : List Char) : ∀ t ∈ scanned name before pieces, t.Untouched := by
  induction pieces generalizing before with
  | nil => exact List.forall_mem_nil _
  | cons piece pieces ih =>
    obtain ⟨hhead, htail⟩ := List.forall_mem_cons.mp hpieces
    exact List.forall_mem_append.mpr ⟨h.1.untouched hhead name before, ih h.2 htail _⟩

/-- Without options and trim marks, the tokens are those that were scanned. -/
theorem Layout.settle_eq_self (h : Layout pieces) (hpieces : Unmarked pieces) (name : String)
    (before : List Char) :
    ({} : Trimming).settle none (scanned name before pieces) = scanned name before pieces :=
  Trimming.settle_eq_self nofun (h.untouched hpieces name before)

/-! ### The account -/

/-- What the tokens of a source say about it. -/
structure Account (o : Trimming) (name source : String) (ts : List Token) (pieces : List Piece)
    (spans : List Span) : Prop where
  layout : Layout pieces
  source_eq : pieces.flatMap Piece.source = source.toList
  /-- The source has no other layout. -/
  unique : ∀ others, Layout others → others.flatMap Piece.source = source.toList → others = pieces
  /-- The texts are slices of the source. -/
  texts_eq : texts ts = spans.map (Span.slice source.toList)
  bounds : ∀ span ∈ spans, span.start < span.stop ∧ span.stop ≤ source.toList.length
  /-- The slices are disjoint and in order. -/
  ordered : spans.Pairwise fun a b => a.stop ≤ b.start
  /-- What is outside of markup and in no slice is blank. -/
  blank : ∀ i c, source.toList[i]? = some c → Outside pieces i →
    (∀ span ∈ spans, ¬ span.Covers i) → isBlank c = true
  /-- Without options and trim marks, everything outside of markup is in a slice. -/
  covered : o = {} → Unmarked pieces →
    ∀ i < source.toList.length, Outside pieces i → ∃ span ∈ spans, span.Covers i
  /-- A token has the place of a character of the source, and unless it is a text, its spelling
  starts there. -/
  placed : ∀ t ∈ ts, ∃ before c rest, source.toList = before ++ c :: rest ∧
    t.position = .of name (.behind before) ∧ t.Written (c :: rest)
  /-- Positions increase from token to token. -/
  increasing : ts.Pairwise fun t u => t.position.Before u.position

theorem Layout.exists_carved (h : Layout pieces) (o : Trimming) (name : String) :
    ∃ spans, Carved (Spare (o = {} ∧ Unmarked pieces)) (pieces.flatMap Piece.source)
      (pieces.flatMap Piece.outside) (texts (o.settle none (scanned name [] pieces))) spans := by
  have hscanned := h.kept (fun hstrict : o = {} ∧ Unmarked pieces => hstrict.2) name []
  have hsettled : Kept (Spare (o = {} ∧ Unmarked pieces)) (texts (scanned name [] pieces))
      (texts (o.settle none (scanned name [] pieces))) := by
    by_cases hstrict : o = {} ∧ Unmarked pieces
    · obtain ⟨rfl, hpieces⟩ := hstrict
      rw [h.settle_eq_self hpieces]
      refine .refl (spare_nil _) fun w hw => ?_
      obtain ⟨t, ht, htext⟩ := List.mem_filterMap.mp hw
      rintro rfl
      exact (h.untouched hpieces name [] t ht).2 htext
    · exact (Trimming.kept_settle o none _).imp fun w hw => ⟨hw, fun h => absurd h hstrict⟩
  obtain ⟨spans, hspans⟩ := Token.exists_carved (hscanned.trans hsettled fun _ _ => Spare.append)
  have hsource : (pieces.flatMap Piece.stretches).flatMap Stretch.source =
      pieces.flatMap Piece.source := by
    rw [List.flatMap_assoc]
    exact congrArg (pieces.flatMap ·) (funext Piece.flatMap_stretches)
  rw [hsource, List.flatMap_assoc] at hspans
  exact ⟨spans, hspans⟩

/-- Every source that is cut into tokens is accounted for. -/
theorem exists_account {o : Trimming} {name source : String} {ts : List Token}
    (h : tokenize o name source = .ok ts) :
    ∃ pieces spans, Account o name source ts pieces spans := by
  obtain ⟨scan, hscan, hts⟩ := ok_of_bind h
  cases hts
  have hbegin : scanFrom name (.behind []) source.toList = .ok scan := hscan
  obtain ⟨pieces, hlayout, hsource, rfl⟩ := layout_of_scanFrom hbegin
  obtain ⟨spans, hspans⟩ := hlayout.exists_carved o name
  have hfollow := (hlayout.follow name []).settle o none
  rw [hsource] at hspans hfollow
  refine ⟨pieces, spans, hlayout, hsource,
    fun others h heq => h.unique hlayout (heq.trans hsource.symm), hspans.values, hspans.bounds,
    hspans.ordered, ?_, ?_, ?_, hfollow.pairwise⟩
  · intro i c hc houtside huncovered
    obtain ⟨w, hw, hmem⟩ := hspans.missing i c hc houtside huncovered
    exact hw.1 c hmem
  · intro ho hpieces i hi houtside
    by_contra hnone
    obtain ⟨w, hw, hmem⟩ := hspans.missing i _ (List.getElem?_eq_getElem hi) houtside
      fun span hspan hcovers => hnone ⟨span, hspan, hcovers⟩
    rw [hw.2 ⟨ho, hpieces⟩] at hmem
    cases hmem
  · intro t ht
    obtain ⟨passed, c, rest, hsplit, hposition, hwritten⟩ := hfollow.exists_place t ht
    exact ⟨passed, c, rest, hsplit, hposition, hwritten⟩

/-- Trim marks, a comment and a verbatim block in one source. -/
theorem exists_account_trimmed :
    ∃ pieces spans, Account {} "page"
      "a \x7b\x7b- x \x7d\x7d\x7b# c #\x7d\x7b% verbatim -%\x7d \x7b\x7b \n\x7b% endverbatim %\x7d"
      [⟨.text "a", ⟨"page", 1, 1⟩, false⟩, ⟨.symbol .openOutput, ⟨"page", 1, 3⟩, true⟩,
        ⟨.identifier "x", ⟨"page", 1, 7⟩, false⟩, ⟨.symbol .closeOutput, ⟨"page", 1, 9⟩, false⟩,
        ⟨.text "\x7b\x7b \n", ⟨"page", 1, 34⟩, false⟩] pieces spans :=
  exists_account (ok_of_toOption (by decide +kernel))

end Token

end Texts

end Stencil
