import Stencil.Proofs.Scanning.Spelling

/-!
# Tags and marks

What the scanner accepts between the delimiters of a tag, and what it takes for a mark of a verbatim
block.
-/

/-!
## The tokens of a tag

A tag goes on, behind its opening, with lexemes and blanks in front of them, up to the first
delimiter, which closes it. The scanner accepts exactly what is written so.
-/

namespace Stencil.Token

open Stencil.Text

/-- A lexeme inside of a tag as it is written, with the blanks in front of it. -/
structure Part where
  gap : List Char
  lexeme : Lexeme
  trims : Bool
  chars : List Char

namespace Part

/-- What is written of a part. -/
def source (part : Part) : List Char := part.gap ++ part.chars

/-- The token of a part that stands behind the text `before`. -/
def token (name : String) (before : List Char) (part : Part) : Token :=
  ⟨part.lexeme, .of name (.behind (before ++ part.gap)), part.trims⟩

/-- The tokens of parts that stand behind the text `before`. -/
def tokens (name : String) : (before : List Char) → List Part → List Token
  | _, [] => []
  | before, part :: parts => part.token name before :: tokens name (before ++ part.source) parts

/-- In front of `rest` the part is spelled behind its blanks. -/
structure Stands (rest : List Char) (part : Part) : Prop where
  gap : ∀ c ∈ part.gap, isBlank c = true
  spells : Spells rest part.lexeme part.trims part.chars

end Part

/-- The parts in front of `rest` end with the first delimiter, which closes the tag. -/
inductive Tagged (rest : List Char) : List Part → Prop where
  | close {part : Part} (hpart : part.Stands rest) (hclosing : Closing part.lexeme) :
      Tagged rest [part]
  | cons {part : Part} {parts : List Part} (hpart : part.Stands (parts.flatMap Part.source ++ rest))
      (hopening : ¬ Opening part.lexeme) (hclosing : ¬ Closing part.lexeme)
      (h : Tagged rest parts) : Tagged rest (part :: parts)

variable {name : String} {p start : Place} {c : Char} {s t gap rest before : List Char}
  {part : Part} {parts : List Part}

theorem closing_iff (t : Token) : Closing t.lexeme ↔ t.closes = true := by
  obtain ⟨lexeme, position, trims⟩ := t
  cases lexeme with
  | symbol s => exact Iff.rfl
  | text | keyword | identifier | string | number => exact ⟨False.elim, Bool.false_ne_true⟩

theorem not_opening_of_closing {lexeme : Lexeme} (h : Closing lexeme) : ¬ Opening lexeme := by
  cases lexeme with
  | symbol s =>
    cases s
    all_goals first | exact Bool.false_ne_true | cases h
  | text | keyword | identifier | string | number => exact id

/-! ### One part -/

theorem tagRest_blank (hgap : ∀ b ∈ gap, isBlank b = true) :
    tagRest name start p gap = refuse name start .unclosedTag := by
  have hrun : Run isBlank gap [] := ⟨hgap, nofun⟩
  have htake : gap.takeWhile isBlank = gap := by
    simpa using hrun.takeWhile_eq
  rw [tagRest]
  split
  next => rfl
  next c t heq =>
    rw [htake, List.drop_length] at heq
    cases heq

theorem tagRest_cons (hgap : ∀ b ∈ gap, isBlank b = true) (hc : isBlank c = false) :
    tagRest name start p (gap ++ c :: t) = (do
      let (token, k) ← tokenAt name (p.after gap) c t
      if token.closes then pure ([token], gap.length + 1 + k)
      else
        let (tokens, n) ← tagRest name start ((p.after gap).after (c :: t.take k)) (t.drop k)
        pure (token :: tokens, gap.length + 1 + k + n)) := by
  have hrun : Run isBlank gap (c :: t) := ⟨hgap, fun d hd => by rwa [← Option.some.inj hd]⟩
  rw [tagRest]
  split
  next heq =>
    rw [hrun.takeWhile_eq, List.drop_left] at heq
    cases heq
  next d u heq =>
    rw [hrun.takeWhile_eq, List.drop_left] at heq
    cases heq
    rw [hrun.takeWhile_eq]

theorem Part.Stands.tagRest_eq (h : part.Stands rest) (hopening : ¬ Opening part.lexeme) :
    tagRest name start (.behind before) (part.source ++ rest) =
      (if (part.token name before).closes then .ok ([part.token name before], part.source.length)
      else do
        let (tokens, n) ← tagRest name start (.behind (before ++ part.source)) rest
        pure (part.token name before :: tokens, part.source.length + n)) := by
  obtain ⟨c, cs, hchars, hc⟩ := h.spells.exists_cons
  have hread : tokenAt name (.behind (before ++ part.gap)) c (cs ++ rest) =
      .ok (part.token name before, part.chars.length - 1) :=
    tokenAt_of_spells h.spells hopening (by rw [hchars, List.cons_append])
  have hlength : part.source.length = part.gap.length + 1 + (part.chars.length - 1) := by
    rw [Part.source, hchars, List.length_append, List.length_cons]
    omega
  have hwritten : part.source ++ rest = part.gap ++ c :: (cs ++ rest) := by
    rw [Part.source, hchars, List.append_assoc, List.cons_append]
  have hafter : ((Place.behind (before ++ part.gap)).after
      (c :: (cs ++ rest).take (part.chars.length - 1))) = .behind (before ++ part.source) := by
    rw [hchars, List.length_cons, Nat.add_sub_cancel, List.take_left, ← hchars, Place.after_behind,
      List.append_assoc]
    rfl
  have hdrop : (cs ++ rest).drop (part.chars.length - 1) = rest := by
    rw [hchars, List.length_cons, Nat.add_sub_cancel, List.drop_left]
  rw [hwritten, tagRest_cons h.gap hc, Place.after_behind, hread]
  change (if _ then _ else _) = _
  rw [hafter, hdrop, ← hlength]
  rfl

/-! ### All parts -/

/-- What is written as a tag is read. -/
theorem Tagged.tagRest_eq (h : Tagged rest parts) (name : String) (start : Place)
    (before : List Char) :
    tagRest name start (.behind before) (parts.flatMap Part.source ++ rest) =
      .ok (Part.tokens name before parts, (parts.flatMap Part.source).length) := by
  induction h generalizing before with
  | @close part hpart hclosing =>
    rw [List.flatMap_singleton, hpart.tagRest_eq (not_opening_of_closing hclosing),
      if_pos ((closing_iff _).mp hclosing)]
    rfl
  | @cons part parts hpart hopening hclosing h ih =>
    rw [List.flatMap_cons, List.append_assoc, hpart.tagRest_eq hopening,
      if_neg fun h => hclosing ((closing_iff _).mpr h), ih _, List.length_append]
    rfl

/-- What is read is written as a tag. -/
theorem tagged_of_tagRest {ts : List Token} {n : Nat}
    (h : tagRest name start (.behind before) s = .ok (ts, n)) :
    ∃ parts rest, s = parts.flatMap Part.source ++ rest ∧ n = (parts.flatMap Part.source).length ∧
      Tagged rest parts ∧ ts = Part.tokens name before parts := by
  induction hlength : s.length using Nat.strongRecOn generalizing s before ts n with
  | ind length ih =>
  subst hlength
  obtain ⟨gap, u, rfl, hgap⟩ := exists_run isBlank s
  cases u with
  | nil =>
    rw [List.append_nil, tagRest_blank hgap.all] at h
    cases h
  | cons c t =>
    have hstep := h
    rw [tagRest_cons hgap.all (hgap.stops c rfl), Place.after_behind] at hstep
    obtain ⟨⟨token, k⟩, hread, -⟩ := ok_of_bind hstep
    obtain ⟨chars, rest, hchars, hlength, hspells, hopening, -⟩ := spells_of_tokenAt hread
    let part : Part := ⟨gap, token.lexeme, token.trims, chars⟩
    have hstands : part.Stands rest := ⟨hgap.all, hspells⟩
    have hsource : gap ++ c :: t = part.source ++ rest := by
      rw [hchars, Part.source, List.append_assoc]
    rw [hsource, hstands.tagRest_eq hopening] at h
    split at h
    next hcloses =>
      cases h
      refine ⟨[part], rest, ?_, ?_, .close hstands ((closing_iff _).mpr hcloses), rfl⟩
      · rw [hsource, List.flatMap_singleton]
      · rw [List.flatMap_singleton]
    next hcloses =>
      obtain ⟨⟨tokens, m⟩, hmore, hv⟩ := ok_of_bind h
      cases hv
      have hshorter : rest.length < (gap ++ c :: t).length := by
        rw [List.length_append, hchars, List.length_append, hlength]
        omega
      obtain ⟨parts, rest, rfl, rfl, htagged, rfl⟩ := ih _ hshorter hmore rfl
      refine ⟨part :: parts, rest, ?_, ?_, ?_, rfl⟩
      · rw [hsource, List.flatMap_cons, List.append_assoc]
      · rw [List.flatMap_cons, List.length_append]
      · exact .cons hstands hopening (fun h => hcloses ((closing_iff _).mp h)) htagged

end Stencil.Token

/-!
## The marks of verbatim blocks

A mark is a block tag that holds one word. Blanks may stand around the word, and a trim mark inside
of each delimiter.
-/

namespace Stencil.Text

variable {p s t : List Char}

theorem afterPrefix?_append (p s : List Char) : afterPrefix? p (p ++ s) = some s := by
  induction p with
  | nil => rfl
  | cons a p ih => rw [List.cons_append, afterPrefix?, if_pos rfl, ih]

theorem eq_append_of_afterPrefix? (h : afterPrefix? p s = some t) : s = p ++ t := by
  fun_induction afterPrefix? p s with
  | case1 s => exact Option.some.inj h
  | case2 | case4 => cases h
  | case3 a p s ih => rw [ih h, List.cons_append]

end Stencil.Text

namespace Stencil.Token

open Stencil.Text

/-- A trim mark, if there is one. -/
def dashes (trims : Bool) : List Char := if trims then ['-'] else []

/-- How the mark of a verbatim block is written. -/
structure Mark where
  trimsBefore : Bool
  lead : List Char
  trail : List Char
  trimsAfter : Bool

namespace Mark

/-- The mark with the given word. -/
def source (word : List Char) (m : Mark) : List Char :=
  ['\x7b', '%'] ++ (dashes m.trimsBefore ++ (m.lead ++ (word ++ (m.trail ++
    (dashes m.trimsAfter ++ ['%', '\x7d'])))))

/-- Only blanks stand around the word of the mark. -/
structure Proper (m : Mark) : Prop where
  lead : ∀ c ∈ m.lead, isBlank c = true
  trail : ∀ c ∈ m.trail, isBlank c = true

end Mark

variable {trims : Bool} {c : Char} {s t gap rest word : List Char} {m : Mark}

theorem dash_append (hs : '-' ∉ s.head?) : dash (dashes trims ++ s) = (trims, s) := by
  cases trims with
  | true => rfl
  | false =>
    rw [dashes, if_neg Bool.false_ne_true, List.nil_append]
    unfold dash
    split
    next => exact absurd rfl hs
    next => rfl

theorem dash_split (s : List Char) : s = dashes (dash s).1 ++ (dash s).2 := by
  unfold dash
  split
  · rfl
  · rfl

theorem exists_gap (s : List Char) :
    ∃ gap, (∀ b ∈ gap, isBlank b = true) ∧ s = gap ++ trimStart s :=
  ⟨s.takeWhile isBlank, (run_takeWhile isBlank s).all, List.takeWhile_append_dropWhile.symm⟩

/-- Neither a blank nor the end of a mark goes on with a word. -/
theorem stops_word {trail : List Char} (htrail : ∀ c ∈ trail, isBlank c = true) (trims : Bool)
    (rest : List Char) :
    ∀ c ∈ (trail ++ (dashes trims ++ (['%', '\x7d'] ++ rest))).head?, isNameChar c = false := by
  intro c hc
  cases trail with
  | cons b trail =>
    rw [← Option.some.inj hc]
    exact isNameChar_eq_false_of_blank (htrail b (List.mem_cons_self ..))
  | nil =>
    cases trims with
    | true =>
      rw [← Option.some.inj hc]
      decide
    | false =>
      rw [← Option.some.inj hc]
      decide

/-- What is written as a mark is one, with whatever behind it. -/
theorem Mark.Proper.markerAt?_eq (h : m.Proper) (hword : word.head? = some c)
    (hblank : isBlank c = false) (hdash : c ≠ '-') (rest : List Char) :
    markerAt? word (m.source word ++ rest) =
      some ⟨m.trimsBefore, m.trimsAfter, (m.source word).length⟩ := by
  obtain ⟨before, lead, trail, after⟩ := m
  obtain ⟨w, rfl⟩ := List.head?_eq_some_iff.mp hword
  obtain ⟨hlead, htrail⟩ := h
  -- what is left at each of the steps of the scanner
  let closing := dashes after ++ (['%', '\x7d'] ++ rest)
  let behindWord := trail ++ closing
  let behindLead := c :: w ++ behindWord
  have hsource : (Mark.mk before lead trail after).source (c :: w) ++ rest =
      ['\x7b', '%'] ++ (dashes before ++ (lead ++ behindLead)) := by
    simp [Mark.source, behindLead, behindWord, closing]
  have hlength : ((Mark.mk before lead trail after).source (c :: w) ++ rest).length - rest.length
      = ((Mark.mk before lead trail after).source (c :: w)).length := by
    rw [List.length_append, Nat.add_sub_cancel]
  have hbefore : dash (dashes before ++ (lead ++ behindLead)) = (before, lead ++ behindLead) := by
    refine dash_append ?_
    cases lead with
    | nil => exact fun h => hdash (Option.some.inj h)
    | cons b lead =>
      intro h
      have hb := hlead b (List.mem_cons_self ..)
      rw [Option.some.inj h] at hb
      cases hb
  have hname : ¬ behindWord.head?.any isNameChar = true := by
    have hstops := stops_word htrail after rest
    cases hhead : behindWord.head? with
    | none => exact Bool.false_ne_true
    | some d =>
      rw [Option.any_some, hstops d hhead]
      exact Bool.false_ne_true
  have hclosing : ∀ d ∈ closing.head?, isBlank d = false := by
    cases after with
    | true => exact fun d hd => by cases hd; rfl
    | false => exact fun d hd => by cases hd; rfl
  have hafter : dash closing = (after, ['%', '\x7d'] ++ rest) :=
    dash_append fun h => absurd (Option.some.inj h) (by decide)
  rw [markerAt?, hsource, afterPrefix?_append]
  dsimp only [Option.bind_eq_bind, Option.bind_some]
  rw [hbefore]
  dsimp only
  rw [trimStart_append hlead fun d hd => by rwa [← Option.some.inj hd], afterPrefix?_append]
  dsimp only [Option.bind_some]
  rw [if_neg hname, trimStart_append htrail hclosing, hafter]
  dsimp only
  rw [afterPrefix?_append, ← hsource]
  dsimp only [Option.bind_some]
  rw [hlength]
  rfl

theorem Mark.Proper.opens (h : m.Proper) (rest : List Char) :
    markerAt? verbatimWord (m.source verbatimWord ++ rest) =
      some ⟨m.trimsBefore, m.trimsAfter, (m.source verbatimWord).length⟩ :=
  h.markerAt?_eq rfl rfl (by decide) rest

theorem Mark.Proper.closes (h : m.Proper) (rest : List Char) :
    markerAt? endVerbatimWord (m.source endVerbatimWord ++ rest) =
      some ⟨m.trimsBefore, m.trimsAfter, (m.source endVerbatimWord).length⟩ :=
  h.markerAt?_eq rfl rfl (by decide) rest

/-- A mark is written as one. -/
theorem mark_of_markerAt? {marker : Marker} (h : markerAt? word s = some marker) :
    ∃ (m : Mark) (rest : List Char), s = m.source word ++ rest ∧ m.Proper ∧
      marker = ⟨m.trimsBefore, m.trimsAfter, (m.source word).length⟩ := by
  unfold markerAt? at h
  dsimp only at h
  obtain ⟨opened, hopen, h⟩ := Option.bind_eq_some_iff.mp h
  obtain ⟨behindWord, hword, h⟩ := Option.bind_eq_some_iff.mp h
  by_cases hname : behindWord.head?.any isNameChar = true
  · rw [if_pos hname] at h
    cases h
  · rw [if_neg hname] at h
    obtain ⟨rest, hclose, h⟩ := Option.bind_eq_some_iff.mp h
    cases h
    obtain ⟨lead, hlead, hinner⟩ := exists_gap (dash opened).2
    obtain ⟨trail, htrail, hbehind⟩ := exists_gap behindWord
    let m : Mark := ⟨(dash opened).1, lead, trail, (dash (trimStart behindWord)).1⟩
    have hsource : s = m.source word ++ rest :=
      calc
        s = ['\x7b', '%'] ++ opened := eq_append_of_afterPrefix? hopen
        _ = ['\x7b', '%'] ++ (dashes m.trimsBefore ++ (lead ++ trimStart (dash opened).2)) := by
          rw [← hinner, ← dash_split]
        _ = ['\x7b', '%'] ++ (dashes m.trimsBefore ++ (lead ++ (word ++ behindWord))) := by
          rw [eq_append_of_afterPrefix? hword]
        _ = ['\x7b', '%'] ++ (dashes m.trimsBefore ++ (lead ++ (word ++ (trail ++
              (dashes m.trimsAfter ++ (dash (trimStart behindWord)).2))))) := by
          rw [← dash_split, ← hbehind]
        _ = m.source word ++ rest := by
          rw [eq_append_of_afterPrefix? hclose]
          simp [Mark.source, m]
    refine ⟨m, rest, hsource, ⟨hlead, htrail⟩, ?_⟩
    rw [hsource, List.length_append, Nat.add_sub_cancel]

end Stencil.Token
