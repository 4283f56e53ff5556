import Stencil.Proofs.Scanning.Account

/-!
# Writing the source of tokens

Texts stand as they are, and in a tag one space stands between two tokens. What is written so is cut
into the same texts and tokens again, whatever strings hold.
-/

namespace Stencil

open Stencil.Text

/-- A character of a string as it is written between double quotes. -/
def escaped (c : Char) : List Char :=
  if c = '\\' then ['\\', '\\']
  else if c = '"' then ['\\', '"']
  else if c = '\n' then ['\\', 'n']
  else if c = '\t' then ['\\', 't']
  else if c = '\r' then ['\\', 'r']
  else [c]

namespace Lexeme

/-- How a lexeme is written. -/
def chars : Lexeme → List Char
  | text s => s.toList
  | keyword k => k.spelling.toList
  | identifier name => name.toList
  | string s => '"' :: (s.toList.flatMap escaped ++ ['"'])
  | number ds => ds.toList
  | symbol s => s.spelling.toList

/-- Whether a word is an identifier: it starts with a letter, `_` or a digit, and is neither a
keyword nor a number. -/
def isIdentifier : List Char → Bool
  | [] => false
  | c :: w =>
    (isNameStart c || isAsciiDigit c) && w.all isNameChar && !(c :: w).all isAsciiDigit &&
      (Keyword.ofSpelling? (String.ofList (c :: w))).isNone

/-- The lexemes that stand inside of a tag. -/
def Proper : Lexeme → Prop
  | text _ => False
  | keyword _ | string _ => True
  | identifier name => isIdentifier name.toList = true
  | number ds => ds.toList ≠ [] ∧ ds.toList.all isAsciiDigit = true
  | symbol s => s.opens = false ∧ s.closes = false

instance : DecidablePred Proper
  | text _ => inferInstanceAs (Decidable False)
  | keyword _ | string _ => inferInstanceAs (Decidable True)
  | identifier name => inferInstanceAs (Decidable (isIdentifier name.toList = true))
  | number ds => inferInstanceAs (Decidable (ds.toList ≠ [] ∧ ds.toList.all isAsciiDigit = true))
  | symbol s => inferInstanceAs (Decidable (s.opens = false ∧ s.closes = false))

end Lexeme

/-- A text, or a tag with the lexemes that it holds. -/
inductive Chunk where
  | text (s : String)
  | tag (block : Bool) (ls : List Lexeme)

namespace Chunk

/-- The delimiter that opens a tag. -/
def opening (block : Bool) : Symbol := if block then .openTag else .openOutput

/-- The delimiter that closes a tag. -/
def closing (block : Bool) : Symbol := if block then .closeTag else .closeOutput

/-- The lexemes of a chunk. -/
def lexemes : Chunk → List Lexeme
  | text s => [.text s]
  | tag block ls => .symbol (opening block) :: (ls ++ [.symbol (closing block)])

/-- How a chunk is written. In a tag, a space is in front of every lexeme but the first. -/
def chars : Chunk → List Char
  | text s => s.toList
  | tag block ls =>
    (opening block).spelling.toList ++
      (ls ++ [Lexeme.symbol (closing block)]).flatMap fun l => ' ' :: l.chars

end Chunk

/-- A lexeme with a space in front of it. -/
def Token.Part.spaced (l : Lexeme) : Part := ⟨[' '], l, false, l.chars⟩

/-- The piece of a template that a chunk is written as. -/
def Chunk.piece : Chunk → Token.Piece
  | .text s => .text s.toList
  | .tag block ls =>
    .tag ⟨[], .symbol (Chunk.opening block), false, (Chunk.opening block).spelling.toList⟩
      ((ls ++ [Lexeme.symbol (Chunk.closing block)]).map Token.Part.spaced)

/-- Nothing in the text is read as the beginning of a tag or of a comment. -/
def Bare (s : List Char) : Prop := ∀ c ∈ ['\x7b', '%', '#'], ¬ ['\x7b', c] <:+: s

/-- The chunks can be told apart again: a text is bare, not next to another one and has no brace in
front of a tag, and no tag is the mark of a verbatim block. -/
inductive Printable : List Chunk → Prop where
  | nil : Printable []
  | tag {block : Bool} {ls : List Lexeme} {chunks : List Chunk} (hls : ∀ l ∈ ls, l.Proper)
      (hmark : ¬ (block = true ∧ ls = [.identifier "verbatim"])) (h : Printable chunks) :
      Printable (.tag block ls :: chunks)
  | last {s : String} (hs : s ≠ "") (hbare : Bare s.toList) : Printable [.text s]
  | text {s : String} {block : Bool} {ls : List Lexeme} {chunks : List Chunk} (hs : s ≠ "")
      (hbare : Bare s.toList) (hbrace : s.toList.getLast? ≠ some '\x7b')
      (h : Printable (.tag block ls :: chunks)) : Printable (.text s :: .tag block ls :: chunks)

namespace Token

variable {l : Lexeme} {s rest : List Char}

/-! ## Lexemes -/

theorem escaped_cases (c : Char) :
    (∃ d, escaped c = ['\\', d] ∧ unescape? d = some c) ∨
      escaped c = [c] ∧ c ≠ '"' ∧ c ≠ '\n' ∧ c ≠ '\\' := by
  unfold escaped
  split_ifs with hescape hquote hline htab hreturn
  · exact .inl ⟨'\\', rfl, congrArg some hescape.symm⟩
  · exact .inl ⟨'"', rfl, congrArg some hquote.symm⟩
  · exact .inl ⟨'n', rfl, congrArg some hline.symm⟩
  · exact .inl ⟨'t', rfl, congrArg some htab.symm⟩
  · exact .inl ⟨'r', rfl, congrArg some hreturn.symm⟩
  · exact .inr ⟨rfl, hquote, hline, hescape⟩

/-- Any text can stand between double quotes. -/
theorem quoted_escaped (value : List Char) : Quoted '"' value (value.flatMap escaped) := by
  induction value with
  | nil => exact .nil
  | cons c value ih =>
    rw [List.flatMap_cons]
    obtain ⟨d, hd, hc⟩ | ⟨hc, hquote, hline, hescape⟩ := escaped_cases c
    · rw [hd]
      exact .escaped hc ih
    · rw [hc]
      exact .plain hquote hline hescape ih

theorem spelling_mem (symbol : Symbol) : (symbol.spelling.toList, symbol, false) ∈ spellings := by
  cases symbol
  all_goals decide

theorem space_not_mem : ∀ e ∈ spellings, ' ' ∉ e.1 := by
  decide +kernel

/-- A space ends whatever symbol is in front of it. -/
theorem spells_symbol_space (symbol : Symbol) (s : List Char) :
    Spells (' ' :: s) (.symbol symbol) false symbol.spelling.toList := by
  refine .symbol (spelling_mem symbol) fun e he hleads => Nat.le_of_not_lt fun hlt => ?_
  obtain ⟨t, ht⟩ := hleads
  have hspace : (e.1 ++ t)[symbol.spelling.toList.length]? = some ' ' := by
    rw [ht, List.getElem?_append_right (Nat.le_refl _), Nat.sub_self]
    rfl
  rw [List.getElem?_append_left hlt] at hspace
  exact space_not_mem e he (List.mem_of_getElem? hspace)

theorem closing_longest : ∀ e ∈ spellings,
    e.1.head? = some '\x7d' ∨ e.1.head? = some '%' → e.1.length ≤ 2 := by
  decide +kernel

theorem spells_closing (block : Bool) (rest : List Char) :
    Spells rest (.symbol (Chunk.closing block)) false (Chunk.closing block).spelling.toList := by
  refine .symbol (spelling_mem _) fun e he hleads => ?_
  obtain ⟨c, hc, -⟩ := head_spellings e he
  obtain ⟨t, ht⟩ := hleads
  have hhead : (e.1 ++ t).head? = some c := by
    rw [List.head?_append, hc]
    rfl
  rw [ht] at hhead
  cases block with
  | true => exact closing_longest e he (.inr (hc.trans hhead.symm))
  | false => exact closing_longest e he (.inl (hc.trans hhead.symm))

theorem run_space {p : Char → Bool} {w : List Char} (hw : ∀ c ∈ w, p c = true)
    (hspace : p ' ' = false) (s : List Char) : Run p w (' ' :: s) :=
  ⟨hw, fun c hc => by rwa [← Option.some.inj hc]⟩

theorem spells_keyword (k : Keyword) (s : List Char) :
    Spells (' ' :: s) (.keyword k) false k.spelling.toList := by
  obtain ⟨c, w, hchars, hc, hw, hword⟩ : ∃ c w, k.spelling.toList = c :: w ∧ isNameStart c = true ∧
      (∀ d ∈ w, isNameChar d = true) ∧ ofWord (c :: w) = .keyword k := by
    cases k
    all_goals exact ⟨_, _, rfl, by decide, List.all_eq_true.mp (by decide), by decide⟩
  rw [hchars, ← hword]
  exact .word hc (run_space hw (by decide) s)

theorem spells_identifier {name : String} (h : Lexeme.isIdentifier name.toList = true)
    (s : List Char) : Spells (' ' :: s) (.identifier name) false name.toList := by
  suffices hspells :
      Spells (' ' :: s) (.identifier (String.ofList name.toList)) false name.toList by
    rwa [String.ofList_toList] at hspells
  revert h
  cases name.toList with
  | nil => exact nofun
  | cons c w =>
    intro h
    simp only [Lexeme.isIdentifier, Bool.and_eq_true, Bool.not_eq_true', Option.isNone_iff_eq_none]
      at h
    obtain ⟨⟨⟨hc, hw⟩, hdigits⟩, hkeyword⟩ := h
    have hw := List.all_eq_true.mp hw
    by_cases hstart : isNameStart c = true
    · have hword : ofWord (c :: w) = .identifier (String.ofList (c :: w)) := by
        rw [ofWord, hkeyword]
      rw [← hword]
      exact .word hstart (run_space hw (by decide) s)
    · have hdigit : isAsciiDigit c = true := (Bool.or_eq_true_iff.mp hc).resolve_left hstart
      obtain ⟨ds, u, rfl, hds⟩ := exists_run isAsciiDigit w
      have hall : ∀ d ∈ c :: ds, isAsciiDigit d = true :=
        List.forall_mem_cons.mpr ⟨hdigit, hds.all⟩
      cases u with
      | nil =>
        rw [List.append_nil, List.all_eq_true.mpr hall] at hdigits
        cases hdigits
      | cons d u =>
        refine .digits hall (hds.stops d rfl) (run_space (fun e he => ?_) (by decide) s)
        exact hw e (List.mem_append_right ds he)

theorem spells_number {ds : String} (hne : ds.toList ≠ [])
    (hds : ∀ d ∈ ds.toList, isAsciiDigit d = true) (s : List Char) :
    Spells (' ' :: s) (.number ds) false ds.toList := by
  obtain ⟨c, w, hchars⟩ := List.exists_cons_of_ne_nil hne
  have hspells : Spells (' ' :: s) (.number (String.ofList (c :: w))) false (c :: w) := by
    refine .number (hchars ▸ hds) fun d hd => ?_
    rw [← Option.some.inj hd]
    decide
  rwa [← hchars, String.ofList_toList] at hspells

/-- In front of a space, a lexeme is read as it is written. -/
theorem spells_of_proper (h : l.Proper) (s : List Char) : Spells (' ' :: s) l false l.chars := by
  cases l with
  | text => exact h.elim
  | keyword k => exact spells_keyword k s
  | identifier name => exact spells_identifier h s
  | string value =>
    have hspells : Spells (' ' :: s) (.string (String.ofList value.toList)) false _ :=
      .string (.inl rfl) (quoted_escaped value.toList)
    rwa [String.ofList_toList] at hspells
  | number ds => exact spells_number h.1 (List.all_eq_true.mp h.2) s
  | symbol symbol => exact spells_symbol_space symbol s

/-! ## Tags -/

variable {block : Bool} {ls : List Lexeme} {chunk : Chunk} {chunks : List Chunk}

theorem spaced_stands (h : Spells rest l false l.chars) : (Part.spaced l).Stands rest :=
  ⟨List.forall_mem_singleton.mpr rfl, h⟩

/-- Behind a lexeme of a tag there is a space. -/
theorem exists_space (ls : List Lexeme) (l : Lexeme) (rest : List Char) :
    ∃ s, ((ls ++ [l]).map Part.spaced).flatMap Part.source ++ rest = ' ' :: s := by
  cases ls with
  | nil => exact ⟨_, rfl⟩
  | cons l ls => exact ⟨_, rfl⟩

theorem lexemes_spaced (ls : List Lexeme) : (ls.map Part.spaced).map Part.lexeme = ls := by
  rw [List.map_map]
  exact List.map_id ls

theorem not_delimiter_of_proper (h : l.Proper) : ¬ Opening l ∧ ¬ Closing l := by
  cases l with
  | symbol s => exact ⟨Bool.eq_false_iff.mp h.1, Bool.eq_false_iff.mp h.2⟩
  | text | keyword | identifier | string | number => exact ⟨id, id⟩

theorem tagged_spaced (hls : ∀ l ∈ ls, l.Proper) (block : Bool) (rest : List Char) :
    Tagged rest ((ls ++ [Lexeme.symbol (Chunk.closing block)]).map Part.spaced) := by
  induction ls with
  | nil =>
    refine .close (spaced_stands (spells_closing block rest)) ?_
    cases block with
    | true => exact rfl
    | false => exact rfl
  | cons l ls ih =>
    obtain ⟨hl, hls⟩ := List.forall_mem_cons.mp hls
    obtain ⟨s, hs⟩ := exists_space ls (.symbol (Chunk.closing block)) rest
    have hspells : Spells (' ' :: s) l false l.chars := spells_of_proper hl s
    rw [← hs] at hspells
    obtain ⟨hopening, hclosing⟩ := not_delimiter_of_proper hl
    exact .cons (spaced_stands hspells) hopening hclosing (ih hls)

/-- The mark of a verbatim block is written like a tag that holds its word. -/
theorem Mark.Proper.tagged {m : Mark} (h : m.Proper) (rest : List Char) :
    Tagged rest [⟨m.lead, .identifier "verbatim", false, verbatimWord⟩,
      ⟨m.trail, .symbol .closeTag, m.trimsAfter, dashes m.trimsAfter ++ ['%', '\x7d']⟩] := by
  have hrest : Run isNameChar "erbatim".toList
      (m.trail ++ (dashes m.trimsAfter ++ (['%', '\x7d'] ++ rest))) :=
    ⟨List.all_eq_true.mp (by decide), stops_word h.trail m.trimsAfter rest⟩
  have hword : Spells (m.trail ++ (dashes m.trimsAfter ++ (['%', '\x7d'] ++ rest)))
      (.identifier "verbatim") false verbatimWord := .word (c := 'v') (by decide) hrest
  refine .cons ⟨h.lead, ?_⟩ id id (.close ⟨h.trail, ?_⟩ rfl)
  · simpa [Part.source] using hword
  · cases m.trimsAfter with
    | true =>
      have hmem : (['-', '%', '\x7d'], Symbol.closeTag, true) ∈ spellings := by decide
      exact .symbol hmem fun e he _ => (length_spellings e he).2
    | false => exact spells_closing true rest

@[simp] theorem source_piece (chunk : Chunk) : chunk.piece.source = chunk.chars := by
  cases chunk with
  | text s => rfl
  | tag block ls =>
    rw [Chunk.piece, Piece.source, Chunk.chars, List.flatMap_map]
    rfl

/-- A tag that is written is the mark of a verbatim block only if it holds the word of one. -/
theorem markerAt?_tag_eq_none (hls : ∀ l ∈ ls, l.Proper)
    (hmark : ¬ (block = true ∧ ls = [.identifier "verbatim"])) (rest : List Char) :
    markerAt? verbatimWord ((Chunk.opening block).spelling.toList ++
      (((ls ++ [Lexeme.symbol (Chunk.closing block)]).map Part.spaced).flatMap Part.source ++
        rest)) = none := by
  cases block with
  | false => rfl
  | true =>
    refine Option.eq_none_iff_forall_ne_some.mpr fun marker hmarker => ?_
    obtain ⟨m, behind, heq, hproper, -⟩ := mark_of_markerAt? hmarker
    let word : Part := ⟨m.lead, .identifier "verbatim", false, verbatimWord⟩
    let close : Part := ⟨m.trail, .symbol .closeTag, m.trimsAfter,
      dashes m.trimsAfter ++ ['%', '\x7d']⟩
    have hbehind : ((ls ++ [Lexeme.symbol .closeTag]).map Part.spaced).flatMap Part.source ++ rest =
        dashes m.trimsBefore ++ ([word, close].flatMap Part.source ++ behind) := by
      have hwritten : m.source verbatimWord ++ behind = ['\x7b', '%'] ++
          (dashes m.trimsBefore ++ ([word, close].flatMap Part.source ++ behind)) := by
        simp [Mark.source, Part.source, word, close]
      exact List.append_cancel_left (heq.trans hwritten)
    obtain ⟨s, hs⟩ := exists_space ls (.symbol .closeTag) rest
    cases hdash : m.trimsBefore with
    | true =>
      rw [hs, hdash] at hbehind
      cases hbehind
    | false =>
      rw [hdash] at hbehind
      have hparts := (tagged_spaced hls true rest).unique (hproper.tagged behind) hbehind
      have hlexemes := congrArg (List.map Part.lexeme) hparts
      rw [lexemes_spaced] at hlexemes
      have hls : ls ++ [.symbol .closeTag] = [.identifier "verbatim"] ++ [.symbol .closeTag] :=
        hlexemes
      exact hmark ⟨rfl, List.append_cancel_right hls⟩

/-! ## Chunks -/

theorem exists_of_opens (h : opensHere s = true) :
    ∃ c ∈ ['\x7b', '%', '#'], ∃ t, s = '\x7b' :: c :: t := by
  unfold opensHere at h
  split at h
  next t => exact ⟨'#', by decide, t, rfl⟩
  next t => exact ⟨'%', by decide, t, rfl⟩
  next t => exact ⟨'\x7b', by decide, t, rfl⟩
  next => cases h

/-- Nothing begins inside of a bare text, unless its last character is a brace. -/
theorem unbroken_of_bare (hbare : Bare s) (hbrace : rest = [] ∨ s.getLast? ≠ some '\x7b') :
    Unbroken (opensHere · = true) s rest := by
  induction s with
  | nil => trivial
  | cons c s ih =>
    have htail : Bare s := fun d hd hs => hbare d hd (hs.trans (List.suffix_cons c s).isInfix)
    refine ⟨fun hopens => ?_, ih htail ?_⟩
    · obtain ⟨d, hd, t, heq⟩ := exists_of_opens hopens
      cases s with
      | nil =>
        obtain ⟨rfl, hrest⟩ := List.cons.inj heq
        obtain rfl | hbrace := hbrace
        · cases hrest
        · exact hbrace rfl
      | cons e s =>
        obtain ⟨rfl, hbehind⟩ := List.cons.inj heq
        obtain ⟨rfl, -⟩ := List.cons.inj hbehind
        exact hbare e hd ⟨[], s, rfl⟩
    · refine hbrace.imp id fun hlast h => hlast ?_
      cases s with
      | nil => cases h
      | cons e s => exact h

theorem fits_tag (hls : ∀ l ∈ ls, l.Proper)
    (hmark : ¬ (block = true ∧ ls = [.identifier "verbatim"])) (rest : List Char) :
    (Chunk.tag block ls).piece.Fits rest := by
  obtain ⟨s, hs⟩ := exists_space ls (.symbol (Chunk.closing block)) rest
  have hspells := spells_symbol_space (Chunk.opening block) s
  rw [← hs] at hspells
  refine .tag rfl ⟨List.forall_mem_nil _, hspells⟩ ?_ (tagged_spaced hls block rest)
    (markerAt?_tag_eq_none hls hmark rest)
  cases block with
  | true => exact rfl
  | false => exact rfl

/-- What can be printed has the layout that it is written in. -/
theorem layout_of_printable (h : Printable chunks) : Layout (chunks.map Chunk.piece) := by
  induction h with
  | nil => trivial
  | tag hls hmark h ih => exact ⟨fits_tag hls hmark _, ih⟩
  | @last s hs hbare =>
    have hne : s.toList ≠ [] := fun h => hs (String.toList_eq_nil_iff.mp h)
    exact ⟨.text hne (unbroken_of_bare hbare (.inl rfl)) (.inl rfl), trivial⟩
  | @text s block ls chunks hs hbare hbrace h ih =>
    have hne : s.toList ≠ [] := fun h => hs (String.toList_eq_nil_iff.mp h)
    refine ⟨.text hne (unbroken_of_bare hbare (.inr hbrace)) (.inr ?_), ih⟩
    cases block with
    | true => rfl
    | false => rfl

theorem unmarked_pieces (chunks : List Chunk) : Unmarked (chunks.map Chunk.piece) := by
  refine List.forall_mem_map.mpr fun chunk _ => ?_
  cases chunk with
  | text s => rfl
  | tag block ls =>
    refine Bool.or_eq_false_iff.mpr ⟨rfl, List.any_eq_false.mpr fun part hpart => ?_⟩
    obtain ⟨l, -, rfl⟩ := List.mem_map.mp hpart
    exact Bool.false_ne_true

@[simp] theorem lexemes_tokens (name : String) (before : List Char) (parts : List Part) :
    (Part.tokens name before parts).map Token.lexeme = parts.map Part.lexeme := by
  induction parts generalizing before with
  | nil => rfl
  | cons part parts ih => exact congrArg (part.lexeme :: ·) (ih _)

theorem lexemes_piece (chunk : Chunk) (hs : chunk ≠ .text "") (name : String) (before : List Char)
    (hrest : trimsText rest = false) :
    (chunk.piece.tokens name before rest).map Token.lexeme = chunk.lexemes := by
  cases chunk with
  | text s =>
    have hne : s.toList.isEmpty = false := by
      rw [Bool.eq_false_iff, ne_eq, List.isEmpty_iff]
      exact fun h => hs (congrArg Chunk.text (String.toList_eq_nil_iff.mp h))
    rw [Chunk.piece, Piece.tokens, hrest, cut, if_neg Bool.false_ne_true, ofText, hne,
      String.ofList_toList]
    rfl
  | tag block ls =>
    rw [Chunk.piece, Piece.tokens, List.map_cons, lexemes_tokens, lexemes_spaced]
    rfl

/-- The tokens of chunks are their lexemes. -/
theorem lexemes_scanned (h : Layout (chunks.map Chunk.piece)) (name : String)
    (before : List Char) :
    (scanned name before (chunks.map Chunk.piece)).map Token.lexeme =
      chunks.flatMap Chunk.lexemes := by
  induction chunks generalizing before with
  | nil => rfl
  | cons chunk chunks ih =>
    have htext : chunk ≠ .text "" := by
      rintro rfl
      exact h.1.source_ne_nil rfl
    have hrest := Layout.trimsText_eq_false h.2 (unmarked_pieces chunks)
    rw [List.map_cons, scanned, List.map_append, lexemes_piece chunk htext name before hrest,
      ih h.2, List.flatMap_cons]

end Token

/-- What is printed is cut into the lexemes that it was printed from. -/
theorem tokenize_printed {chunks : List Chunk} (h : Printable chunks) (name : String) :
    ∃ ts, Token.tokenize {} name (String.ofList (chunks.flatMap Chunk.chars)) = .ok ts ∧
      ts.map Token.lexeme = chunks.flatMap Chunk.lexemes ∧ ∀ t ∈ ts, t.trims = false := by
  have hlayout := Token.layout_of_printable h
  have hunmarked := Token.unmarked_pieces chunks
  have hsource : (chunks.map Chunk.piece).flatMap Token.Piece.source =
      chunks.flatMap Chunk.chars := by
    rw [List.flatMap_map]
    exact congrArg (chunks.flatMap ·) (funext Token.source_piece)
  have hscan := Token.scanFrom_of_layout hlayout name []
  rw [hsource] at hscan
  refine ⟨Token.scanned name [] (chunks.map Chunk.piece), ?_,
    Token.lexemes_scanned hlayout name [], fun t ht => (hlayout.untouched hunmarked name [] t ht).1⟩
  rw [Token.tokenize, String.toList_ofList, ← Place.behind_nil, hscan]
  exact congrArg Except.ok (hlayout.settle_eq_self hunmarked name [])

/-- A text with a lone brace, a keyword, a word that starts with a digit, and a string that holds
delimiters, quotes and a line feed. -/
theorem tokenize_printed_braces :
    let chunks : List Chunk := [.text "\x7b a \x7d\x7d",
      .tag true
        [.identifier "if", .keyword .kwNot, .identifier "3d", .symbol .percent, .number "07"],
      .tag false [.string "%\x7d \"\\\n\x7b\x7b", .symbol .minus]]
    Printable chunks ∧
      ∃ ts, Token.tokenize {} "page" (String.ofList (chunks.flatMap Chunk.chars)) = .ok ts ∧
        ts.map Token.lexeme = chunks.flatMap Chunk.lexemes ∧ ∀ t ∈ ts, t.trims = false := by
  intro chunks
  have hprintable : Printable chunks := by
    refine .text (by decide) ?_ (by decide) (.tag (by decide +kernel) (by decide) ?_)
    · exact List.forall_mem_cons.mpr ⟨by decide +kernel, List.forall_mem_cons.mpr
        ⟨by decide +kernel, List.forall_mem_singleton.mpr (by decide +kernel)⟩⟩
    · exact .tag (by decide) (by decide) .nil
  exact ⟨hprintable, tokenize_printed hprintable "page"⟩

end Stencil
