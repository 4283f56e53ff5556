import Stencil.Proofs.Keeping
import Stencil.Proofs.Text.Parts
import Stencil.Token.Scan

/-!
# What the scanner takes inside of a tag

Runs of characters, and the tokens that are spelled with them.
-/

namespace Stencil.Token

open Stencil.Text

variable {p q : Char → Bool} {w w' rest s : List Char} {c : Char}

/-! ## Places where something begins -/

/-- Nowhere in `body`, with `rest` behind it, does what `stop` describes begin. -/
def Unbroken (stop : List Char → Prop) : (body rest : List Char) → Prop
  | [], _ => True
  | c :: body, rest => ¬ stop (c :: (body ++ rest)) ∧ Unbroken stop body rest

theorem exists_unbroken (stop : List Char → Bool) (s : List Char) :
    ∃ body rest, s = body ++ rest ∧ Unbroken (stop · = true) body rest ∧
      (rest = [] ∨ stop rest = true) := by
  induction s with
  | nil => exact ⟨[], [], rfl, trivial, .inl rfl⟩
  | cons c s ih =>
    by_cases hc : stop (c :: s) = true
    · exact ⟨[], c :: s, rfl, trivial, .inr hc⟩
    · obtain ⟨body, rest, rfl, hbody, hrest⟩ := ih
      exact ⟨c :: body, rest, rfl, ⟨hc, hbody⟩, hrest⟩

/-- The text in front of the first place where something begins. -/
theorem Unbroken.runUntil_eq {stop : List Char → Bool} {body : List Char}
    (h : Unbroken (stop · = true) body rest) (hrest : rest = [] ∨ stop rest = true)
    (acc : List Char) : runUntil stop acc (body ++ rest) = acc.reverse ++ body := by
  induction body generalizing acc with
  | nil =>
    rw [List.nil_append, List.append_nil]
    cases rest with
    | nil => rfl
    | cons c rest =>
      have hc : stop (c :: rest) = true := hrest.resolve_left (List.cons_ne_nil _ _)
      unfold runUntil
      rw [if_pos hc]
  | cons c body ih =>
    rw [List.cons_append, runUntil, if_neg h.1, ih h.2, List.reverse_cons, List.append_assoc]
    rfl

end Stencil.Token

/-! ### Places -/

namespace Stencil.Place

/-- The place behind the text `before`: its lines are ended by line feeds, and the column counts the
characters behind the last one. -/
def behind (before : List Char) : Place :=
  ⟨1 + before.count '\n', 1 + (before.reverse.takeWhile (· != '\n')).length⟩

theorem behind_nil : behind [] = {} := rfl

theorem step_behind (before : List Char) (c : Char) :
    (behind before).step c = behind (before ++ [c]) := by
  unfold behind step
  rw [List.reverse_append, List.count_append]
  by_cases hc : c = '\n'
  · subst hc
    rw [if_pos rfl]
    simp
    omega
  · rw [if_neg hc]
    have hne : (c != '\n') = true := by simpa using hc
    simp [hne, hc]
    omega

theorem after_behind (before s : List Char) : (behind before).after s = behind (before ++ s) := by
  induction s generalizing before with
  | nil => rw [after_nil, List.append_nil]
  | cons c s ih => rw [after_cons, step_behind, ih, List.append_assoc, List.singleton_append]

end Stencil.Place

/-!
## How tokens are spelled

Inside of a tag stand words, numbers, strings and symbols. Of a word and of a number all characters
are taken, and of the symbols the longest one that is there. What is read is what is spelled, and
what is spelled is read.
-/

namespace Stencil.Token

open Stencil.Text

/-- The lexeme opens a tag. -/
def Opening : Lexeme → Prop
  | .symbol s => s.opens = true
  | _ => False

/-- The lexeme closes a tag. -/
def Closing : Lexeme → Prop
  | .symbol s => s.closes = true
  | _ => False

/-- A string between quotes, and the value that it stands for. -/
inductive Quoted (quote : Char) : (value body : List Char) → Prop where
  | nil : Quoted quote [] []
  | plain {c : Char} {value body : List Char} (hquote : c ≠ quote) (hline : c ≠ '\n')
      (hescape : c ≠ '\\') (h : Quoted quote value body) : Quoted quote (c :: value) (c :: body)
  | escaped {c d : Char} {value body : List Char} (hd : unescape? c = some d)
      (h : Quoted quote value body) : Quoted quote (d :: value) ('\\' :: c :: body)

/-- In front of `rest` the characters `chars` spell the lexeme, with a trim mark if `trims`. -/
inductive Spells (rest : List Char) : (lexeme : Lexeme) → (trims : Bool) → (chars : List Char) →
    Prop where
  /-- A name or a keyword. -/
  | word {c : Char} {w : List Char} (hc : isNameStart c = true) (hw : Run isNameChar w rest) :
      Spells rest (ofWord (c :: w)) false (c :: w)
  | number {c : Char} {ds : List Char} (hds : ∀ d ∈ c :: ds, isAsciiDigit d = true)
      (hrest : ∀ d ∈ rest.head?, isNameChar d = false) :
      Spells rest (.number (String.ofList (c :: ds))) false (c :: ds)
  /-- A name that starts with digits. -/
  | digits {c d : Char} {ds w : List Char} (hds : ∀ d ∈ c :: ds, isAsciiDigit d = true)
      (hd : isAsciiDigit d = false) (hw : Run isNameChar (d :: w) rest) :
      Spells rest (.identifier (String.ofList (c :: ds ++ d :: w))) false (c :: ds ++ d :: w)
  | string {quote : Char} {value body : List Char} (hquote : quote = '"' ∨ quote = '\'')
      (hbody : Quoted quote value body) :
      Spells rest (.string (String.ofList value)) false (quote :: (body ++ [quote]))
  /-- The longest symbol that is there. -/
  | symbol {s : Symbol} {trims : Bool} {chars : List Char}
      (hspelling : (chars, s, trims) ∈ spellings)
      (hlongest : ∀ e ∈ spellings, e.1 <+: chars ++ rest → e.1.length ≤ chars.length) :
      Spells rest (.symbol s) trims chars

variable {name : String} {p start : Place} {c quote : Char} {lexeme : Lexeme} {trims : Bool}
  {s rest chars value body acc : List Char}

/-! ### Classes of characters -/

theorem isNameStart_eq_false_of_digit (h : isAsciiDigit c = true) : isNameStart c = false := by
  unfold isAsciiDigit at h
  have hc : '0' ≤ c ∧ c ≤ '9' := by simpa using h
  have h0 : (48 : Nat) ≤ c.toNat := hc.1
  have h9 : c.toNat ≤ 57 := hc.2
  have hline : c ≠ '_' := by
    rintro rfl
    exact absurd h9 (by decide)
  have hletter : isAsciiLetter c = false := by
    unfold isAsciiLetter
    have ha : ¬ 'a' ≤ c := fun h => by
      have : (97 : Nat) ≤ c.toNat := h
      omega
    have hA : ¬ 'A' ≤ c := fun h => by
      have : (65 : Nat) ≤ c.toNat := h
      omega
    simp [ha, hA]
  unfold isNameStart isAlphabetic
  rw [if_pos (by omega), hletter]
  simp [hline]

theorem isNameChar_of_digit (h : isAsciiDigit c = true) : isNameChar c = true := by
  have h9 : c.toNat ≤ 57 := by
    unfold isAsciiDigit at h
    have hc : '0' ≤ c ∧ c ≤ '9' := by simpa using h
    exact hc.2
  unfold isNameChar isAlphanumeric isNumeric
  rw [if_pos (by omega), h]
  simp

/-- A blank does not belong to a word. -/
theorem isNameChar_eq_false_of_blank (h : isBlank c = true) : isNameChar c = false := by
  have hcontrols : ∀ k < 5, isNameChar (Char.ofNat (9 + k)) = false := by decide +kernel
  have hspaces : ∀ k < 11, isNameChar (Char.ofNat (0x2000 + k)) = false := by decide +kernel
  have hothers : ∀ n ∈ [0x20, 0x85, 0xA0, 0x1680, 0x2028, 0x2029, 0x202F, 0x205F, 0x3000],
      isNameChar (Char.ofNat n) = false := by
    decide +kernel
  simp only [isBlank, Bool.or_eq_true, Bool.and_eq_true, decide_eq_true_eq, beq_iff_eq] at h
  rw [← Char.ofNat_toNat c]
  by_cases hlow : 9 ≤ c.toNat ∧ c.toNat ≤ 13
  · obtain ⟨k, hk⟩ := Nat.exists_eq_add_of_le hlow.1
    exact hk ▸ hcontrols k (by omega)
  by_cases hspace : 0x2000 ≤ c.toNat ∧ c.toNat ≤ 0x200A
  · obtain ⟨k, hk⟩ := Nat.exists_eq_add_of_le hspace.1
    exact hk ▸ hspaces k (by omega)
  · refine hothers _ ?_
    simp only [hlow, hspace, false_or, or_false, or_assoc] at h
    simpa only [List.mem_cons, List.not_mem_nil, or_false] using h

/-! ### Strings -/

theorem stringRest_of_quoted (h : Quoted quote value body) (hescape : quote ≠ '\\')
    (hline : quote ≠ '\n') :
    stringRest name start quote p acc (body ++ quote :: rest) =
      .ok (acc.reverse ++ value, body.length + 1) := by
  induction h generalizing p acc with
  | nil =>
    rw [List.nil_append, stringRest, if_neg hline, if_pos rfl, List.append_nil]
    · rfl
    · exact fun h => hescape h
  | @plain c value body hc hn hb h ih =>
    rw [List.cons_append, stringRest, if_neg hn, if_neg hc, ih]
    · rw [List.reverse_cons, List.append_assoc]
      rfl
    · exact fun h => hb h
  | @escaped c d value body hd h ih =>
    rw [List.cons_append, List.cons_append, stringRest, hd]
    dsimp only
    rw [ih, List.reverse_cons, List.append_assoc]
    rfl

theorem quoted_of_stringRest {n : Nat} (h : stringRest name start quote p acc s = .ok (value, n)) :
    ∃ v body rest, s = body ++ quote :: rest ∧ value = acc.reverse ++ v ∧ n = body.length + 1 ∧
      Quoted quote v body := by
  fun_induction stringRest name start quote p acc s generalizing value n with
  | case1 | case2 | case3 | case5 => cases h
  | case4 p acc c s d hd ih =>
    obtain ⟨⟨v, k⟩, hread, hv⟩ := ok_of_bind h
    cases hv
    obtain ⟨v, body, rest, rfl, rfl, rfl, hbody⟩ := ih hread
    refine ⟨d :: v, '\\' :: c :: body, rest, rfl, ?_, rfl, .escaped hd hbody⟩
    rw [List.reverse_cons, List.append_assoc]
    rfl
  | case6 p acc s =>
    cases h
    exact ⟨[], [], s, rfl, (List.append_nil _).symm, rfl, .nil⟩
  | case7 p acc c s hescape hline hquote ih =>
    obtain ⟨⟨v, k⟩, hread, hv⟩ := ok_of_bind h
    cases hv
    obtain ⟨v, body, rest, rfl, rfl, rfl, hbody⟩ := ih hread
    refine ⟨c :: v, c :: body, rest, rfl, ?_, rfl, .plain hquote hline hescape hbody⟩
    rw [List.reverse_cons, List.append_assoc]
    rfl

/-! ### Symbols -/

/-- A spelling stands behind those that it is the beginning of. -/
theorem pairwise_spellings : spellings.Pairwise fun e e' => ¬ e.1 <+: e'.1 := by
  decide +kernel

theorem spelling_unique : ∀ e ∈ spellings, ∀ e' ∈ spellings, e.1 = e'.1 → e = e' := by
  decide +kernel

/-- The first spelling in the table is the longest one. -/
theorem symbolAt?_eq_some_iff {e : List Char × Symbol × Bool} :
    symbolAt? s = some e ↔
      e ∈ spellings ∧ e.1 <+: s ∧ ∀ e' ∈ spellings, e'.1 <+: s → e'.1.length ≤ e.1.length := by
  have hfirst {e : List Char × Symbol × Bool} (h : symbolAt? s = some e) :
      e ∈ spellings ∧ e.1 <+: s ∧ ∀ e' ∈ spellings, e'.1 <+: s → e'.1.length ≤ e.1.length := by
    obtain ⟨hleads, before, behind, htable, hbefore⟩ := List.find?_eq_some_iff_append.mp h
    have hleads : e.1 <+: s := List.isPrefixOf_iff_prefix.mp hleads
    have hpairs := pairwise_spellings
    rw [htable, List.pairwise_append, List.pairwise_cons] at hpairs
    refine ⟨List.mem_of_find?_eq_some h, hleads, fun e' he' hleads' => ?_⟩
    rw [htable, List.mem_append, List.mem_cons] at he'
    obtain he' | rfl | he' := he'
    · have hnot := hbefore e' he'
      rw [List.isPrefixOf_iff_prefix.mpr hleads'] at hnot
      cases hnot
    · exact Nat.le_refl _
    · refine Nat.le_of_not_lt fun hlt => hpairs.2.1.1 e' he' ?_
      exact List.prefix_of_prefix_length_le hleads hleads' (Nat.le_of_lt hlt)
  refine ⟨hfirst, fun ⟨hmem, hleads, hlongest⟩ => ?_⟩
  cases hfound : symbolAt? s with
  | none =>
    have hnot := List.find?_eq_none.mp hfound e hmem
    exact absurd (List.isPrefixOf_iff_prefix.mpr hleads) hnot
  | some e' =>
    obtain ⟨hmem', hleads', hlongest'⟩ := hfirst hfound
    have hlength := Nat.le_antisymm (hlongest e' hmem' hleads') (hlongest' e hmem hleads)
    have hchars : e'.1 = e.1 :=
      (List.prefix_of_prefix_length_le hleads' hleads (Nat.le_of_eq hlength)).eq_of_length hlength
    rw [spelling_unique e' hmem' e hmem hchars]

theorem length_spellings : ∀ e ∈ spellings, 0 < e.1.length ∧ e.1.length ≤ 3 := by
  decide +kernel

/-- What the spelling of a symbol starts with, starts nothing else. -/
theorem head_spellings : ∀ e ∈ spellings, ∃ c ∈ e.1.head?,
    isNameStart c = false ∧ isAsciiDigit c = false ∧ c ≠ '"' ∧ c ≠ '\'' ∧ isBlank c = false := by
  have hall : ∀ e ∈ spellings, e.1.head?.any (fun c => !isNameStart c && !isAsciiDigit c &&
      c != '"' && c != '\'' && !isBlank c) = true := by
    decide +kernel
  intro e he
  have hclass := hall e he
  cases hhead : e.1.head? with
  | none =>
    rw [hhead] at hclass
    cases hclass
  | some c =>
    rw [hhead] at hclass
    simp only [Option.any_some, Bool.and_eq_true, Bool.not_eq_true', bne_iff_ne, and_assoc]
      at hclass
    exact ⟨c, rfl, hclass⟩

/-- A word is a keyword or a name. -/
theorem ofWord_cases (w : List Char) :
    (∃ k, ofWord w = .keyword k) ∨ ofWord w = .identifier (String.ofList w) := by
  unfold ofWord
  cases Keyword.ofSpelling? (String.ofList w) with
  | some k => exact .inl ⟨k, rfl⟩
  | none => exact .inr rfl

theorem Spells.ne_text (h : Spells rest lexeme trims chars) (s : String) : lexeme ≠ .text s := by
  cases h with
  | @word c w hc hw =>
    obtain ⟨k, hword⟩ | hword := ofWord_cases (c :: w)
    · rw [hword]
      exact nofun
    · rw [hword]
      exact nofun
  | number | digits | string | symbol => exact nofun

/-- A symbol is spelled where the table finds it. -/
theorem spells_symbol_iff {symbol : Symbol} :
    Spells rest (.symbol symbol) trims chars ↔
      symbolAt? (chars ++ rest) = some (chars, symbol, trims) := by
  refine ⟨fun h => ?_, fun h => ?_⟩
  · generalize hlexeme : Lexeme.symbol symbol = lexeme at h
    cases h with
    | @word c w hc hw =>
      obtain ⟨k, hword⟩ | hword := ofWord_cases (c :: w)
      · rw [hword] at hlexeme
        cases hlexeme
      · rw [hword] at hlexeme
        cases hlexeme
    | number | digits | string => cases hlexeme
    | symbol hspelling hlongest =>
      cases hlexeme
      exact symbolAt?_eq_some_iff.mpr ⟨hspelling, List.prefix_append _ _, hlongest⟩
  · obtain ⟨hspelling, -, hlongest⟩ := symbolAt?_eq_some_iff.mp h
    exact .symbol hspelling hlongest

/-! ### Tokens -/

theorem isBlank_eq_false_of_nameChar (h : isNameChar c = true) : isBlank c = false := by
  rw [← Bool.not_eq_true]
  intro hblank
  rw [isNameChar_eq_false_of_blank hblank] at h
  cases h

/-- No lexeme is spelled without characters, and none starts with a blank. -/
theorem Spells.exists_cons (h : Spells rest lexeme trims chars) :
    ∃ c cs, chars = c :: cs ∧ isBlank c = false := by
  cases h with
  | word hc hw => exact ⟨_, _, rfl, isBlank_eq_false_of_nameChar (isNameChar_of_isNameStart hc)⟩
  | number hds hrest =>
    exact ⟨_, _, rfl, isBlank_eq_false_of_nameChar (isNameChar_of_digit (hds _ (.head _)))⟩
  | digits hds hd hw =>
    exact ⟨_, _, rfl, isBlank_eq_false_of_nameChar (isNameChar_of_digit (hds _ (.head _)))⟩
  | string hquote hbody =>
    refine ⟨_, _, rfl, ?_⟩
    obtain rfl | rfl := hquote
    · rfl
    · rfl
  | symbol hspelling hlongest =>
    obtain ⟨c, hc, -, -, -, -, hblank⟩ := head_spellings _ hspelling
    obtain ⟨cs, rfl⟩ := List.head?_eq_some_iff.mp hc
    exact ⟨c, cs, rfl, hblank⟩

theorem tokenAt_word {w : List Char} (hc : isNameStart c = true) (hw : Run isNameChar w rest) :
    tokenAt name p c (w ++ rest) = .ok (⟨ofWord (c :: w), .of name p, false⟩, w.length) := by
  unfold tokenAt
  rw [if_pos hc, hw.takeWhile_eq]

theorem tokenAt_number {ds : List Char} (hds : ∀ d ∈ c :: ds, isAsciiDigit d = true)
    (hrest : ∀ d ∈ rest.head?, isNameChar d = false) :
    tokenAt name p c (ds ++ rest) =
      .ok (⟨.number (String.ofList (c :: ds)), .of name p, false⟩, ds.length) := by
  obtain ⟨hc, hds⟩ := List.forall_mem_cons.mp hds
  have hstart : ¬ isNameStart c = true := by
    rw [isNameStart_eq_false_of_digit hc]
    exact Bool.false_ne_true
  have hrun : Run isAsciiDigit ds rest := by
    refine ⟨hds, fun d hd => ?_⟩
    rw [← Bool.not_eq_true]
    intro hmore
    have hname := hrest d hd
    rw [isNameChar_of_digit hmore] at hname
    cases hname
  have hend : Run isNameChar [] rest := ⟨List.forall_mem_nil _, hrest⟩
  have htail : rest.takeWhile isNameChar = [] := hend.takeWhile_eq
  unfold tokenAt
  rw [if_neg hstart, if_pos hc, hrun.takeWhile_eq]
  dsimp only
  rw [List.drop_left, htail]
  rfl

theorem tokenAt_digits {d : Char} {ds w : List Char} (hds : ∀ d ∈ c :: ds, isAsciiDigit d = true)
    (hd : isAsciiDigit d = false) (hw : Run isNameChar (d :: w) rest) :
    tokenAt name p c (ds ++ (d :: w ++ rest)) =
      .ok (⟨.identifier (String.ofList (c :: ds ++ d :: w)), .of name p, false⟩,
        ds.length + (d :: w).length) := by
  obtain ⟨hc, hds⟩ := List.forall_mem_cons.mp hds
  have hstart : ¬ isNameStart c = true := by
    rw [isNameStart_eq_false_of_digit hc]
    exact Bool.false_ne_true
  have hrun : Run isAsciiDigit ds (d :: w ++ rest) :=
    ⟨hds, fun e he => by rwa [← Option.some.inj he]⟩
  unfold tokenAt
  rw [if_neg hstart, if_pos hc, hrun.takeWhile_eq]
  dsimp only
  rw [List.drop_left, hw.takeWhile_eq]
  rfl

theorem tokenAt_string (hquote : quote = '"' ∨ quote = '\'') (hbody : Quoted quote value body) :
    tokenAt name p quote (body ++ quote :: rest) =
      .ok (⟨.string (String.ofList value), .of name p, false⟩, body.length + 1) := by
  obtain ⟨hstart, hdigit, hescape, hline⟩ : ¬ isNameStart quote = true ∧
      ¬ isAsciiDigit quote = true ∧ quote ≠ '\\' ∧ quote ≠ '\n' := by
    obtain rfl | rfl := hquote
    · decide
    · decide
  unfold tokenAt
  rw [if_neg hstart, if_neg hdigit, if_pos hquote, stringRest_of_quoted hbody hescape hline]
  rfl

theorem tokenAt_symbol {symbol : Symbol} (hspelling : (c :: chars, symbol, trims) ∈ spellings)
    (hlongest : ∀ e ∈ spellings, e.1 <+: c :: chars ++ rest → e.1.length ≤ (c :: chars).length) :
    tokenAt name p c (chars ++ rest) =
      if symbol.opens then refuse name p (.nestedOpening (String.ofList (c :: chars)))
      else .ok (⟨.symbol symbol, .of name p, trims⟩, chars.length) := by
  obtain ⟨d, hd, hstart, hdigit, hdouble, hsingle, -⟩ := head_spellings _ hspelling
  obtain rfl := Option.some.inj hd
  have hfound : symbolAt? (c :: (chars ++ rest)) = some (c :: chars, symbol, trims) :=
    spells_symbol_iff.mp (.symbol hspelling hlongest)
  unfold tokenAt
  rw [hstart, hdigit, if_neg Bool.false_ne_true, if_neg Bool.false_ne_true,
    if_neg (not_or.mpr ⟨hdouble, hsingle⟩), hfound]
  rfl

/-- The spelling of an opening is refused inside of a tag. -/
theorem tokenAt_of_opening (h : Spells rest lexeme trims chars) (hopening : Opening lexeme)
    (hchars : chars ++ rest = c :: s) :
    tokenAt name p c s = refuse name p (.nestedOpening (String.ofList chars)) := by
  cases h with
  | @word d w hc hw =>
    obtain ⟨k, hword⟩ | hword := ofWord_cases (d :: w)
    · rw [hword] at hopening
      exact hopening.elim
    · rw [hword] at hopening
      exact hopening.elim
  | number | digits | string => exact hopening.elim
  | symbol hspelling hlongest =>
    cases chars with
    | nil =>
      obtain ⟨d, hd, -⟩ := head_spellings _ hspelling
      cases hd
    | cons d chars =>
      rw [List.cons_append] at hchars
      obtain ⟨rfl, rfl⟩ := List.cons.inj hchars
      rw [tokenAt_symbol hspelling hlongest]
      exact if_pos hopening

/-- What is spelled is read. -/
theorem tokenAt_of_spells (h : Spells rest lexeme trims chars) (hopening : ¬ Opening lexeme)
    (hchars : chars ++ rest = c :: s) :
    tokenAt name p c s = .ok (⟨lexeme, .of name p, trims⟩, chars.length - 1) := by
  cases h with
  | word hc hw =>
    rw [List.cons_append] at hchars
    obtain ⟨rfl, rfl⟩ := List.cons.inj hchars
    exact tokenAt_word hc hw
  | number hds hrest =>
    rw [List.cons_append] at hchars
    obtain ⟨rfl, rfl⟩ := List.cons.inj hchars
    exact tokenAt_number hds hrest
  | digits hds hd hw =>
    rw [List.append_assoc, List.cons_append] at hchars
    obtain ⟨rfl, rfl⟩ := List.cons.inj hchars
    rw [tokenAt_digits hds hd hw, ← List.length_append]
    rfl
  | string hquote hbody =>
    rw [List.cons_append, List.append_assoc, List.singleton_append] at hchars
    obtain ⟨rfl, rfl⟩ := List.cons.inj hchars
    rw [tokenAt_string hquote hbody, List.length_cons, List.length_append, Nat.add_sub_cancel]
    rfl
  | symbol hspelling hlongest =>
    cases chars with
    | nil =>
      obtain ⟨d, hd, -⟩ := head_spellings _ hspelling
      cases hd
    | cons d chars =>
      rw [List.cons_append] at hchars
      obtain ⟨rfl, rfl⟩ := List.cons.inj hchars
      rw [tokenAt_symbol hspelling hlongest]
      exact if_neg hopening

/-- The token is spelled by the first `n` of the characters. -/
def SpelledBy (name : String) (p : Place) (s : List Char) (t : Token) (n : Nat) : Prop :=
  ∃ chars rest, s = chars ++ rest ∧ chars.length = n ∧ Spells rest t.lexeme t.trims chars ∧
    ¬ Opening t.lexeme ∧ t.position = .of name p

section Read

variable {t : Token} {k : Nat} (h : tokenAt name p c s = .ok (t, k))
include h

theorem spelledBy_word (hc : isNameStart c = true) : SpelledBy name p (c :: s) t (k + 1) := by
  obtain ⟨w, rest, rfl, hw⟩ := exists_run isNameChar s
  rw [tokenAt_word hc hw] at h
  cases h
  refine ⟨c :: w, rest, rfl, rfl, .word hc hw, ?_, rfl⟩
  obtain ⟨k, hword⟩ | hword := ofWord_cases (c :: w)
  · rw [hword]
    exact id
  · rw [hword]
    exact id

theorem spelledBy_digits (hc : isAsciiDigit c = true) : SpelledBy name p (c :: s) t (k + 1) := by
  obtain ⟨ds, rest, rfl, hds⟩ := exists_run isAsciiDigit s
  obtain ⟨w, rest, rfl, hw⟩ := exists_run isNameChar rest
  have hall : ∀ d ∈ c :: ds, isAsciiDigit d = true := List.forall_mem_cons.mpr ⟨hc, hds.all⟩
  cases w with
  | nil =>
    rw [List.nil_append, tokenAt_number hall hw.stops] at h
    cases h
    exact ⟨c :: ds, rest, rfl, rfl, .number hall hw.stops, id, rfl⟩
  | cons d w =>
    have hd : isAsciiDigit d = false := hds.stops d rfl
    rw [tokenAt_digits hall hd hw] at h
    cases h
    refine ⟨c :: ds ++ d :: w, rest, ?_, ?_, .digits hall hd hw, id, rfl⟩
    · rw [List.append_assoc]
      rfl
    · rw [List.length_append, List.length_cons, Nat.add_right_comm]

theorem spelledBy_string (hstart : ¬ isNameStart c = true) (hdigit : ¬ isAsciiDigit c = true)
    (hquote : c = '"' ∨ c = '\'') : SpelledBy name p (c :: s) t (k + 1) := by
  rw [tokenAt, if_neg hstart, if_neg hdigit, if_pos hquote] at h
  obtain ⟨⟨value, n⟩, hread, hv⟩ := ok_of_bind h
  cases hv
  obtain ⟨v, body, rest, rfl, rfl, rfl, hbody⟩ := quoted_of_stringRest hread
  refine ⟨c :: (body ++ [c]), rest, ?_, ?_, .string hquote hbody, id, rfl⟩
  · rw [List.cons_append, List.append_assoc, List.singleton_append]
  · rw [List.length_cons, List.length_append, List.length_singleton]

theorem spelledBy_symbol (hstart : ¬ isNameStart c = true) (hdigit : ¬ isAsciiDigit c = true)
    (hquote : ¬ (c = '"' ∨ c = '\'')) : SpelledBy name p (c :: s) t (k + 1) := by
  rw [tokenAt, if_neg hstart, if_neg hdigit, if_neg hquote] at h
  cases hfound : symbolAt? (c :: s) with
  | none =>
    rw [hfound] at h
    cases h
  | some e =>
    obtain ⟨spelling, symbol, trims⟩ := e
    rw [hfound] at h
    dsimp only at h
    split at h
    next => cases h
    next hopening =>
      cases h
      obtain ⟨hspelling, ⟨rest, hrest⟩, hlongest⟩ := symbolAt?_eq_some_iff.mp hfound
      rw [← hrest] at hlongest
      obtain ⟨d, hd, -⟩ := head_spellings _ hspelling
      obtain ⟨ds, rfl⟩ := List.head?_eq_some_iff.mp hd
      exact ⟨d :: ds, rest, hrest.symm, rfl, .symbol hspelling hlongest, hopening, rfl⟩

/-- What is read is spelled. -/
theorem spells_of_tokenAt : SpelledBy name p (c :: s) t (k + 1) := by
  by_cases hstart : isNameStart c = true
  · exact spelledBy_word h hstart
  by_cases hdigit : isAsciiDigit c = true
  · exact spelledBy_digits h hdigit
  by_cases hquote : c = '"' ∨ c = '\''
  · exact spelledBy_string h hstart hdigit hquote
  · exact spelledBy_symbol h hstart hdigit hquote

end Read

end Stencil.Token
