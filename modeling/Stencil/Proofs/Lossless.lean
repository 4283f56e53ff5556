import Stencil.Data.Json
import Stencil.Filter.Apply
import Stencil.Proofs.Text.Plain

/-!
# Escapes can be undone

What is written in a page, in a script or in an address can be read back in one pass from the left,
also if the text had escapes in it before: `escapeHtml_lossless`, `escapejs_lossless` and
`urlencode_lossless`. In each of them one character begins all escapes and nothing else, and the
characters that mean something in a page, in a script or in an address are gone.
-/

namespace Stencil

namespace Text

/-! ## Where escapes begin -/

/-- Wherever the mark stands in the text, it begins an escape. -/
def BeginsEscapes (mark : Char) (IsEscape : List Char → Prop) (s : List Char) : Prop :=
  ∀ before behind, s = before ++ mark :: behind → ∃ e, IsEscape e ∧ e <+: mark :: behind

section BeginsEscapes

variable {mark : Char} {IsEscape : List Char → Prop} {s t : List Char}

theorem beginsEscapes_of_not_mem (h : mark ∉ s) : BeginsEscapes mark IsEscape s := by
  rintro before behind rfl
  exact absurd (List.mem_append_right _ List.mem_cons_self) h

/-- An escape has its mark in front and nowhere else. -/
theorem beginsEscapes_cons (hescape : IsEscape (mark :: s)) (h : mark ∉ s) :
    BeginsEscapes mark IsEscape (mark :: s) := by
  intro before behind hsplit
  cases before with
  | nil =>
    rw [List.nil_append] at hsplit
    exact ⟨mark :: s, hescape, hsplit ▸ List.prefix_rfl⟩
  | cons c before =>
    rw [List.cons_append, List.cons.injEq] at hsplit
    exact absurd (hsplit.2 ▸ List.mem_append_right _ List.mem_cons_self) h

theorem BeginsEscapes.append (hs : BeginsEscapes mark IsEscape s)
    (ht : BeginsEscapes mark IsEscape t) : BeginsEscapes mark IsEscape (s ++ t) := by
  intro before behind hsplit
  -- The mark stands in `t`, or it stands in `s`, where what it begins ends before `t`.
  rcases List.append_eq_append_iff.mp hsplit with ⟨between, -, hbehind⟩ | ⟨rest, hfront, hrest⟩
  · exact ht between behind hbehind
  · cases rest with
    | nil => exact ht [] behind hrest.symm
    | cons c rest =>
      rw [List.cons_append, List.cons.injEq] at hrest
      obtain ⟨rfl, rfl⟩ := hrest
      obtain ⟨e, he, hprefix⟩ := hs before rest hfront
      exact ⟨e, he, hprefix.trans (List.prefix_append (mark :: rest) t)⟩

end BeginsEscapes

/-! ## Reading back -/

/-- How a text is read back. Behind a mark there may be the rest of an escape, which stands for
something and takes up some characters; a character that begins no escape stands for itself. -/
structure Decoder (α : Type) where
  mark : Char
  escape? : List Char → Option (α × Nat)
  plain : Char → List α

namespace Decoder

variable {α : Type}

/-- What a text stands for. The number `skip` counts the characters that an escape still takes
up. -/
def readFrom (d : Decoder α) : (skip : Nat) → List Char → List α
  | _, [] => []
  | skip + 1, _ :: s => d.readFrom skip s
  | 0, c :: s =>
    match if c = d.mark then d.escape? s else none with
    | some (a, n) => a :: d.readFrom n s
    | none => d.plain c ++ d.readFrom 0 s

/-- What a text stands for. -/
def read (d : Decoder α) (s : List Char) : List α := d.readFrom 0 s

/-- The ways to write `a`: as a character that stands for it, or as an escape that is read as `a`
whatever comes behind it. -/
inductive Writes (d : Decoder α) (IsEscape : List Char → Prop) (a : α) : List Char → Prop where
  | plain {c : Char} (hc : c ≠ d.mark) (hplain : d.plain c = [a]) : d.Writes IsEscape a [c]
  | escape {s : List Char} (hescape : IsEscape (d.mark :: s)) (hmark : d.mark ∉ s)
      (hread : ∀ rest, d.escape? (s ++ rest) = some (a, s.length)) :
      d.Writes IsEscape a (d.mark :: s)

variable {d : Decoder α} {IsEscape : List Char → Prop} {s : List Char}

theorem readFrom_length (s rest : List Char) : d.readFrom s.length (s ++ rest) = d.read rest := by
  induction s with
  | nil => rfl
  | cons c s ih => exact ih

theorem Writes.read_append {a : α} (h : d.Writes IsEscape a s) (rest : List Char) :
    d.read (s ++ rest) = a :: d.read rest := by
  cases h with
  | @plain c hc hplain =>
    show d.readFrom 0 (c :: rest) = _
    rw [readFrom, if_neg hc, hplain]
    rfl
  | @escape s _ _ hread =>
    show d.readFrom 0 (d.mark :: (s ++ rest)) = _
    rw [readFrom, if_pos rfl, hread]
    exact congrArg (a :: ·) (readFrom_length s rest)

/-- Whatever is written piece by piece is read back. -/
theorem read_flatMap {write : α → List Char} (h : ∀ a, d.Writes IsEscape a (write a))
    (as : List α) : d.read (as.flatMap write) = as := by
  induction as with
  | nil => rfl
  | cons a as ih => rw [List.flatMap_cons, (h a).read_append, ih]

theorem Writes.beginsEscapes {a : α} (h : d.Writes IsEscape a s) :
    BeginsEscapes d.mark IsEscape s := by
  cases h with
  | plain hc _ => exact beginsEscapes_of_not_mem fun hmem => hc (List.mem_singleton.mp hmem).symm
  | escape hescape hmark _ => exact beginsEscapes_cons hescape hmark

theorem beginsEscapes_flatMap {write : α → List Char} (h : ∀ a, d.Writes IsEscape a (write a))
    (as : List α) : BeginsEscapes d.mark IsEscape (as.flatMap write) := by
  induction as with
  | nil => exact beginsEscapes_of_not_mem List.not_mem_nil
  | cons a as ih =>
    rw [List.flatMap_cons]
    exact (h a).beginsEscapes.append ih

end Decoder

/-! ## Replacing one character after the other -/

/-- What a table of replacements puts in the place of a character. -/
def substitute : (table : List (Char × List Char)) → Char → List Char
  | [], c => [c]
  | (d, new) :: table, c => if c = d then new else substitute table c

theorem substitute_eq_self {table : List (Char × List Char)} {c : Char}
    (h : ∀ e ∈ table, e.1 ≠ c) : substitute table c = [c] := by
  induction table with
  | nil => rfl
  | cons e table ih =>
    obtain ⟨hne, hrest⟩ := List.forall_mem_cons.mp h
    rw [substitute, if_neg (Ne.symm hne), ih hrest]

/-- A character is left as it is, or it is one of the table. -/
theorem substitute_cases (table : List (Char × List Char)) (c : Char) :
    (∀ e ∈ table, e.1 ≠ c) ∨ ∃ e ∈ table, e.1 = c ∧ substitute table c = e.2 := by
  induction table with
  | nil => exact .inl nofun
  | cons e table ih =>
    rw [substitute]
    by_cases hc : c = e.1
    · rw [if_pos hc]
      exact .inr ⟨e, List.mem_cons_self, hc.symm, rfl⟩
    · rw [if_neg hc]
      rcases ih with hnone | ⟨found, hfound, hkey, heq⟩
      · exact .inl (List.forall_mem_cons.mpr ⟨Ne.symm hc, hnone⟩)
      · exact .inr ⟨found, List.mem_cons_of_mem e hfound, hkey, heq⟩

theorem flatMap_substitute_eq_self {table : List (Char × List Char)} {s : List Char}
    (h : ∀ e ∈ table, e.1 ∉ s) : s.flatMap (substitute table) = s := by
  induction s with
  | nil => rfl
  | cons c s ih =>
    have hc : ∀ e ∈ table, e.1 ≠ c := fun e he heq => h e he (heq ▸ List.mem_cons_self)
    have hs : ∀ e ∈ table, e.1 ∉ s := fun e he hmem => h e he (List.mem_cons_of_mem c hmem)
    rw [List.flatMap_cons, substitute_eq_self hc, ih hs]
    rfl

theorem replace_singleton (c : Char) (new s : List Char) :
    replace [c] new s = s.flatMap (substitute [(c, new)]) := by
  unfold replace
  induction s with
  | nil => rfl
  | cons d s ih =>
    rw [List.flatMap_cons, ← ih, substitute, substitute]
    by_cases h : d = c
    · simp [replaceFrom, h]
    · simp [replaceFrom, h, Ne.symm h]

/-- Replacing one character after the other comes to replacing all of them at once, as long as none
of them is in what was put in for those before it. -/
theorem foldl_replace {table : List (Char × List Char)}
    (h : table.Pairwise fun e later => later.1 ∉ e.2) (s : List Char) :
    table.foldl (fun t e => replace [e.1] e.2 t) s = s.flatMap (substitute table) := by
  induction table generalizing s with
  | nil => exact (flatMap_substitute_eq_self fun _ he => absurd he List.not_mem_nil).symm
  | cons e table ih =>
    obtain ⟨hfirst, hrest⟩ := List.pairwise_cons.mp h
    rw [List.foldl_cons, ih hrest, replace_singleton, List.flatMap_assoc]
    -- What the first pass puts in, those behind it leave alone.
    refine congrArg (s.flatMap ·) (funext fun c => ?_)
    rw [substitute, substitute, substitute]
    by_cases hc : c = e.1
    · rw [if_pos hc, if_pos hc, flatMap_substitute_eq_self hfirst]
    · rw [if_neg hc, if_neg hc, List.flatMap_singleton]

/-! ## Pages -/

/-- The characters that are not written as they are in a page, and what is written for them. -/
def entities : List (Char × List Char) :=
  [('&', "&amp;".toList), ('<', "&lt;".toList), ('>', "&gt;".toList), ('"', "&quot;".toList),
    ('\'', "&#39;".toList)]

/-- An entity as an escape. -/
def IsEntity (s : List Char) : Prop := s ∈ entities.map Prod.snd

/-- Reads entities as their characters. -/
def pageDecoder : Decoder Char where
  mark := '&'
  escape? s :=
    (entities.find? fun e => e.2.isPrefixOf ('&' :: s)).map fun e => (e.1, e.2.length - 1)
  plain c := [c]

theorem toList_escapeHtml (s : String) :
    (escapeHtml s).toList = s.toList.flatMap (substitute entities) := String.toList_ofList

/-- An entity begins with a mark, has no other one, and is read as its character. -/
theorem exists_entity : ∀ e ∈ entities, ∃ s, e.2 = '&' :: s ∧ '&' ∉ s ∧
    ∀ rest, pageDecoder.escape? (s ++ rest) = some (e.1, s.length) := by
  simp only [entities, List.forall_mem_cons]
  exact ⟨⟨_, rfl, by decide, fun _ => rfl⟩, ⟨_, rfl, by decide, fun _ => rfl⟩,
    ⟨_, rfl, by decide, fun _ => rfl⟩, ⟨_, rfl, by decide, fun _ => rfl⟩,
    ⟨_, rfl, by decide, fun _ => rfl⟩, List.forall_mem_nil _⟩

theorem writes_substitute (c : Char) : pageDecoder.Writes IsEntity c (substitute entities c) := by
  rcases substitute_cases entities c with hnone | ⟨e, he, rfl, heq⟩
  · rw [substitute_eq_self hnone]
    have hc : '&' ≠ c := hnone _ List.mem_cons_self
    exact .plain hc.symm rfl
  · obtain ⟨s, hs, hmark, hread⟩ := exists_entity e he
    have hentity : IsEntity ('&' :: s) := hs ▸ List.mem_map_of_mem he
    rw [heq, hs]
    exact .escape hentity hmark hread

/-- An escaped text has none of the characters that mean something in a page, except for the `&` of
entities; reading these as their characters gives the text again. Parts of a text are escaped on
their own, and so are its characters: escaping first every `&` and then the others, each in the
whole text, makes no difference. -/
theorem escapeHtml_lossless (s t : String) :
    (∀ c ∈ (escapeHtml s).toList, c ∉ ['<', '>', '"', '\'']) ∧
    BeginsEscapes '&' IsEntity (escapeHtml s).toList ∧
    pageDecoder.read (escapeHtml s).toList = s.toList ∧
    escapeHtml (s ++ t) = escapeHtml s ++ escapeHtml t ∧
    (escapeHtml s).toList = entities.foldl (fun text e => replace [e.1] e.2 text) s.toList := by
  refine ⟨fun c hc => ?_, ?_, ?_, ?_, ?_⟩
  · have hplain : isMarkup c = false := plain_escapeHtml s c hc
    simpa [isMarkup, and_assoc] using hplain
  · rw [toList_escapeHtml]
    exact Decoder.beginsEscapes_flatMap writes_substitute s.toList
  · rw [toList_escapeHtml]
    exact Decoder.read_flatMap writes_substitute s.toList
  · unfold escapeHtml
    rw [String.toList_append, List.flatMap_append, String.ofList_append]
  · rw [toList_escapeHtml, foldl_replace (by decide)]

/-! ## Escapes in digits -/

/-- The digits to base sixteen, in upper case. -/
def isUpperHexDigit (c : Char) : Bool := isAsciiDigit c || ('A' ≤ c && c ≤ 'F')

/-- An escape of a number in so many digits to base sixteen. -/
def HexEscape (opening : List Char) (width : Nat) (e : List Char) : Prop :=
  ∃ digits, e = opening ++ digits ∧ digits.length = width ∧ ∀ c ∈ digits, isUpperHexDigit c = true

/-- The number that digits to base sixteen spell. -/
def hexNumber? (digits : List Char) : Option Nat :=
  digits.foldlM (fun n c => (Json.hexValue? c).map (16 * n + ·)) 0

theorem hexValue?_upperHexDigit : ∀ n < 16, Json.hexValue? (upperHexDigit n) = some n := by decide

section Digits

variable {ns : List Nat}

theorem hexNumber?_map (h : ∀ n ∈ ns, n < 16) :
    hexNumber? (ns.map upperHexDigit) = some (ns.foldl (fun n d => 16 * n + d) 0) := by
  unfold hexNumber?
  generalize 0 = start
  induction ns generalizing start with
  | nil => rfl
  | cons n ns ih =>
    obtain ⟨hn, hns⟩ := List.forall_mem_cons.mp h
    rw [List.map_cons, List.foldlM_cons, hexValue?_upperHexDigit n hn]
    exact ih hns (16 * start + n)

theorem forall_mem_map_upperHexDigit (p : Char → Prop) (hp : ∀ n < 16, p (upperHexDigit n))
    (h : ∀ n ∈ ns, n < 16) : ∀ c ∈ ns.map upperHexDigit, p c := by
  intro c hc
  obtain ⟨n, hn, rfl⟩ := List.mem_map.mp hc
  exact hp n (h n hn)

theorem isUpperHexDigit_of_mem_map (h : ∀ n ∈ ns, n < 16) :
    ∀ c ∈ ns.map upperHexDigit, isUpperHexDigit c = true :=
  forall_mem_map_upperHexDigit (isUpperHexDigit · = true) (by decide) h

theorem hexEscape_map (opening : List Char) (h : ∀ n ∈ ns, n < 16) :
    HexEscape opening ns.length (opening ++ ns.map upperHexDigit) :=
  ⟨_, rfl, List.length_map _, isUpperHexDigit_of_mem_map h⟩

theorem not_mem_map_upperHexDigit {c : Char} (hc : isUpperHexDigit c = false)
    (h : ∀ n ∈ ns, n < 16) : c ∉ ns.map upperHexDigit := by
  intro hmem
  rw [isUpperHexDigit_of_mem_map h c hmem] at hc
  cases hc

end Digits

/-! ## Scripts -/

/-- The character of a number, if there is one. -/
def char? (n : Nat) : Option Char := if n.isValidChar then some (Char.ofNat n) else none

theorem char?_toNat (c : Char) : char? c.toNat = some c := by
  have hvalid : c.toNat.isValidChar := c.valid
  rw [char?, if_pos hvalid, Char.ofNat_toNat]

/-- Reads a backslash, a `u` and four digits as the character of that number. -/
def scriptDecoder : Decoder Char where
  mark := '\\'
  escape?
    | 'u' :: a :: b :: c :: d :: _ => ((hexNumber? [a, b, c, d]).bind char?).map (·, 5)
    | _ => none
  plain c := [c]

/-- The lowest four digits of a number. -/
def fourDigits (n : Nat) : List Nat := [n / 4096 % 16, n / 256 % 16, n / 16 % 16, n % 16]

theorem lt_of_mem_fourDigits (n : Nat) : ∀ d ∈ fourDigits n, d < 16 := by
  simp only [fourDigits, List.forall_mem_cons]
  exact ⟨by omega, by omega, by omega, by omega, List.forall_mem_nil _⟩

theorem escapeScriptChar_eq (c : Char) : escapeScriptChar c =
    if isScriptSpecial c then '\\' :: 'u' :: (fourDigits c.toNat).map upperHexDigit else [c] := rfl

/-- Four digits are enough, as no character beyond them is escaped. -/
theorem toNat_lt_of_isScriptSpecial {c : Char} (h : isScriptSpecial c = true) :
    c.toNat < 0x10000 := by
  simp only [isScriptSpecial, isControl, Bool.or_eq_true, beq_iff_eq, Bool.and_eq_true,
    decide_eq_true_eq, or_assoc] at h
  rcases h with rfl | rfl | rfl | rfl | rfl | rfl | rfl | rfl | rfl | rfl | rfl | rfl | h
  case inr.inr.inr.inr.inr.inr.inr.inr.inr.inr.inr.inr => omega
  all_goals decide

theorem writes_escapeScriptChar (c : Char) :
    scriptDecoder.Writes (HexEscape ['\\', 'u'] 4) c (escapeScriptChar c) := by
  have hdigits := lt_of_mem_fourDigits c.toNat
  rw [escapeScriptChar_eq]
  split
  · rename_i hspecial
    have hlt := toNat_lt_of_isScriptSpecial hspecial
    have hnumber : hexNumber? ((fourDigits c.toNat).map upperHexDigit) = some c.toNat := by
      rw [hexNumber?_map hdigits]
      simp only [fourDigits, List.foldl_cons, List.foldl_nil, Option.some.injEq]
      omega
    refine .escape (hexEscape_map ['\\', 'u'] hdigits) ?_ fun rest => ?_
    · rw [List.mem_cons, not_or]
      exact ⟨by decide, not_mem_map_upperHexDigit (by decide) hdigits⟩
    · show ((hexNumber? ((fourDigits c.toNat).map upperHexDigit)).bind char?).map (·, 5) =
        some (c, 5)
      rw [hnumber, Option.bind_some, char?_toNat, Option.map_some]
  · rename_i hplain
    refine .plain (fun hmark => hplain ?_) rfl
    rw [hmark]
    rfl

/-- What is written in a script is a backslash or means nothing there. -/
theorem mem_escapeScriptChar {c d : Char} (h : d ∈ escapeScriptChar c) :
    d = '\\' ∨ isScriptSpecial d = false := by
  rw [escapeScriptChar_eq] at h
  split at h
  · rw [List.mem_cons, List.mem_cons] at h
    rcases h with hmark | rfl | h
    · exact .inl hmark
    · exact .inr (by decide)
    · exact .inr (forall_mem_map_upperHexDigit (isScriptSpecial · = false) (by decide)
        (lt_of_mem_fourDigits c.toNat) d h)
  · rename_i hplain
    rw [List.mem_singleton.mp h]
    exact .inr (Bool.not_eq_true _ ▸ hplain)

/-! ## Addresses -/

/-- The characters that stand for themselves in an address. -/
def isAddressChar (c : Char) : Bool :=
  isAsciiLetter c || isAsciiDigit c || ['-', '_', '.', '~', '/'].contains c

/-- Reads a percent sign and two digits as the byte of that number. -/
def addressDecoder : Decoder UInt8 where
  mark := '%'
  escape?
    | a :: b :: _ => (hexNumber? [a, b]).map fun n => (UInt8.ofNat n, 2)
    | _ => none
  plain := String.utf8EncodeChar

/-- The digits of a byte. -/
def twoDigits (b : UInt8) : List Nat := [b.toNat / 16, b.toNat % 16]

theorem lt_of_mem_twoDigits (b : UInt8) : ∀ d ∈ twoDigits b, d < 16 := by
  have hb := b.toNat_lt
  simp only [twoDigits, List.forall_mem_cons]
  exact ⟨by omega, by omega, List.forall_mem_nil _⟩

theorem percentByte_eq (b : UInt8) : percentByte b =
    if isAddressByte b then [Char.ofNat b.toNat] else '%' :: (twoDigits b).map upperHexDigit := rfl

theorem isAddressByte_iff {b : UInt8} :
    isAddressByte b = true ↔ b.toNat < 0x80 ∧ isAddressChar (Char.ofNat b.toNat) = true := by
  simp [isAddressByte, isAddressChar, UInt8.lt_iff_toNat_lt, or_assoc]

/-- A character of ASCII is one byte. -/
theorem utf8EncodeChar_ofNat : ∀ n < 0x80,
    String.utf8EncodeChar (Char.ofNat n) = [UInt8.ofNat n] := by
  decide

theorem writes_percentByte (b : UInt8) :
    addressDecoder.Writes (HexEscape ['%'] 2) b (percentByte b) := by
  have hdigits := lt_of_mem_twoDigits b
  rw [percentByte_eq]
  split
  · rename_i hsafe
    obtain ⟨hascii, hchar⟩ := isAddressByte_iff.mp hsafe
    have hbyte := utf8EncodeChar_ofNat b.toNat hascii
    rw [UInt8.ofNat_toNat] at hbyte
    refine .plain (fun hmark => ?_) hbyte
    rw [hmark] at hchar
    cases hchar
  · have hnumber : hexNumber? ((twoDigits b).map upperHexDigit) = some b.toNat := by
      rw [hexNumber?_map hdigits]
      simp only [twoDigits, List.foldl_cons, List.foldl_nil, Option.some.injEq]
      omega
    refine .escape (hexEscape_map ['%'] hdigits)
      (not_mem_map_upperHexDigit (by decide) hdigits) fun rest => ?_
    show (hexNumber? ((twoDigits b).map upperHexDigit)).map (fun n => (UInt8.ofNat n, 2)) =
      some (b, 2)
    rw [hnumber, Option.map_some, UInt8.ofNat_toNat]

theorem mem_percentByte {b : UInt8} {c : Char} (h : c ∈ percentByte b) :
    c = '%' ∨ isAddressChar c = true := by
  rw [percentByte_eq] at h
  split at h
  · rename_i hsafe
    rw [List.mem_singleton.mp h]
    exact .inr (isAddressByte_iff.mp hsafe).2
  · exact (List.mem_cons.mp h).imp_right
      (forall_mem_map_upperHexDigit (isAddressChar · = true) (by decide) (lt_of_mem_twoDigits b) c)

end Text

/-! ## Filters -/

open Text

/-- What `escapejs` makes of a value has no control and none of the characters that mean something
in a script, except for the backslashes of escapes in four digits; reading these as the characters
that they number gives the text of the value again. -/
theorem escapejs_lossless (v : Value) (arg : Option Value) :
    ∃ out, Filter.escapejs.apply v arg = .ok (.str out) ∧
      (∀ c ∈ out.toList, isControl c = false ∧
        c ∉ ['\'', '"', '<', '>', '&', '=', '-', ';', '\x60', '\u2028', '\u2029']) ∧
      BeginsEscapes '\\' (HexEscape ['\\', 'u'] 4) out.toList ∧
      scriptDecoder.read out.toList = v.text.toList := by
  have htext : (escapeScript v.text).toList = v.text.toList.flatMap escapeScriptChar :=
    String.toList_ofList
  refine ⟨escapeScript v.text, rfl, fun c hc => ?_, ?_, ?_⟩
  · rw [htext, List.mem_flatMap] at hc
    obtain ⟨d, -, hc⟩ := hc
    rcases mem_escapeScriptChar hc with rfl | hplain
    · decide
    · simp only [isScriptSpecial, Bool.or_eq_false_iff, beq_eq_false_iff_ne, and_assoc] at hplain
      simp [hplain]
  · rw [htext]
    exact Decoder.beginsEscapes_flatMap writes_escapeScriptChar v.text.toList
  · rw [htext]
    exact Decoder.read_flatMap writes_escapeScriptChar v.text.toList

/-- What `urlencode` makes of a value consists of letters, digits and a few marks of ASCII and of
percent signs, each of which begins an escape in two digits; reading these as the bytes that they
number gives the bytes of the text of the value. -/
theorem urlencode_lossless (v : Value) (arg : Option Value) :
    ∃ out, Filter.urlencode.apply v arg = .ok (.str out) ∧
      (∀ c ∈ out.toList, c = '%' ∨ isAddressChar c = true) ∧
      BeginsEscapes '%' (HexEscape ['%'] 2) out.toList ∧
      addressDecoder.read out.toList = v.text.toUTF8.toList := by
  have htext : (percentEncode v.text).toList = v.text.toUTF8.toList.flatMap percentByte :=
    String.toList_ofList
  refine ⟨percentEncode v.text, rfl, fun c hc => ?_, ?_, ?_⟩
  · rw [htext, List.mem_flatMap] at hc
    obtain ⟨b, -, hc⟩ := hc
    exact mem_percentByte hc
  · rw [htext]
    exact Decoder.beginsEscapes_flatMap writes_percentByte v.text.toUTF8.toList
  · rw [htext]
    exact Decoder.read_flatMap writes_percentByte v.text.toUTF8.toList

end Stencil
