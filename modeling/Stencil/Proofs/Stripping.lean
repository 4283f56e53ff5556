import Stencil.Filter.Apply
import Stencil.Proofs.Text.Parts

/-!
# Texts without tags

Removing tags from a text can bring the parts of another one together, so the filters that remove
tags start over until nothing changes. What they end with holds no tag, which also holds of every
part of it, so removing tags from it again changes nothing (`strips_tags`).
-/

namespace Stencil

namespace Text

variable {s t : List Char}

/-! ## Matches -/

section Matches

variable {match? : List Char → Option Nat} {IsTag : List Char → Prop}

theorem length_dropMatches_le (match? : List Char → Option Nat) (s : List Char) :
    (dropMatches match? s).length ≤ s.length := by
  fun_induction dropMatches match? s with
  | case1 => exact Nat.le_refl 0
  | case2 c s n _ ih =>
    rw [List.length_drop] at ih
    rw [List.length_cons]
    omega
  | case3 c s _ ih =>
    rw [List.length_cons, List.length_cons]
    omega

theorem dropMatches_sublist (match? : List Char → Option Nat) (s : List Char) :
    (dropMatches match? s).Sublist s := by
  fun_induction dropMatches match? s with
  | case1 => exact List.Sublist.refl _
  | case2 c s n _ ih => exact (ih.trans (List.drop_sublist _ _)).cons c
  | case3 c s _ ih => exact ih.cons_cons c

/-- A text keeps all its characters exactly if nothing in it matches. -/
theorem dropMatches_eq_self_iff :
    dropMatches match? s = s ↔ ∀ c t, (c :: t) <:+ s → match? (c :: t) = none := by
  fun_induction dropMatches match? s with
  | case1 => simp
  | case2 c s n hmatch ih =>
    constructor
    · intro heq
      have hle := length_dropMatches_le match? (s.drop (n - 1))
      rw [heq, List.length_drop, List.length_cons] at hle
      omega
    · intro hnone
      rw [hnone c s (List.suffix_refl _)] at hmatch
      cases hmatch
  | case3 c s hnone ih =>
    rw [List.cons_inj_right, ih]
    constructor
    · intro hs d t hsuffix
      rcases List.suffix_cons_iff.mp hsuffix with heq | hsuffix
      · rw [heq, hnone]
      · exact hs d t hsuffix
    · exact fun hs d t hsuffix => hs d t (hsuffix.trans (List.suffix_cons c s))

/-- Matches are found exactly where tags begin. -/
structure Finds (match? : List Char → Option Nat) (IsTag : List Char → Prop) : Prop where
  found_iff : ∀ s, (match? s).isSome = true ↔ ∃ tag, IsTag tag ∧ tag <+: s
  ne_nil : ∀ tag, IsTag tag → tag ≠ []

/-- No part of the text is a tag. -/
def Free (IsTag : List Char → Prop) (s : List Char) : Prop := ∀ tag, IsTag tag → ¬tag <:+: s

theorem Free.of_infix (hs : Free IsTag s) (h : t <:+: s) : Free IsTag t :=
  fun tag htag hpart => hs tag htag (hpart.trans h)

/-- A text keeps all its characters exactly if it holds no tag. -/
theorem Finds.dropMatches_eq_self_iff (h : Finds match? IsTag) :
    dropMatches match? s = s ↔ Free IsTag s := by
  rw [Text.dropMatches_eq_self_iff]
  constructor
  · intro hnone tag htag hpart
    obtain ⟨t, hprefix, hsuffix⟩ := List.infix_iff_prefix_suffix.mp hpart
    have hfound := (h.found_iff t).mpr ⟨tag, htag, hprefix⟩
    cases t with
    | nil => exact h.ne_nil tag htag (List.prefix_nil.mp hprefix)
    | cons c t =>
      rw [hnone c t hsuffix] at hfound
      cases hfound
  · intro hfree c t hsuffix
    rw [← Option.not_isSome_iff_eq_none, h.found_iff]
    rintro ⟨tag, htag, hprefix⟩
    exact hfree tag htag (List.infix_iff_prefix_suffix.mpr ⟨_, hprefix, hsuffix⟩)

end Matches

/-! ## Passes -/

section Passes

variable {f : List Char → List Char} {passes : Nat}

/-- What the passes end with, they leave as it is. -/
theorem stable_of_untilStable (h : untilStable f passes s = some t) : f t = t := by
  induction passes generalizing s with
  | zero => cases h
  | succ passes ih =>
    unfold untilStable at h
    dsimp only at h
    split at h
    · rename_i hstable
      cases h
      exact hstable
    · exact ih h

theorem untilStable_of_stable (h : f s = s) (passes : Nat) :
    untilStable f (passes + 1) s = some s := by
  unfold untilStable
  dsimp only
  rw [if_pos h]

theorem untilStable_sublist (hf : ∀ s, (f s).Sublist s) (h : untilStable f passes s = some t) :
    t.Sublist s := by
  induction passes generalizing s with
  | zero => cases h
  | succ passes ih =>
    unfold untilStable at h
    dsimp only at h
    split at h
    · cases h
      exact List.Sublist.refl _
    · exact (ih h).trans (hf s)

variable {match? : List Char → Option Nat} {IsTag : List Char → Prop}

/-- A text from which tags are removed holds none of them and is made of characters of the old
one. -/
theorem Finds.free_of_untilStable (h : Finds match? IsTag)
    (ht : untilStable (dropMatches match?) passes s = some t) : Free IsTag t ∧ t.Sublist s :=
  ⟨h.dropMatches_eq_self_iff.mp (stable_of_untilStable ht),
    untilStable_sublist (dropMatches_sublist match?) ht⟩

/-- A text that holds no tag is not changed. -/
theorem Finds.untilStable_of_free (h : Finds match? IsTag) (hfree : Free IsTag s) :
    untilStable (dropMatches match?) maxPasses s = some s :=
  untilStable_of_stable (h.dropMatches_eq_self_iff.mpr hfree) 99

end Passes

/-! ## Tags of any name -/

/-- A `<` and a `>` with neither mark between. -/
def PlainTag (tag : List Char) : Prop :=
  ∃ inner, tag = '<' :: (inner ++ ['>']) ∧ ∀ c ∈ inner, c ≠ '<' ∧ c ≠ '>'

theorem plainTagEnd?_isSome_iff :
    (plainTagEnd? s).isSome = true ↔
      ∃ inner, (inner ++ ['>']) <+: s ∧ ∀ c ∈ inner, c ≠ '<' ∧ c ≠ '>' := by
  induction s with
  | nil => simp [plainTagEnd?]
  | cons c s ih =>
    unfold plainTagEnd?
    by_cases hclose : c = '>'
    · subst hclose
      rw [if_pos rfl]
      exact ⟨fun _ => ⟨[], ⟨s, rfl⟩, nofun⟩, fun _ => rfl⟩
    · rw [if_neg hclose]
      by_cases hopen : c = '<'
      · rw [if_pos hopen]
        refine ⟨nofun, ?_⟩
        rintro ⟨_ | ⟨d, inner⟩, hprefix, hinner⟩
        · exact absurd (List.cons_prefix_cons.mp hprefix).1.symm hclose
        · have hd := (List.cons_prefix_cons.mp hprefix).1
          exact absurd (hd.trans hopen) (hinner d (List.mem_cons_self ..)).1
      · rw [if_neg hopen, Option.isSome_map, ih]
        constructor
        · rintro ⟨inner, hprefix, hinner⟩
          refine ⟨c :: inner, List.cons_prefix_cons.mpr ⟨rfl, hprefix⟩, ?_⟩
          exact List.forall_mem_cons.mpr ⟨⟨hopen, hclose⟩, hinner⟩
        · rintro ⟨_ | ⟨d, inner⟩, hprefix, hinner⟩
          · exact absurd (List.cons_prefix_cons.mp hprefix).1.symm hclose
          · exact ⟨inner, (List.cons_prefix_cons.mp hprefix).2, (List.forall_mem_cons.mp hinner).2⟩

theorem finds_plainTag : Finds plainTag? PlainTag where
  found_iff s := by
    unfold plainTag?
    split
    · rename_i s
      rw [Option.isSome_map, plainTagEnd?_isSome_iff]
      constructor
      · rintro ⟨inner, hprefix, hinner⟩
        exact ⟨_, ⟨inner, rfl, hinner⟩, List.cons_prefix_cons.mpr ⟨rfl, hprefix⟩⟩
      · rintro ⟨_, ⟨inner, rfl, hinner⟩, hprefix⟩
        exact ⟨inner, (List.cons_prefix_cons.mp hprefix).2, hinner⟩
    · rename_i hopen
      refine ⟨nofun, ?_⟩
      rintro ⟨_, ⟨inner, rfl, -⟩, rest, rfl⟩
      exact (hopen _ rfl).elim
  ne_nil := by
    rintro _ ⟨inner, rfl, -⟩
    exact List.cons_ne_nil _ _

/-- A `<` with a `>` somewhere behind it: one of the parts between marks is a tag. -/
theorem not_free_plainTag (before between behind : List Char) :
    ¬Free PlainTag (before ++ '<' :: (between ++ '>' :: behind)) := by
  intro hfree
  induction hlength : between.length using Nat.strongRecOn
    generalizing before between behind with
  | ind n ih =>
    subst hlength
    by_cases hmark : ∃ c ∈ between, c = '<' ∨ c = '>'
    · obtain ⟨c, hc, hmark⟩ := hmark
      obtain ⟨left, right, rfl⟩ := List.append_of_mem hc
      rw [List.length_append, List.length_cons] at ih
      rcases hmark with rfl | rfl
      · exact ih right.length (by omega) (before ++ '<' :: left) right behind
          (by simpa using hfree) rfl
      · exact ih left.length (by omega) before left (right ++ '>' :: behind)
          (by simpa using hfree) rfl
    · have hinner : ∀ c ∈ between, c ≠ '<' ∧ c ≠ '>' := fun c hc =>
        ⟨fun hopen => hmark ⟨c, hc, .inl hopen⟩, fun hclose => hmark ⟨c, hc, .inr hclose⟩⟩
      exact hfree _ ⟨between, rfl, hinner⟩ ⟨before, behind, by simp⟩

/-- A text holds no tag exactly if no `<` comes before a `>` in it. -/
theorem free_plainTag_iff :
    Free PlainTag s ↔ ¬∃ before between behind, s =
      before ++ '<' :: (between ++ '>' :: behind) := by
  constructor
  · rintro hfree ⟨before, between, behind, rfl⟩
    exact not_free_plainTag before between behind hfree
  · rintro hnone _ ⟨inner, rfl, -⟩ ⟨before, behind, rfl⟩
    exact hnone ⟨before, inner, behind, by simp⟩

/-! ## Tags with given names -/

/-- A tag that opens or closes an element with one of the names, in whatever case: the name ends
with the word, and the tag at the next `>`. -/
inductive NamedTag (names : List (List Char)) : List Char → Prop where
  | mk {name word attributes : List Char} (slash : List Char) (hslash : slash = [] ∨ slash = ['/'])
      (hname : name ∈ names) (hword : word.map foldCase = name.map foldCase)
      (hends : ∀ c ∈ attributes.head?, isWordChar c = false) (hattributes : '>' ∉ attributes) :
      NamedTag names ('<' :: (slash ++ (word ++ (attributes ++ ['>']))))

theorem foldCase_ascii {c : Char} (hascii : c.toNat < 0x80) :
    (isAsciiLetter c || isAsciiDigit c) = true → foldCase c ≠ '>' ∧ foldCase c ≠ '/' :=
  forall_ascii (P := fun c => (isAsciiLetter c || isAsciiDigit c) = true →
    foldCase c ≠ '>' ∧ foldCase c ≠ '/') (by decide +kernel) hascii

/-- A character of a name is neither a `>` nor a `/`, whatever the case. -/
theorem ne_of_foldCase_eq {c d : Char} (h : foldCase c = foldCase d)
    (hd : (isAsciiLetter d || isAsciiDigit d) = true) : c ≠ '>' ∧ c ≠ '/' := by
  have hascii : d.toNat < 0x80 := by
    have hle : d ≤ 'z' ∨ d ≤ 'Z' ∨ d ≤ '9' := by
      simp only [isAsciiLetter, isAsciiDigit, Bool.or_eq_true, Bool.and_eq_true,
        decide_eq_true_eq] at hd
      rcases hd with (⟨-, h⟩ | ⟨-, h⟩) | ⟨-, h⟩
      · exact .inl h
      · exact .inr (.inl h)
      · exact .inr (.inr h)
    rcases hle with h | h | h <;> exact Nat.lt_of_le_of_lt h (by decide)
  obtain ⟨hclose, hslash⟩ := foldCase_ascii hascii hd
  constructor
  · rintro rfl
    exact hclose (h.symm.trans rfl)
  · rintro rfl
    exact hslash (h.symm.trans rfl)

/-- What follows a name is what stands behind a word that is the name in some case. -/
theorem afterName?_eq_some_iff {name rest : List Char} :
    afterName? name s = some rest ↔
      ∃ word, s = word ++ rest ∧ word.map foldCase = name.map foldCase := by
  induction name generalizing s with
  | nil =>
    constructor
    · intro h
      exact ⟨[], by simpa [afterName?] using h, rfl⟩
    · rintro ⟨word, rfl, hword⟩
      obtain rfl := List.map_eq_nil_iff.mp hword
      rfl
  | cons n name ih =>
    cases s with
    | nil =>
      refine ⟨nofun, ?_⟩
      rintro ⟨word, hs, hword⟩
      obtain rfl := (List.append_eq_nil_iff.mp hs.symm).1
      cases hword
    | cons c s =>
      unfold afterName?
      constructor
      · intro h
        split at h
        · rename_i hc
          obtain ⟨word, rfl, hword⟩ := ih.mp h
          refine ⟨c :: word, rfl, ?_⟩
          rw [List.map_cons, List.map_cons, hc, hword]
        · cases h
      · rintro ⟨_ | ⟨d, word⟩, hs, hword⟩
        · cases hword
        · obtain ⟨rfl, rfl⟩ := List.cons.inj hs
          obtain ⟨hc, hword⟩ := List.cons.inj hword
          rw [if_pos hc.symm]
          exact ih.mpr ⟨word, rfl, hword⟩

theorem tagEnd?_isSome_iff : (tagEnd? s).isSome = true ↔ '>' ∈ s := by
  induction s with
  | nil => simp [tagEnd?]
  | cons c s ih =>
    unfold tagEnd?
    by_cases hclose : c = '>'
    · simp [hclose]
    · rw [if_neg hclose, Option.isSome_map, ih, List.mem_cons]
      simp [Ne.symm hclose]

section Names

variable {names : List (List Char)}

theorem startsWithName_iff :
    startsWithName names s = true ↔
      ∃ name ∈ names, ∃ word c rest, s = word ++ c :: rest ∧
        word.map foldCase = name.map foldCase ∧ isWordChar c = false := by
  unfold startsWithName
  rw [List.any_eq_true]
  constructor
  · rintro ⟨name, hname, h⟩
    split at h
    · rename_i c rest hafter
      obtain ⟨word, hs, hword⟩ := afterName?_eq_some_iff.mp hafter
      exact ⟨name, hname, word, c, rest, hs, hword, by simpa using h⟩
    · cases h
  · rintro ⟨name, hname, word, c, rest, hs, hword, hc⟩
    refine ⟨name, hname, ?_⟩
    rw [afterName?_eq_some_iff.mpr ⟨word, hs, hword⟩]
    simpa using hc

/-- The characters of a word that is a name in some case. -/
theorem ne_of_mem_word {name word : List Char} (hvalid : isTagName name = true)
    (hword : word.map foldCase = name.map foldCase) {c : Char} (hc : c ∈ word) :
    c ≠ '>' ∧ c ≠ '/' := by
  have hname : ∀ d ∈ name, (isAsciiLetter d || isAsciiDigit d) = true := by
    cases name with
    | nil => nofun
    | cons d name =>
      simp only [isTagName, Bool.and_eq_true, List.all_eq_true] at hvalid
      exact List.forall_mem_cons.mpr ⟨by rw [hvalid.1, Bool.true_or], hvalid.2⟩
  have hfold : foldCase c ∈ name.map foldCase := hword ▸ List.mem_map_of_mem hc
  obtain ⟨d, hd, heq⟩ := List.mem_map.mp hfold
  exact ne_of_foldCase_eq heq.symm (hname d hd)

theorem exists_cons_of_word {name word : List Char} (hvalid : isTagName name = true)
    (hword : word.map foldCase = name.map foldCase) : ∃ c rest, word = c :: rest := by
  cases word with
  | cons c rest => exact ⟨c, rest, rfl⟩
  | nil =>
    obtain rfl := List.map_eq_nil_iff.mp hword.symm
    cases hvalid

/-- A tag with one of the names begins behind its `<` and its `/`, if it has one, exactly where the
text starts with a name and has a `>`. -/
theorem startsWithName_and_tagEnd?_iff (hvalid : ∀ name ∈ names, isTagName name = true) :
    startsWithName names s = true ∧ (tagEnd? s).isSome = true ↔
      ∃ name ∈ names, ∃ word attributes, word.map foldCase = name.map foldCase ∧
        (∀ c ∈ attributes.head?, isWordChar c = false) ∧ '>' ∉ attributes ∧
          (word ++ (attributes ++ ['>'])) <+: s := by
  rw [startsWithName_iff, tagEnd?_isSome_iff]
  constructor
  · rintro ⟨⟨name, hname, word, c, rest, rfl, hword, hc⟩, hclose⟩
    have hclose : '>' ∈ c :: rest :=
      (List.mem_append.mp hclose).resolve_left fun h =>
      (ne_of_mem_word (hvalid name hname) hword h).1 rfl
    obtain ⟨attributes, behind, hsplit, hattributes⟩ := List.eq_append_cons_of_mem hclose
    refine ⟨name, hname, word, attributes, hword, ?_, hattributes, behind, by simp [hsplit]⟩
    cases attributes with
    | nil => exact nofun
    | cons d attributes =>
      obtain rfl := (List.cons.inj hsplit).1
      rintro _ ⟨⟩
      exact hc
  · rintro ⟨name, hname, word, attributes, hword, hends, -, behind, rfl⟩
    refine ⟨⟨name, hname, word, ?_⟩, by simp⟩
    cases attributes with
    | nil => exact ⟨'>', behind, by simp, hword, by decide⟩
    | cons c attributes =>
      exact ⟨c, attributes ++ '>' :: behind, by simp, hword, hends c rfl⟩

/-- The length of a tag is given exactly where one is found. -/
theorem isSome_tagLength_iff (k : Nat) :
    (if startsWithName names s then (tagEnd? s).map (· + k) else none).isSome = true ↔
      startsWithName names s = true ∧ (tagEnd? s).isSome = true := by
  by_cases h : startsWithName names s = true
  · rw [if_pos h, Option.isSome_map]
    simp [h]
  · rw [if_neg h]
    simp [h]

theorem finds_namedTag (hvalid : ∀ name ∈ names, isTagName name = true) :
    Finds (namedTag? names) (NamedTag names) where
  found_iff s := by
    unfold namedTag?
    split
    · rename_i s
      rw [isSome_tagLength_iff, startsWithName_and_tagEnd?_iff hvalid]
      constructor
      · rintro ⟨name, hname, word, attributes, hword, hends, hattributes, hprefix⟩
        refine ⟨_, .mk ['/'] (.inr rfl) hname hword hends hattributes, ?_⟩
        exact List.cons_prefix_cons.mpr ⟨rfl, List.cons_prefix_cons.mpr ⟨rfl, hprefix⟩⟩
      · rintro ⟨_, ⟨slash, hslash, hname, hword, hends, hattributes⟩, hprefix⟩
        rcases hslash with rfl | rfl
        · obtain ⟨c, rest, rfl⟩ := exists_cons_of_word (hvalid _ hname) hword
          have hc := (List.cons_prefix_cons.mp (List.cons_prefix_cons.mp hprefix).2).1
          exact absurd hc (ne_of_mem_word (hvalid _ hname) hword (List.mem_cons_self ..)).2
        · have hrest := (List.cons_prefix_cons.mp (List.cons_prefix_cons.mp hprefix).2).2
          exact ⟨_, hname, _, _, hword, hends, hattributes, hrest⟩
    · rename_i s hslash
      rw [isSome_tagLength_iff, startsWithName_and_tagEnd?_iff hvalid]
      constructor
      · rintro ⟨name, hname, word, attributes, hword, hends, hattributes, hprefix⟩
        refine ⟨_, .mk [] (.inl rfl) hname hword hends hattributes, ?_⟩
        exact List.cons_prefix_cons.mpr ⟨rfl, hprefix⟩
      · rintro ⟨_, ⟨slash, hslash', hname, hword, hends, hattributes⟩, hprefix⟩
        rcases hslash' with rfl | rfl
        · exact ⟨_, hname, _, _, hword, hends, hattributes, (List.cons_prefix_cons.mp hprefix).2⟩
        · obtain ⟨behind, hbehind⟩ := (List.cons_prefix_cons.mp hprefix).2
          exact (hslash _ hbehind.symm).elim
    · rename_i hopen
      refine ⟨nofun, ?_⟩
      rintro ⟨_, ⟨slash, -, -, -, -, -⟩, rest, rfl⟩
      exact (hopen _ rfl).elim
  ne_nil := by
    rintro _ ⟨⟩
    exact List.cons_ne_nil _ _

end Names

end Text

/-! ## Filters -/

open Text

/-- What `striptags` does with a text in which no `<` comes before a `>`: it trims the text. -/
theorem stripTags_of_free {v : Value} (h : Free PlainTag v.text.toList) :
    Markup.stripTags v = .ok (.str (String.ofList (trim v.text.toList))) := by
  unfold Markup.stripTags Text.stripTags
  rw [finds_plainTag.untilStable_of_free h]

theorem stripTags_eq_ok {v w : Value} (h : Markup.stripTags v = .ok w) :
    Free PlainTag w.text.toList ∧ Markup.stripTags w = .ok w ∧
      w.text.toList.Sublist v.text.toList := by
  unfold Markup.stripTags at h
  split at h
  · rename_i s hstrip
    cases h
    unfold Text.stripTags at hstrip
    obtain ⟨hfree, hsublist⟩ := finds_plainTag.free_of_untilStable hstrip
    have htext : (Value.str (String.ofList (trim s))).text.toList = trim s := String.toList_ofList
    have hfree' : Free PlainTag (Value.str (String.ofList (trim s))).text.toList := by
      rw [htext]
      exact hfree.of_infix (trim_part s)
    refine ⟨hfree', ?_, ?_⟩
    · rw [stripTags_of_free hfree', htext, trim_trim]
    · rw [htext]
      exact (trim_part s).sublist.trans hsublist
  · cases h

/-- With names of tags in the list, `removetags` is what it is on texts. -/
theorem removeTags_of_names {v a : Value} {name : List Char} {names : List (List Char)}
    (hnames : Markup.nameList a.text.toList = name :: names)
    (hvalid : ∀ name' ∈ name :: names, isTagName name' = true) {s : List Char}
    (h : Text.removeTags (name :: names) v.text.toList = some s) :
    Markup.removeTags v a = .ok (Markup.like v s) := by
  have hfind : (name :: names).find? (fun name => !isTagName name) = none := by
    rw [List.find?_eq_none]
    exact fun name hname => by simp [hvalid name hname]
  unfold Markup.removeTags
  rw [hnames]
  dsimp only
  rw [hfind]
  dsimp only
  rw [h]

theorem removeTags_of_free {v a : Value} {names : List (List Char)}
    (hnames : Markup.nameList a.text.toList = names)
    (hvalid : ∀ name ∈ names, isTagName name = true)
    (h : Free (NamedTag names) v.text.toList) :
    ∃ w, Markup.removeTags v a = .ok w ∧ w.text.toList = v.text.toList := by
  cases names with
  | nil =>
    refine ⟨v, ?_, rfl⟩
    unfold Markup.removeTags
    rw [hnames]
  | cons name names =>
    exact ⟨_, removeTags_of_names hnames hvalid ((finds_namedTag hvalid).untilStable_of_free h),
      Markup.text_like v _⟩

theorem removeTags_eq_ok {v a w : Value} {names : List (List Char)}
    (hnames : Markup.nameList a.text.toList = names) (h : Markup.removeTags v a = .ok w) :
    Free (NamedTag names) w.text.toList ∧ Markup.removeTags w a = .ok w ∧
      w.text.toList.Sublist v.text.toList := by
  unfold Markup.removeTags at h
  rw [hnames] at h
  cases names with
  | nil =>
    cases h
    refine ⟨?_, ?_, List.Sublist.refl _⟩
    · rintro _ ⟨-, -, hname, -⟩
      cases hname
    · unfold Markup.removeTags
      rw [hnames]
  | cons name names =>
    dsimp only at h
    split at h
    · cases h
    · rename_i hfind
      have hvalid : ∀ name' ∈ name :: names, isTagName name' = true := fun name' hname' => by
        simpa using List.find?_eq_none.mp hfind name' hname'
      split at h
      · rename_i s hremove
        cases h
        unfold Text.removeTags at hremove
        obtain ⟨hfree, hsublist⟩ := (finds_namedTag hvalid).free_of_untilStable hremove
        have hagain : Text.removeTags (name :: names) (Markup.like v s).text.toList = some s := by
          rw [Markup.text_like]
          exact (finds_namedTag hvalid).untilStable_of_free hfree
        rw [removeTags_of_names hnames hvalid hagain, Markup.text_like, Markup.like_like]
        exact ⟨hfree, rfl, hsublist⟩
      · cases h

/-- What `striptags` makes of a value has no `<` in front of a `>`, and what `removetags` makes of
it has no tag with one of the names; doing the same to it again changes nothing. Both make it of
characters of the old text, in their order, and leave a text alone that has no such tag, except that
`striptags` trims it. -/
theorem strips_tags (v : Value) :
    (∀ arg w, Filter.striptags.apply v arg = .ok w →
      (¬∃ before between behind,
        w.text.toList = before ++ '<' :: (between ++ '>' :: behind)) ∧
      (∀ arg', Filter.striptags.apply w arg' = .ok w) ∧ w.text.toList.Sublist v.text.toList) ∧
    (∀ arg, Free PlainTag v.text.toList →
      Filter.striptags.apply v arg = .ok (.str (String.ofList (trim v.text.toList)))) ∧
    ∀ names a, Markup.nameList a.text.toList = names →
      (∀ w, Filter.removetags.apply v (some a) = .ok w →
        Free (NamedTag names) w.text.toList ∧ Filter.removetags.apply w (some a) = .ok w ∧
          w.text.toList.Sublist v.text.toList) ∧
      ((∀ name ∈ names, isTagName name = true) → Free (NamedTag names) v.text.toList →
        ∃ w, Filter.removetags.apply v (some a) = .ok w ∧ w.text.toList = v.text.toList) := by
  refine ⟨fun arg w h => ?_, fun arg hfree => stripTags_of_free hfree, fun names a hnames =>
    ⟨fun w h => removeTags_eq_ok hnames h, removeTags_of_free hnames⟩⟩
  obtain ⟨hfree, hagain, hsublist⟩ := stripTags_eq_ok h
  exact ⟨free_plainTag_iff.mp hfree, fun _ => hagain, hsublist⟩

theorem strips_tags_nested :
    let script := Value.str "<<b>script>x<</b>/script>"
    let bold := Value.safe "<<B>b>x</ b></b >"
    let order := Value.str " 1 > 0 < 2 "
    let names := Value.str "b, i"
    let plain := Value.str "x"
    let opened := Value.safe "x</ b>"
    Filter.striptags.apply script none = .ok plain ∧
      (¬∃ before between behind,
        plain.text.toList = before ++ '<' :: (between ++ '>' :: behind)) ∧
      Filter.striptags.apply plain none = .ok plain ∧
      Filter.removetags.apply bold (some names) = .ok opened ∧
      Free (NamedTag [['b'], ['i']]) opened.text.toList ∧
      Filter.removetags.apply opened (some names) = .ok opened ∧
      Filter.striptags.apply order none = .ok (.str (String.ofList (trim order.text.toList))) ∧
      ∃ w, Filter.removetags.apply order (some names) = .ok w ∧
        w.text.toList = order.text.toList := by
  intro script bold order names plain opened
  have hnames : Markup.nameList names.text.toList = [['b'], ['i']] := by decide
  have hvalid : ∀ name ∈ [['b'], ['i']], isTagName name = true := by decide
  have hscript : Filter.striptags.apply script none = .ok plain := by
    have hstrip : Text.stripTags script.text.toList = some ['x'] := by decide +kernel
    show Markup.stripTags script = _
    unfold Markup.stripTags
    rw [hstrip]
    rfl
  have hbold : Filter.removetags.apply bold (some names) = .ok opened := by
    have hremove : Text.removeTags [['b'], ['i']] bold.text.toList = some "x</ b>".toList := by
      decide +kernel
    exact removeTags_of_names hnames hvalid hremove
  have horder : Free PlainTag order.text.toList :=
    finds_plainTag.dropMatches_eq_self_iff.mp (by decide +kernel)
  have hunnamed : Free (NamedTag [['b'], ['i']]) order.text.toList :=
    (finds_namedTag hvalid).dropMatches_eq_self_iff.mp (by decide +kernel)
  obtain ⟨hnone, hagain, -⟩ := (strips_tags script).1 none plain hscript
  obtain ⟨hfree, hagain', -⟩ := ((strips_tags bold).2.2 _ names hnames).1 opened hbold
  exact ⟨hscript, hnone, hagain none, hbold, hfree, hagain', (strips_tags order).2.1 none horder,
    ((strips_tags order).2.2 _ names hnames).2 hvalid hunnamed⟩

end Stencil
