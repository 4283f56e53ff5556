import Stencil.Text.Basic

/-!
# Parts of texts

Runs of characters of one class, what trimming takes from a text, the texts between separators, and
the words.
-/

namespace Stencil.Text

/-- What holds of the ASCII characters one by one. -/
theorem forall_ascii {P : Char → Prop} {c : Char} (h : ∀ n < 0x80, P (Char.ofNat n))
    (hc : c.toNat < 0x80) : P c := by
  have hchar := h c.toNat hc
  rwa [Char.ofNat_toNat] at hchar

end Stencil.Text

/-!
## Runs of characters

A scanner takes runs: the longest stretch of characters of one class, or everything in front of the
first place where something else begins.
-/

namespace Stencil.Token

open Stencil.Text

/-- All characters of `w` are of the class `p`, and `rest` does not go on with one. -/
structure Run (p : Char → Bool) (w rest : List Char) : Prop where
  all : ∀ c ∈ w, p c = true
  stops : ∀ c ∈ rest.head?, p c = false

variable {p q : Char → Bool} {w w' rest s : List Char} {c : Char}

theorem Run.takeWhile_eq (h : Run p w rest) : (w ++ rest).takeWhile p = w := by
  rw [List.takeWhile_append_of_pos h.all]
  cases rest with
  | nil => exact List.append_nil w
  | cons c rest =>
    have hc : ¬ p c = true := by
      rw [h.stops c rfl]
      exact Bool.false_ne_true
    rw [List.takeWhile_cons_of_neg hc, List.append_nil]

theorem Run.dropWhile_eq (h : Run p w rest) : (w ++ rest).dropWhile p = rest := by
  have hsplit := @List.takeWhile_append_dropWhile _ p (w ++ rest)
  rw [h.takeWhile_eq] at hsplit
  exact List.append_cancel_left hsplit

theorem run_takeWhile (p : Char → Bool) (s : List Char) :
    Run p (s.takeWhile p) (s.dropWhile p) where
  all c hc := by simpa using List.all_eq_true.mp List.all_takeWhile c hc
  stops c hc := by
    have h := List.head?_dropWhile_not p s
    rw [Option.mem_def.mp hc] at h
    simpa using h

theorem exists_run (p : Char → Bool) (s : List Char) : ∃ w rest, s = w ++ rest ∧ Run p w rest :=
  ⟨_, _, List.takeWhile_append_dropWhile.symm, run_takeWhile p s⟩

/-- A run is the only one that starts there. -/
theorem Run.unique (h : Run p w rest) (h' : Run p w' s) (heq : w ++ rest = w' ++ s) :
    w = w' ∧ rest = s := by
  have hw : w = w' := by rw [← h.takeWhile_eq, heq, h'.takeWhile_eq]
  subst hw
  exact ⟨rfl, List.append_cancel_left heq⟩

end Stencil.Token

namespace Stencil

/-! ## Blanks -/

/-- All characters are blanks. -/
def Blank (s : List Char) : Prop := ∀ c ∈ s, Text.isBlank c = true

variable {s t w front back : List Char} {c : Char}

@[simp] theorem blank_nil : Blank [] := List.forall_mem_nil _

@[simp] theorem blank_cons {c : Char} : Blank (c :: s) ↔ Text.isBlank c = true ∧ Blank s :=
  List.forall_mem_cons

theorem Blank.append (hs : Blank s) (ht : Blank t) : Blank (s ++ t) :=
  List.forall_mem_append.mpr ⟨hs, ht⟩

theorem Blank.reverse (hs : Blank s) : Blank s.reverse := fun c hc => hs c (List.mem_reverse.mp hc)

namespace Text

/-! ## Trimming -/

theorem trimStart_split (s : List Char) : ∃ front, s = front ++ trimStart s ∧ Blank front :=
  ⟨s.takeWhile isBlank, List.takeWhile_append_dropWhile.symm, (Token.run_takeWhile isBlank s).all⟩

theorem trimEnd_split (s : List Char) : ∃ back, s = trimEnd s ++ back ∧ Blank back := by
  obtain ⟨front, hsplit, hblank⟩ := trimStart_split s.reverse
  refine ⟨front.reverse, ?_, hblank.reverse⟩
  rw [← List.reverse_inj, List.reverse_append, List.reverse_reverse, trimEnd, List.reverse_reverse]
  exact hsplit

theorem isPrefix_trimEnd (s : List Char) : trimEnd s <+: s := by
  obtain ⟨back, hback, -⟩ := trimEnd_split s
  exact ⟨back, hback.symm⟩

/-- Trimming takes blanks from the two ends of a text. -/
theorem trim_split (s : List Char) :
    ∃ front back, s = front ++ (trim s ++ back) ∧ Blank front ∧ Blank back := by
  obtain ⟨front, hfront, hblank⟩ := trimStart_split s
  obtain ⟨back, hback, hblank'⟩ := trimEnd_split (trimStart s)
  refine ⟨front, back, ?_, hblank, hblank'⟩
  show s = front ++ (trimEnd (trimStart s) ++ back)
  rw [← hback, ← hfront]

theorem trim_part (s : List Char) : trim s <:+: s := by
  obtain ⟨front, back, hsplit, -⟩ := trim_split s
  exact ⟨front, back, by rw [List.append_assoc, ← hsplit]⟩

/-! ### Ends of what is left -/

theorem head?_trimStart (h : c ∈ (trimStart s).head?) : isBlank c = false :=
  (Token.run_takeWhile isBlank s).stops c h

theorem getLast?_trimEnd (h : c ∈ (trimEnd s).getLast?) : isBlank c = false := by
  rw [trimEnd, List.getLast?_reverse] at h
  exact head?_trimStart (s := s.reverse) h

theorem head?_trim (h : c ∈ (trim s).head?) : isBlank c = false := by
  obtain ⟨back, hsplit, -⟩ := trimEnd_split (trimStart s)
  refine head?_trimStart (s := s) ?_
  rw [hsplit, List.head?_append]
  show c ∈ (trim s).head?.or _
  rw [Option.mem_def.mp h]
  rfl

/-! ### Texts that are trimmed -/

theorem trimStart_append (hfront : Blank front) (hs : ∀ c ∈ s.head?, isBlank c = false) :
    trimStart (front ++ s) = s :=
  (Token.Run.mk hfront hs).dropWhile_eq

theorem trimStart_eq_self (h : ∀ c ∈ s.head?, isBlank c = false) : trimStart s = s :=
  trimStart_append blank_nil h

theorem trimStart_of_blank (h : Blank s) : trimStart s = [] := by
  have hall := trimStart_append (s := []) h nofun
  rwa [List.append_nil] at hall

theorem trimEnd_of_blank (h : Blank s) : trimEnd s = [] := by
  show (trimStart s.reverse).reverse = []
  rw [trimStart_of_blank h.reverse, List.reverse_nil]

theorem trimEnd_append_of_blank (hw : Blank w) (s : List Char) :
    trimEnd (s ++ w) = trimEnd s := by
  unfold trimEnd
  rw [List.reverse_append, List.dropWhile_append_of_pos]
  exact hw.reverse

theorem trimEnd_eq_self (h : ∀ c ∈ s.getLast?, isBlank c = false) : trimEnd s = s := by
  show (trimStart s.reverse).reverse = s
  rw [trimStart_eq_self (by rwa [List.head?_reverse]), List.reverse_reverse]

theorem trimEnd_trimEnd (s : List Char) : trimEnd (trimEnd s) = trimEnd s :=
  trimEnd_eq_self fun _ => getLast?_trimEnd

theorem trim_trim (s : List Char) : trim (trim s) = trim s := by
  show trimEnd (trimStart (trim s)) = trim s
  rw [trimStart_eq_self fun _ => head?_trim]
  exact trimEnd_trimEnd _

theorem trim_of_blank (h : Blank s) : trim s = [] := by
  rw [trim, trimStart_of_blank h]
  rfl

/-- Trimming takes all blanks around a text that has none at its ends. -/
theorem trim_append_append (hfront : Blank front) (hback : Blank back)
    (hhead : ∀ c ∈ s.head?, isBlank c = false) (hlast : ∀ c ∈ s.getLast?, isBlank c = false) :
    trim (front ++ (s ++ back)) = s := by
  cases s with
  | nil => exact trim_of_blank (hfront.append hback)
  | cons c s =>
    have hstart : trimStart (front ++ (c :: s ++ back)) = c :: s ++ back :=
      trimStart_append hfront hhead
    rw [trim, hstart, trimEnd_append_of_blank hback, trimEnd_eq_self hlast]

/-- Blanks at the beginning stay in front of what is left, if anything is. -/
theorem trimEnd_blank_append (hs : Blank s) (w : List Char) :
    trimEnd w = [] ∧ trimEnd (s ++ w) = [] ∨ trimEnd (s ++ w) = s ++ trimEnd w := by
  obtain ⟨back, hback, hblank⟩ := trimEnd_split w
  by_cases hw : trimEnd w = []
  · rw [hw, List.nil_append] at hback
    refine .inl ⟨hw, trimEnd_of_blank (hs.append ?_)⟩
    rw [hback]
    exact hblank
  · refine .inr ?_
    unfold trimEnd at hw ⊢
    rw [List.reverse_append, List.dropWhile_append, if_neg, List.reverse_append,
      List.reverse_reverse]
    intro hempty
    rw [List.isEmpty_iff.mp hempty] at hw
    exact hw rfl

/-! ## Splitting -/

section Split

variable {p : Char → Bool}

theorem splitBy_ne_nil (p : Char → Bool) (s : List Char) : splitBy p s ≠ [] := by
  cases s with
  | nil => exact List.cons_ne_nil _ _
  | cons c s =>
    rw [splitBy]
    split
    · exact List.cons_ne_nil _ _
    split <;> exact List.cons_ne_nil _ _

/-- A text is split at a separator wherever else it is split. -/
theorem splitBy_append_cons (hc : p c = true) (s t : List Char) :
    splitBy p (s ++ c :: t) = splitBy p s ++ splitBy p t := by
  induction s with
  | nil => simp [splitBy, hc]
  | cons d s ih =>
    rw [List.cons_append, splitBy, splitBy, ih]
    split
    · rfl
    cases hs : splitBy p s with
    | nil => exact absurd hs (splitBy_ne_nil _ s)
    | cons w ws => rfl

theorem splitBy_eq_singleton (h : ∀ c ∈ s, p c = false) : splitBy p s = [s] := by
  induction s with
  | nil => rfl
  | cons c s ih =>
    obtain ⟨hc, hs⟩ := List.forall_mem_cons.mp h
    rw [splitBy, ih hs, if_neg (by simp [hc])]

/-- The texts between separators have none of them. -/
theorem not_of_mem_splitBy : ∀ w ∈ splitBy p s, ∀ c ∈ w, p c = false := by
  fun_induction splitBy p s with
  | case1 => simp
  | case2 c s _ ih => exact List.forall_mem_cons.mpr ⟨nofun, ih⟩
  | case3 c s hc hnil _ => exact absurd hnil (splitBy_ne_nil p s)
  | case4 c s hc w ws heq ih =>
    rw [heq] at ih
    obtain ⟨hw, hws⟩ := List.forall_mem_cons.mp ih
    refine List.forall_mem_cons.mpr ⟨List.forall_mem_cons.mpr ⟨?_, hw⟩, hws⟩
    simpa using hc

theorem splitOn_append_cons (sep : Char) (s t : List Char) :
    splitOn sep (s ++ sep :: t) = splitOn sep s ++ splitOn sep t :=
  splitBy_append_cons (p := (· == sep)) (beq_self_eq_true sep) s t

theorem splitOn_eq_singleton {sep : Char} (h : sep ∉ s) : splitOn sep s = [s] := by
  refine splitBy_eq_singleton fun c hc => ?_
  rw [beq_eq_false_iff_ne]
  rintro rfl
  exact h hc

theorem join_cons {sep : List Char} {ws : List (List Char)} (hws : ws ≠ []) :
    join sep (w :: ws) = w ++ sep ++ join sep ws := by
  cases ws with
  | nil => exact absurd rfl hws
  | cons v ws => rfl

theorem splitOnce_append_cons {sep : Char} (h : sep ∉ s) (t : List Char) :
    splitOnce sep (s ++ sep :: t) = some (s, t) := by
  induction s with
  | nil => exact if_pos rfl
  | cons c s ih =>
    obtain ⟨hc, hs⟩ := List.ne_and_not_mem_of_not_mem_cons h
    rw [List.cons_append, splitOnce, if_neg (Ne.symm hc), ih hs]
    rfl

/-- The texts that were joined are found again. -/
theorem splitOn_join {sep : Char} {ws : List (List Char)} (hne : ws ≠ []) (h : ∀ w ∈ ws, sep ∉ w) :
    splitOn sep (join [sep] ws) = ws := by
  fun_induction join [sep] ws with
  | case1 => exact absurd rfl hne
  | case2 w => exact splitOn_eq_singleton (h w List.mem_cons_self)
  | case3 w ws hws ih =>
    obtain ⟨hw, hrest⟩ := List.forall_mem_cons.mp h
    rw [List.append_assoc]
    show splitOn sep (w ++ sep :: join [sep] ws) = w :: ws
    rw [splitOn_append_cons, splitOn_eq_singleton hw, ih hws hrest]
    rfl

end Split

/-! ## Words -/

/-- Characters without a blank among them, and at least one. -/
structure IsWord (w : List Char) : Prop where
  ne_nil : w ≠ []
  not_blank : ∀ c ∈ w, isBlank c = false

theorem isWord_of_mem_words (h : w ∈ words s) : IsWord w := by
  obtain ⟨hmem, hne⟩ := List.mem_filter.mp h
  exact ⟨by simpa using hne, not_of_mem_splitBy w hmem⟩

theorem words_append_cons (hc : isBlank c = true) (s t : List Char) :
    words (s ++ c :: t) = words s ++ words t := by
  unfold words
  rw [splitBy_append_cons hc, List.filter_append]

theorem IsWord.words_eq (h : IsWord w) : words w = [w] := by
  rw [words, splitBy_eq_singleton h.not_blank, List.filter_cons_of_pos (by simpa using h.ne_nil)]
  rfl

/-- The words that were joined with blanks between them are found again. -/
theorem words_join {sep : Char} (hsep : isBlank sep = true) (parts : List (List Char)) :
    words (join [sep] parts) = parts.flatMap words := by
  fun_induction join [sep] parts with
  | case1 => rfl
  | case2 part => rw [List.flatMap_singleton]
  | case3 part parts _ ih =>
    rw [List.append_assoc, List.flatMap_cons, ← ih]
    exact words_append_cons hsep part _

end Text

end Stencil
