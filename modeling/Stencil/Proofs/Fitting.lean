import Mathlib.Data.List.Chain
import Stencil.Filter.Apply
import Stencil.Proofs.Text.Parts

/-!
# Fitting text into a width

A text that is cut off has no more characters than asked for, if the mark of the omission fits
(`length_truncatechars_le_iff`). Wrapping keeps all words and fills every line before it begins
another one (`wordwrap_fills_lines`).
-/

namespace Stencil

namespace Text

/-! ## Cutting off -/

section Truncate

variable {length : Nat} {s : List Char}

theorem truncate_of_le (h : s.length ≤ length) : truncate length s = s := if_pos h

/-- A text that is too long is cut off in front of the mark; blanks at the cut are left out. -/
theorem truncate_of_lt (h : length < s.length) :
    ∃ kept blanks, s.take (length - omission.length) = kept ++ blanks ∧ Blank blanks ∧
      (∀ c ∈ kept.getLast?, isBlank c = false) ∧ truncate length s = kept ++ omission := by
  obtain ⟨blanks, hsplit, hblanks⟩ := trimEnd_split (s.take (length - omission.length))
  exact ⟨_, blanks, hsplit, hblanks, fun _ => getLast?_trimEnd, if_neg (Nat.not_le_of_lt h)⟩

theorem length_truncate_le_iff :
    (truncate length s).length ≤ length ↔ s.length ≤ length ∨ omission.length ≤ length := by
  by_cases hs : s.length ≤ length
  · rw [truncate_of_le hs]
    exact iff_of_true hs (.inl hs)
  · obtain ⟨kept, blanks, hsplit, -, -, htruncate⟩ := truncate_of_lt (Nat.lt_of_not_le hs)
    have hlength := congrArg List.length hsplit
    rw [List.length_take, List.length_append] at hlength
    rw [htruncate, List.length_append]
    omega

end Truncate

/-! ## Lines of words -/

/-- The lines that are filled with words one after the other, beginning with the words of the line
that is begun already. -/
def fill (width : Nat) (line : List (List Char)) : List (List Char) → List (List (List Char))
  | [] => [line]
  | w :: ws =>
    if width < (joinWords line).length + w.length + 1 then line :: fill width [w] ws
    else fill width (line ++ [w]) ws

section Fill

variable {width : Nat} {line ws : List (List Char)} {w : List Char}

theorem joinWords_concat (hline : line ≠ []) :
    joinWords (line ++ [w]) = joinWords line ++ ' ' :: w := by
  unfold joinWords
  induction line with
  | nil => exact absurd rfl hline
  | cons v line ih =>
    cases line with
    | nil => exact List.append_assoc v [' '] w
    | cons u line =>
      rw [List.cons_append, join_cons (by simp), ih (List.cons_ne_nil _ _),
        join_cons (List.cons_ne_nil _ _)]
      simp only [List.append_assoc]

/-- The line that is begun is the first one, with further words behind. -/
theorem exists_fill_eq (width : Nat) (line ws : List (List Char)) :
    ∃ more lines, fill width line ws = (line ++ more) :: lines := by
  fun_induction fill width line ws with
  | case1 line => exact ⟨[], [], by rw [List.append_nil]⟩
  | case2 line => exact ⟨[], _, by rw [List.append_nil]⟩
  | case3 line w ws _ ih =>
    obtain ⟨more, lines, heq⟩ := ih
    exact ⟨w :: more, lines, by rw [heq, List.append_assoc, List.singleton_append]⟩

theorem fill_ne_nil (width : Nat) (line ws : List (List Char)) : fill width line ws ≠ [] := by
  obtain ⟨more, lines, heq⟩ := exists_fill_eq width line ws
  rw [heq]
  exact List.cons_ne_nil _ _

theorem flatten_fill (width : Nat) (line ws : List (List Char)) :
    (fill width line ws).flatten = line ++ ws := by
  fun_induction fill width line ws with
  | case1 line => rw [List.flatten_singleton, List.append_nil]
  | case2 line w ws _ ih => rw [List.flatten_cons, ih, List.singleton_append]
  | case3 line w ws _ ih => rw [ih, List.append_assoc, List.singleton_append]

/-- A line has at most `width` characters, or it is one word. -/
def Fits (width : Nat) (line : List (List Char)) : Prop :=
  (joinWords line).length ≤ width ∨ ∃ w, line = [w]

theorem fits_of_mem_fill (hline : line ≠ []) (hfits : Fits width line) :
    ∀ l ∈ fill width line ws, Fits width l := by
  fun_induction fill width line ws with
  | case1 line => exact List.forall_mem_singleton.mpr hfits
  | case2 line w ws _ ih =>
    exact List.forall_mem_cons.mpr ⟨hfits, ih (List.cons_ne_nil _ _) (.inr ⟨w, rfl⟩)⟩
  | case3 line w ws hroom ih =>
    refine ih (by simp) (.inl ?_)
    rw [joinWords_concat hline, List.length_append, List.length_cons]
    omega

/-- The first word of the next line does not fit on the line. -/
def Full (width : Nat) (line next : List (List Char)) : Prop :=
  ∃ w, next.head? = some w ∧ width < (joinWords line).length + 1 + w.length

/-- Each line is full when the next one begins. -/
theorem isChain_fill (width : Nat) (line ws : List (List Char)) :
    (fill width line ws).IsChain (Full width) := by
  fun_induction fill width line ws with
  | case1 line => exact .singleton line
  | case2 line w ws hfull ih =>
    obtain ⟨more, lines, heq⟩ := exists_fill_eq width [w] ws
    rw [heq] at ih ⊢
    exact ih.cons_cons ⟨w, rfl, by omega⟩
  | case3 line w ws _ ih => exact ih

/-! ## Wrapping -/

/-- Wrapping goes on with a line, of which it knows the length, as filling does. -/
theorem wrapFrom_eq_fill (hline : line ≠ []) :
    joinWords line ++ wrapFrom width true (joinWords line).length ws =
      join ['\n'] ((fill width line ws).map joinWords) := by
  fun_induction fill width line ws with
  | case1 line => exact List.append_nil _
  | case2 line w ws hfull ih =>
    have hnext := ih (List.cons_ne_nil w [])
    change w ++ wrapFrom width true w.length ws = _ at hnext
    rw [wrapFrom, if_pos hfull, List.map_cons,
      join_cons (by simpa using fill_ne_nil width [w] ws), ← hnext]
    simp
  | case3 line w ws hroom ih =>
    have hnext := ih (by simp)
    rw [joinWords_concat hline, List.length_append, List.length_cons] at hnext
    rw [wrapFrom, if_neg hroom, ← hnext]
    simp [Nat.add_assoc, Nat.add_comm 1]

theorem wrap_of_words_eq_nil {s : List Char} (h : words s = []) : wrap width s = [] := by
  rw [wrap, h]
  rfl

theorem wrap_of_words_eq_cons {s : List Char} (h : words s = w :: ws) :
    wrap width s = join ['\n'] ((fill width [w] ws).map joinWords) := by
  rw [← wrapFrom_eq_fill (List.cons_ne_nil w []), wrap, h, wrapFrom]
  show _ = w ++ wrapFrom width true w.length ws
  simp

end Fill

/-! ### The text that is wrapped -/

/-- The words in a row, with exactly one space or one line break behind each of them but the
last. -/
inductive Spaced : (ws : List (List Char)) → (t : List Char) → Prop where
  | nil : Spaced [] []
  | single (w : List Char) : Spaced [w] w
  | cons (w : List Char) {sep : Char} {ws : List (List Char)} {t : List Char}
      (hsep : sep = ' ' ∨ sep = '\n') (hws : ws ≠ []) (h : Spaced ws t) :
      Spaced (w :: ws) (w ++ sep :: t)

section Wrap

variable {width : Nat} {ws : List (List Char)} {s t : List Char}

theorem spaced_wrapFrom (width used : Nat) (w : List Char) (ws : List (List Char)) :
    Spaced (w :: ws) (w ++ wrapFrom width true used ws) := by
  induction ws generalizing w used with
  | nil =>
    rw [wrapFrom, List.append_nil]
    exact .single w
  | cons v ws ih =>
    rw [wrapFrom]
    split
    · exact .cons w (.inr rfl) (List.cons_ne_nil _ _) (ih _ v)
    · exact .cons w (.inl rfl) (List.cons_ne_nil _ _) (ih _ v)

theorem spaced_wrap (width : Nat) (s : List Char) : Spaced (words s) (wrap width s) := by
  rw [wrap]
  cases words s with
  | nil => exact .nil
  | cons w ws =>
    rw [wrapFrom]
    simp only [Bool.false_eq_true, if_false]
    split <;> exact spaced_wrapFrom width _ w ws

/-- The words are found again. -/
theorem Spaced.words_eq (h : Spaced ws t) (hws : ∀ w ∈ ws, IsWord w) : words t = ws := by
  induction h with
  | nil => rfl
  | single w => exact (hws w List.mem_cons_self).words_eq
  | @cons w sep ws t hsep _ _ ih =>
    obtain ⟨hw, hws⟩ := List.forall_mem_cons.mp hws
    have hblank : isBlank sep = true := by
      obtain rfl | rfl := hsep <;> rfl
    rw [words_append_cons hblank, hw.words_eq, ih hws]
    rfl

theorem words_joinWords (h : ∀ w ∈ ws, IsWord w) : words (joinWords ws) = ws := by
  rw [joinWords, words_join (by rfl)]
  induction ws with
  | nil => rfl
  | cons w ws ih =>
    obtain ⟨hw, hws⟩ := List.forall_mem_cons.mp h
    rw [List.flatMap_cons, hw.words_eq, ih hws]
    rfl

theorem not_mem_joinWords {line : List (List Char)} (h : ∀ w ∈ line, IsWord w) :
    '\n' ∉ joinWords line := by
  unfold joinWords
  fun_induction join [' '] line with
  | case1 => exact List.not_mem_nil
  | case2 w => exact fun hmem => absurd ((h w List.mem_cons_self).not_blank _ hmem) (by decide)
  | case3 w line _ ih =>
    obtain ⟨hw, hline⟩ := List.forall_mem_cons.mp h
    have hnew : '\n' ∉ w := fun hmem => absurd (hw.not_blank _ hmem) (by decide)
    simp [hnew, ih hline]

/-- A wrapped text has lines as they were filled. -/
theorem exists_lines_wrap (width : Nat) (hs : words s ≠ []) :
    ∃ lines : List (List (List Char)), splitOn '\n' (wrap width s) = lines.map joinWords ∧
      (∀ line ∈ lines, ∀ w ∈ line, IsWord w) ∧ (∀ line ∈ lines, Fits width line) ∧
      lines.IsChain (Full width) := by
  obtain ⟨w, ws, hwords⟩ := List.exists_cons_of_ne_nil hs
  have hword : ∀ line ∈ fill width [w] ws, ∀ v ∈ line, IsWord v := by
    intro line hline v hv
    refine isWord_of_mem_words (s := s) ?_
    rw [hwords, ← List.singleton_append, ← flatten_fill width [w] ws]
    exact List.mem_flatten_of_mem hline hv
  refine ⟨fill width [w] ws, ?_, hword, fits_of_mem_fill (List.cons_ne_nil _ _) (.inr ⟨w, rfl⟩),
    isChain_fill width [w] ws⟩
  rw [wrap_of_words_eq_cons hwords]
  refine splitOn_join (by simpa using fill_ne_nil width [w] ws) fun t ht => ?_
  obtain ⟨line, hline, rfl⟩ := List.mem_map.mp ht
  exact not_mem_joinWords (hword line hline)

/-- A line that is too long is one word. -/
theorem fits_of_mem_wrap (width : Nat) (s : List Char) :
    ∀ line ∈ splitOn '\n' (wrap width s), line.length ≤ width ∨ words line = [line] := by
  by_cases hs : words s = []
  · rw [wrap_of_words_eq_nil hs]
    exact List.forall_mem_singleton.mpr (.inl (Nat.zero_le width))
  · obtain ⟨lines, heq, hword, hfits, -⟩ := exists_lines_wrap width hs
    rw [heq]
    refine List.forall_mem_map.mpr fun line hline => ?_
    obtain hle | ⟨w, rfl⟩ := hfits line hline
    · exact .inl hle
    · exact .inr (hword _ hline w List.mem_cons_self).words_eq

/-- A line ends only where the next word does not fit on it. -/
theorem isChain_wrap (width : Nat) (s : List Char) :
    (splitOn '\n' (wrap width s)).IsChain fun line next =>
      ∃ w, (words next).head? = some w ∧ width < line.length + 1 + w.length := by
  by_cases hs : words s = []
  · rw [wrap_of_words_eq_nil hs]
    exact .singleton _
  · obtain ⟨lines, heq, hword, -, hchain⟩ := exists_lines_wrap width hs
    rw [heq, List.isChain_map]
    refine hchain.imp_of_mem_imp fun line next _ hnext hfull => ?_
    obtain ⟨w, hw, hlt⟩ := hfull
    exact ⟨w, by rwa [words_joinWords (hword next hnext)], hlt⟩

end Wrap

end Text

open Text

/-- What `truncatechars` makes of a text that is longer than asked for is a start of it, without
blanks at its end, and the mark of the omission; a shorter text is left alone. The result is as
short as asked for if the mark itself is. -/
theorem length_truncatechars_le_iff (v a : Value) :
    let n := a.toInteger.toNat
    ∃ w, Filter.truncatechars.apply v (some a) = .ok w ∧ w.isSafe = v.isSafe ∧
      (w.text.length ≤ n ↔ v.text.length ≤ n ∨ omission.length ≤ n) ∧
      (v.text.length ≤ n → w.text = v.text) ∧
      (n < v.text.length →
        ∃ kept blanks, v.text.toList.take (n - omission.length) = kept ++ blanks ∧ Blank blanks ∧
          (∀ c ∈ kept.getLast?, isBlank c = false) ∧ w.text.toList = kept ++ omission) := by
  intro n
  refine ⟨Filter.onText (truncate n) v, rfl, Filter.isSafe_onText _ v, ?_⟩
  rw [← String.length_toList, ← String.length_toList, ← String.toList_inj, Filter.text_onText]
  exact ⟨length_truncate_le_iff, truncate_of_le, truncate_of_lt⟩

/-- Where the mark does not fit, it is written nevertheless. -/
theorem not_truncatechars_le : ¬∀ (s : String) (n : Nat), ∃ w,
    Filter.truncatechars.apply (.str s) (some (.int n)) = .ok w ∧ w.text.length ≤ n := by
  intro h
  obtain ⟨w, happly, hle⟩ := h "abc" 0
  obtain rfl : Value.str "..." = w := Except.ok.inj happly
  exact absurd hle (by decide)

/-- What `wordwrap` makes of a text has the same words, with one space or one line break between
them. A line that has more characters than asked for is one word, and a line ends only where the
next word does not fit on it. -/
theorem wordwrap_fills_lines (v a : Value) :
    let n := a.toInteger.toNat
    ∃ w, Filter.wordwrap.apply v (some a) = .ok w ∧ w.isSafe = v.isSafe ∧
      words w.text.toList = words v.text.toList ∧
      Spaced (words v.text.toList) w.text.toList ∧
      (∀ line ∈ splitOn '\n' w.text.toList, line.length ≤ n ∨ words line = [line]) ∧
      (splitOn '\n' w.text.toList).IsChain fun line next =>
        ∃ word, (words next).head? = some word ∧ n < line.length + 1 + word.length := by
  intro n
  refine ⟨Filter.onText (wrap n) v, rfl, Filter.isSafe_onText _ v, ?_⟩
  rw [Filter.text_onText]
  have hspaced := spaced_wrap n v.text.toList
  exact ⟨hspaced.words_eq fun _ => isWord_of_mem_words, hspaced, fits_of_mem_wrap n _,
    isChain_wrap n _⟩

example : wrap 7 "a  long sentence\twith words".toList =
  "a long\nsentence\nwith\nwords".toList := by
  decide

end Stencil
