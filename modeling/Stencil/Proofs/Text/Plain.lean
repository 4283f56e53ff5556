import Stencil.Proofs.Text.Parts
import Stencil.Text.Case
import Stencil.Text.Escape
import Stencil.Text.Layout
import Stencil.Text.Tags

/-!
# Texts without markup

A text is plain if it has none of the characters that begin, end or quote something in a page. What
is escaped is plain. Taking parts of a plain text, changing its case and filling it with blanks
leaves it plain.
-/

namespace Stencil.Text

/-- The characters that begin, end or quote something in a page. -/
def isMarkup (c : Char) : Bool := c == '<' || c == '>' || c == '"' || c == '\''

/-- A text without characters of markup. -/
def Plain (s : List Char) : Prop := ∀ c ∈ s, isMarkup c = false

instance (s : List Char) : Decidable (Plain s) :=
  List.decidableBAll (fun c => isMarkup c = false) s

variable {s t : List Char} {c : Char}

theorem plain_nil : Plain [] := nofun

theorem plain_cons : Plain (c :: s) ↔ isMarkup c = false ∧ Plain s := List.forall_mem_cons

theorem plain_append : Plain (s ++ t) ↔ Plain s ∧ Plain t := List.forall_mem_append

theorem Plain.of_subset (h : Plain t) (hs : s ⊆ t) : Plain s := fun c hc => h c (hs hc)

theorem plain_flatMap {α : Type} {f : α → List Char} {as : List α} (h : ∀ a ∈ as, Plain (f a)) :
    Plain (as.flatMap f) := by
  intro c hc
  obtain ⟨a, ha, hca⟩ := List.mem_flatMap.mp hc
  exact h a ha c hca

theorem plain_replicate {n : Nat} (h : isMarkup c = false) : Plain (List.replicate n c) := by
  intro d hd
  rw [List.eq_of_mem_replicate hd]
  exact h

/-! ## Escaping -/

theorem plain_escapeHtmlChar (c : Char) : Plain (escapeHtmlChar c) := by
  unfold escapeHtmlChar
  split
  · decide
  split
  · decide
  split
  · decide
  split
  · decide
  split
  · decide
  · rename_i hless hmore hquote hapostrophe
    refine plain_cons.mpr ⟨?_, plain_nil⟩
    simp only [isMarkup, beq_eq_false_iff_ne.mpr hless, beq_eq_false_iff_ne.mpr hmore,
      beq_eq_false_iff_ne.mpr hquote, beq_eq_false_iff_ne.mpr hapostrophe, Bool.or_false]

/-- What is escaped is plain. -/
theorem plain_escapeHtml (s : String) : Plain (escapeHtml s).toList := by
  unfold escapeHtml
  rw [String.toList_ofList]
  exact plain_flatMap fun c _ => plain_escapeHtmlChar c

/-! ## Case -/

/-- The characters of markup are among the first of ASCII. -/
theorem isMarkup_of_lt (h : 0x3E < c.toNat) : isMarkup c = false := by
  have hne : ∀ d : Char, d.toNat ≤ 0x3E → (c == d) = false := by
    intro d hd
    refine beq_eq_false_iff_ne.mpr fun heq => ?_
    rw [heq] at h
    omega
  simp only [isMarkup, hne '<' (by decide), hne '>' (by decide), hne '"' (by decide),
    hne '\'' (by decide), Bool.or_false]

theorem isMarkup_ofNat {n : Nat} (h : 0x3E < n) : isMarkup (Char.ofNat n) = false := by
  by_cases hvalid : n.isValidChar
  · have hchar : Char.ofNat n = Char.ofNatAux n hvalid := dif_pos hvalid
    rw [hchar]
    exact isMarkup_of_lt h
  · have hdefault : Char.ofNat n = '\x00' := dif_neg hvalid
    rw [hdefault]
    decide

/-- The tables give no character of markup if they say so for the first of each run. -/
theorem plain_mapCase {rules : List CaseRule} {long : List (Nat × List Nat)}
    (hrules : ∀ r ∈ rules, 0x3E < r.first + r.shift) (hlong : ∀ e ∈ long, ∀ n ∈ e.2, 0x3E < n)
    (hc : isMarkup c = false) : Plain (mapCase rules long c) := by
  unfold mapCase
  split
  · rename_i e hfound
    intro d hd
    obtain ⟨n, hn, rfl⟩ := List.mem_map.mp hd
    exact isMarkup_ofNat (hlong _ (List.mem_of_find?_eq_some hfound) n hn)
  · split
    · rename_i r hfound
      have hr := hrules r (List.mem_of_find?_eq_some hfound)
      have hcovers := List.find?_some hfound
      simp only [CaseRule.covers, Bool.and_eq_true, decide_eq_true_eq] at hcovers
      have hmap : 0x3E < r.map c.toNat := by
        unfold CaseRule.map
        omega
      exact plain_cons.mpr ⟨isMarkup_ofNat hmap, plain_nil⟩
    · exact plain_cons.mpr ⟨hc, plain_nil⟩

/-- The case of an ASCII character does not make it one of markup. -/
theorem isMarkup_ascii (hascii : c.toNat < 0x80) :
    isMarkup c = false → isMarkup c.toUpper = false ∧ isMarkup c.toLower = false :=
  forall_ascii (P := fun c => isMarkup c = false →
    isMarkup c.toUpper = false ∧ isMarkup c.toLower = false) (by decide) hascii

theorem plain_upperChar (hc : isMarkup c = false) : Plain (upperChar c) := by
  unfold upperChar
  split
  · rename_i hascii
    exact plain_cons.mpr ⟨(isMarkup_ascii hascii hc).1, plain_nil⟩
  · exact plain_mapCase (by decide +kernel) (by decide +kernel) hc

theorem plain_lowerChar (hc : isMarkup c = false) : Plain (lowerChar c) := by
  unfold lowerChar
  split
  · rename_i hascii
    exact plain_cons.mpr ⟨(isMarkup_ascii hascii hc).2, plain_nil⟩
  · exact plain_mapCase (by decide +kernel) (by decide +kernel) hc

theorem plain_upper (h : Plain s) : Plain (upper s) :=
  plain_flatMap fun c hc => plain_upperChar (h c hc)

theorem plain_lowerAfter (before : List Char) (h : Plain s) : Plain (lowerAfter before s) := by
  induction s generalizing before with
  | nil => exact plain_nil
  | cons c s ih =>
    obtain ⟨hc, hs⟩ := plain_cons.mp h
    unfold lowerAfter
    split
    · refine plain_cons.mpr ⟨?_, ih _ hs⟩
      split <;> decide
    · exact plain_append.mpr ⟨plain_lowerChar hc, ih _ hs⟩

theorem plain_titleFrom (inWord : Bool) (h : Plain s) : Plain (titleFrom inWord s) := by
  induction s generalizing inWord with
  | nil => exact plain_nil
  | cons c s ih =>
    obtain ⟨hc, hs⟩ := plain_cons.mp h
    refine plain_append.mpr ⟨?_, ih _ hs⟩
    split
    · exact plain_lowerChar hc
    · exact plain_upperChar hc

theorem plain_capitalize (h : Plain s) : Plain (capitalize s) := by
  cases s with
  | nil => exact plain_nil
  | cons c s =>
    obtain ⟨hc, hs⟩ := plain_cons.mp h
    exact plain_append.mpr ⟨plain_upperChar hc, hs⟩

/-! ## Parts -/

theorem trim_subset (s : List Char) : trim s ⊆ s := (trim_part s).subset

theorem dropMatches_subset (match? : List Char → Option Nat) (s : List Char) :
    dropMatches match? s ⊆ s := by
  fun_induction dropMatches match? s with
  | case1 => exact List.Subset.refl _
  | case2 c s n _ ih =>
    have hs : s.drop (n - 1) ⊆ c :: s :=
      List.Subset.trans (List.drop_subset _ _) (List.subset_cons_self _ _)
    exact List.Subset.trans ih hs
  | case3 c s _ ih => exact List.cons_subset_cons c ih

theorem untilStable_subset {f : List Char → List Char} (hf : ∀ s, f s ⊆ s) {passes : Nat}
    (h : untilStable f passes s = some t) : t ⊆ s := by
  induction passes generalizing s with
  | zero => cases h
  | succ passes ih =>
    unfold untilStable at h
    dsimp only at h
    split at h
    · cases h
      exact List.Subset.refl _
    · exact List.Subset.trans (ih h) (hf s)

theorem removeTags_subset {names : List (List Char)} (h : removeTags names s = some t) : t ⊆ s :=
  untilStable_subset (dropMatches_subset _) h

theorem dropGaps_subset (s : List Char) : dropGaps s ⊆ s := by
  fun_induction dropGaps s with
  | case1 => exact List.Subset.refl _
  | case2 c s _ ih => exact List.cons_subset_cons c (List.Subset.trans ih (List.drop_subset _ _))
  | case3 c s _ ih => exact List.cons_subset_cons c ih

theorem replaceFrom_subset (old : List Char) (skip : Nat) (s : List Char) :
    replaceFrom old [] skip s ⊆ s := by
  fun_induction replaceFrom old [] skip s with
  | case1 => exact List.Subset.refl _
  | case2 skip c s ih => exact List.Subset.trans ih (List.subset_cons_self _ _)
  | case3 c s _ ih => exact List.Subset.trans ih (List.subset_cons_self _ _)
  | case4 c s _ ih => exact List.cons_subset_cons c ih

theorem splitBy_subset (p : Char → Bool) (s : List Char) : ∀ w ∈ splitBy p s, w ⊆ s := by
  fun_induction splitBy p s with
  | case1 => simp
  | case2 c s _ ih =>
    refine List.forall_mem_cons.mpr ⟨List.nil_subset _, fun w hw => ?_⟩
    exact List.Subset.trans (ih w hw) (List.subset_cons_self _ _)
  | case3 c s _ _ => simp
  | case4 c s _ w ws heq ih =>
    obtain ⟨hw, hws⟩ := List.forall_mem_cons.mp (heq ▸ ih)
    refine List.forall_mem_cons.mpr ⟨List.cons_subset_cons c hw, fun v hv => ?_⟩
    exact List.Subset.trans (hws v hv) (List.subset_cons_self _ _)

theorem words_subset (s : List Char) : ∀ w ∈ words s, w ⊆ s := fun w hw =>
  splitBy_subset isBlank s w (List.mem_filter.mp hw).1

/-! ## Layout -/

theorem plain_join {sep : List Char} {ws : List (List Char)} (hsep : Plain sep)
    (hws : ∀ w ∈ ws, Plain w) : Plain (join sep ws) := by
  fun_induction join sep ws with
  | case1 => exact plain_nil
  | case2 w => exact hws w (List.mem_singleton_self w)
  | case3 w ws _ ih =>
    obtain ⟨hw, hrest⟩ := List.forall_mem_cons.mp hws
    exact plain_append.mpr ⟨plain_append.mpr ⟨hw, hsep⟩, ih hrest⟩

theorem plain_truncate (length : Nat) (h : Plain s) : Plain (truncate length s) := by
  unfold truncate
  split
  · exact h
  · refine plain_append.mpr ⟨?_, by decide⟩
    exact h.of_subset (List.Subset.trans (isPrefix_trimEnd _).subset (List.take_subset _ _))

theorem plain_words (h : Plain s) : ∀ w ∈ words s, Plain w := fun w hw =>
  h.of_subset (words_subset s w hw)

theorem plain_truncateWords (count : Nat) (h : Plain s) : Plain (truncateWords count s) := by
  unfold truncateWords joinWords
  dsimp only
  split
  · exact plain_join (by decide) (plain_words h)
  · refine plain_append.mpr ⟨plain_join (by decide) fun w hw => ?_, by decide⟩
    exact plain_words h w (List.mem_of_mem_take hw)

theorem plain_wrapFrom (width : Nat) (started : Bool) (used : Nat) {ws : List (List Char)}
    (hws : ∀ w ∈ ws, Plain w) : Plain (wrapFrom width started used ws) := by
  induction ws generalizing started used with
  | nil => exact plain_nil
  | cons w ws ih =>
    obtain ⟨hw, hrest⟩ := List.forall_mem_cons.mp hws
    unfold wrapFrom
    split
    · refine plain_append.mpr ⟨?_, ih _ _ hrest⟩
      split
      · exact plain_cons.mpr ⟨by decide, hw⟩
      · exact hw
    · split
      · exact plain_append.mpr ⟨plain_cons.mpr ⟨by decide, hw⟩, ih _ _ hrest⟩
      · exact plain_append.mpr ⟨hw, ih _ _ hrest⟩

theorem plain_wrap (width : Nat) (h : Plain s) : Plain (wrap width s) :=
  plain_wrapFrom width false 0 (plain_words h)

theorem plain_spaces (n : Nat) : Plain (spaces n) := plain_replicate (by decide)

theorem plain_padRight (width : Nat) (h : Plain s) : Plain (padRight width s) :=
  plain_append.mpr ⟨h, plain_spaces _⟩

theorem plain_padLeft (width : Nat) (h : Plain s) : Plain (padLeft width s) :=
  plain_append.mpr ⟨plain_spaces _, h⟩

theorem plain_padBoth (width : Nat) (h : Plain s) : Plain (padBoth width s) :=
  plain_append.mpr ⟨plain_append.mpr ⟨plain_spaces _, h⟩, plain_spaces _⟩

/-! ## Numbers -/

theorem isMarkup_digit (h : c.isDigit = true) : isMarkup c = false :=
  forall_ascii (P := fun c => c.isDigit = true → isMarkup c = false) (by decide)
    (Nat.lt_of_le_of_lt (Char.isDigit_iff_toNat.mp h).2 (by decide)) h

theorem plain_toDigits (n : Nat) : Plain (Nat.toDigits 10 n) := fun _ hc =>
  isMarkup_digit (Nat.isDigit_of_mem_toDigits (by decide) (by decide) hc)

theorem plain_toString (n : Int) : Plain (toString n).toList := by
  cases n with
  | ofNat n =>
    change Plain (String.ofList (Nat.toDigits 10 n)).toList
    rw [String.toList_ofList]
    exact plain_toDigits n
  | negSucc n =>
    change Plain ("-" ++ String.ofList (Nat.toDigits 10 (n + 1))).toList
    rw [String.toList_append]
    refine plain_append.mpr ⟨by decide, ?_⟩
    rw [String.toList_ofList]
    exact plain_toDigits _

end Stencil.Text
