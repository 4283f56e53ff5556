import Stencil.Proofs.Keeping
import Stencil.Proofs.Text.Parts
import Stencil.Render.Exec

/-!
# Gaps between tags

The tag that takes the gaps out of what its body writes goes over the text once. A gap that is
closed neither opens another one nor hides one, so nothing is left to do for a second pass
(`spaceless_closes_gaps`).
-/

namespace Stencil

namespace Text

variable {s t front back gap : List Char} {c : Char}

/-- Of `s` only gaps are missing in `t`: runs of blanks that stand directly between a `>` and a `<`,
each of them as a whole. -/
inductive Closes : (s t : List Char) → Prop where
  | nil : Closes [] []
  | keep (c : Char) {s t : List Char} (h : Closes s t) : Closes (c :: s) (c :: t)
  | close {gap s t : List Char} (hgap : Blank gap) (h : Closes ('<' :: s) t) :
      Closes ('>' :: (gap ++ '<' :: s)) ('>' :: t)

/-- Nowhere in the text are there blanks, one or more, directly between a `>` and a `<`. -/
def GapFree (s : List Char) : Prop :=
  ∀ before gap behind, gap ≠ [] → Blank gap → s ≠ before ++ '>' :: (gap ++ '<' :: behind)

theorem GapFree.of_infix (hs : GapFree s) (h : t <:+: s) : GapFree t := by
  rintro before gap behind hne hgap rfl
  obtain ⟨front, back, rfl⟩ := h
  exact hs (front ++ before) gap (behind ++ back) hne hgap (by simp)

theorem gapFree_cons (ht : GapFree t)
    (hc : c = '>' → ∀ gap behind, gap ≠ [] → Blank gap → t ≠ gap ++ '<' :: behind) :
    GapFree (c :: t) := by
  rintro (_ | ⟨d, before⟩) gap behind hne hgap heq
  · obtain ⟨hc', heq⟩ := List.cons.inj heq
    exact hc hc' gap behind hne hgap heq
  · exact ht before gap behind hne hgap (List.cons.inj heq).2

/-! ## One pass -/

theorem not_blank_of_mark {rest : List Char} : ∀ c ∈ ('<' :: rest).head?, isBlank c = false := by
  rintro _ ⟨⟩
  decide

theorem dropGaps_close (hgap : Blank gap) (s : List Char) :
    dropGaps ('>' :: (gap ++ '<' :: s)) = '>' :: dropGaps ('<' :: s) := by
  have hrun : Token.Run isBlank gap ('<' :: s) := ⟨hgap, not_blank_of_mark⟩
  rw [dropGaps, hrun.dropWhile_eq, hrun.takeWhile_eq, List.drop_left]
  rfl

/-- A `>` has a gap behind it, or directly a `<`. -/
def GapAhead (c : Char) (s : List Char) : Prop :=
  c = '>' ∧ ∃ gap behind, Blank gap ∧ s = gap ++ '<' :: behind

theorem dropGaps_keep (h : ¬GapAhead c s) : dropGaps (c :: s) = c :: dropGaps s := by
  rw [dropGaps, if_neg]
  intro hahead
  simp only [Bool.and_eq_true, decide_eq_true_eq, beq_iff_eq] at hahead
  obtain ⟨behind, hbehind⟩ := List.head?_eq_some_iff.mp hahead.2
  refine h ⟨hahead.1, s.takeWhile isBlank, behind, (Token.run_takeWhile isBlank s).all, ?_⟩
  rw [← hbehind, List.takeWhile_append_dropWhile]

/-- A text is read gap by gap, and where there is none, character by character. -/
theorem gapInduction {motive : List Char → Prop} (nil : motive [])
    (keep : ∀ c s, ¬GapAhead c s → motive s → motive (c :: s))
    (close : ∀ gap s, Blank gap → motive ('<' :: s) → motive ('>' :: (gap ++ '<' :: s)))
    (s : List Char) : motive s := by
  induction hlength : s.length using Nat.strongRecOn generalizing s with
  | ind n ih =>
    subst hlength
    cases s with
    | nil => exact nil
    | cons c s =>
      by_cases hahead : GapAhead c s
      · obtain ⟨rfl, gap, behind, hgap, rfl⟩ := hahead
        refine close gap behind hgap (ih _ ?_ _ rfl)
        simp only [List.length_cons, List.length_append]
        omega
      · exact keep c s hahead (ih _ (Nat.lt_succ_self _) s rfl)

theorem closes_dropGaps (s : List Char) : Closes s (dropGaps s) := by
  induction s using gapInduction with
  | nil =>
    rw [dropGaps]
    exact .nil
  | keep c s h ih =>
    rw [dropGaps_keep h]
    exact .keep c ih
  | close gap s hgap ih =>
    rw [dropGaps_close hgap]
    exact .close hgap ih

/-- A text without gaps is not changed. -/
theorem GapFree.dropGaps_eq (h : GapFree s) : dropGaps s = s := by
  induction s using gapInduction with
  | nil => rw [dropGaps]
  | keep c s hahead ih =>
    have hs : GapFree s := h.of_infix (List.suffix_cons c s).isInfix
    rw [dropGaps_keep hahead, ih hs]
  | close gap s hgap ih =>
    cases gap with
    | nil =>
      have hs : GapFree ('<' :: s) := h.of_infix (List.suffix_cons _ _).isInfix
      rw [dropGaps_close hgap, ih hs]
      rfl
    | cons c gap => exact absurd rfl (h [] (c :: gap) s (List.cons_ne_nil _ _) hgap)

/-! ## What the pass leaves alone -/

/-- Blanks in front are kept, since none of them is a `>`. -/
theorem Closes.of_blank_append (hfront : Blank front) (h : Closes s (front ++ t)) :
    ∃ s', s = front ++ s' ∧ Closes s' t := by
  induction front generalizing s with
  | nil => exact ⟨s, rfl, h⟩
  | cons c front ih =>
    obtain ⟨hc, hfront⟩ := blank_cons.mp hfront
    cases h with
    | keep _ h =>
      obtain ⟨s', rfl, hs'⟩ := ih hfront h
      exact ⟨s', rfl, hs'⟩
    | close => exact absurd hc (by decide)

theorem Closes.nil_right (h : Closes s []) : s = [] := by
  cases h
  rfl

/-- Blanks at the end are kept, since there is no `<` behind them. -/
theorem Closes.of_append_blank (hback : Blank back) (h : Closes s (t ++ back)) :
    ∃ s', s = s' ++ back ∧ Closes s' t := by
  induction t generalizing s with
  | nil =>
    have hs : Closes s (back ++ []) := by rwa [List.append_nil]
    obtain ⟨s', rfl, hs'⟩ := hs.of_blank_append hback
    obtain rfl := hs'.nil_right
    exact ⟨[], by simp, .nil⟩
  | cons c t ih =>
    cases h with
    | keep _ h =>
      obtain ⟨s', rfl, hs'⟩ := ih h
      exact ⟨c :: s', rfl, .keep c hs'⟩
    | @close gap s _ hgap h =>
      obtain ⟨_ | ⟨d, s'⟩, hsplit, hs'⟩ := ih h
      · obtain rfl : '<' :: s = back := hsplit
        exact absurd (hback '<' List.mem_cons_self) (by decide)
      · obtain ⟨rfl, rfl⟩ := List.cons.inj hsplit
        exact ⟨'>' :: (gap ++ '<' :: s'), by simp, .close hgap hs'⟩

/-- One pass closes all gaps. -/
theorem gapFree_dropGaps (s : List Char) : GapFree (dropGaps s) := by
  induction s using gapInduction with
  | nil =>
    rw [dropGaps]
    rintro before gap behind - - heq
    simp at heq
  | keep c s hahead ih =>
    rw [dropGaps_keep hahead]
    refine gapFree_cons ih fun hc gap behind _ hgap heq => hahead ⟨hc, gap, ?_⟩
    -- Blanks and a `<` come out only where they went in.
    obtain ⟨s', rfl, hs'⟩ := (heq ▸ closes_dropGaps s).of_blank_append hgap
    cases hs' with
    | keep => exact ⟨_, hgap, rfl⟩
  | close gap s hgap ih =>
    rw [dropGaps_close hgap]
    refine gapFree_cons ih fun _ blanks behind hne hblanks heq => ?_
    have hopen : ¬GapAhead '<' s := fun h => absurd h.1 (by decide)
    rw [dropGaps_keep hopen] at heq
    cases blanks with
    | nil => exact hne rfl
    | cons c blanks =>
      obtain ⟨rfl, -⟩ := List.cons.inj heq
      exact absurd (hblanks '<' List.mem_cons_self) (by decide)

/-! ## Gaps and ends -/

theorem toList_spaceless (s : String) : (spaceless s).toList = trim (dropGaps s.toList) :=
  String.toList_ofList

theorem gapFree_spaceless (s : String) : GapFree (spaceless s).toList := by
  rw [toList_spaceless]
  exact GapFree.of_infix (gapFree_dropGaps s.toList) (trim_part _)

/-- Only blanks at the two ends and gaps are missing. -/
theorem closes_spaceless (s : String) :
    ∃ front inner back, s.toList = front ++ (inner ++ back) ∧ Blank front ∧ Blank back ∧
      Closes inner (spaceless s).toList := by
  obtain ⟨front, back, hsplit, hfront, hback⟩ := trim_split (dropGaps s.toList)
  have hcloses := closes_dropGaps s.toList
  rw [hsplit] at hcloses
  obtain ⟨rest, hrest, hcloses⟩ := hcloses.of_blank_append hfront
  obtain ⟨inner, hinner, hcloses⟩ := hcloses.of_append_blank hback
  rw [toList_spaceless]
  exact ⟨front, inner, back, hinner ▸ hrest, hfront, hback, hcloses⟩

theorem spaceless_spaceless (s : String) : spaceless (spaceless s) = spaceless s := by
  rw [← String.toList_inj, toList_spaceless, (gapFree_spaceless s).dropGaps_eq, toList_spaceless,
    trim_trim]

end Text

/-! ## The tag -/

open Text

/-- What the tag writes for a body that wrote the text `t`: `t` without any blanks between a `>` and
a `<` or at an end, and otherwise as it is. Doing the same to it again changes nothing. -/
theorem spaceless_closes_gaps {j : Jumps} {host : Host} {s s' : State} {body : List Node}
    {t : String} (h : Render.capture (execNodes j body) host s = (.ok t, s')) :
    (Statement.spaceless body).exec j host s = Render.write (spaceless t) host s' ∧
    GapFree (spaceless t).toList ∧
    (∀ c ∈ (spaceless t).toList.head?, isBlank c = false) ∧
    (∀ c ∈ (spaceless t).toList.getLast?, isBlank c = false) ∧
    (∃ front inner back, t.toList = front ++ (inner ++ back) ∧ Blank front ∧ Blank back ∧
      Closes inner (spaceless t).toList) ∧
    spaceless (spaceless t) = spaceless t := by
  refine ⟨?_, gapFree_spaceless t, ?_, ?_, closes_spaceless t, spaceless_spaceless t⟩
  · rw [Statement.exec]
    exact run_bind_of_ok h
  · rw [toList_spaceless]
    exact fun c => head?_trim
  · rw [toList_spaceless]
    exact fun c => getLast?_trimEnd

theorem spaceless_closes_gaps_list :
    let j := Jumps.upTo 0
    let host := Host.bare fixedMoment
    let s := State.start none [] default .empty
    let body := [Node.text " <ul>\n", .text " <li>a  b > </li>\u2003<li></li> </ul>\n"]
    let t := " <ul>\n <li>a  b > </li>\u2003<li></li> </ul>\n"
    let out := "<ul><li>a  b ></li><li></li></ul>"
    Render.capture (execNodes j body) host s = (.ok t, s) ∧
      (Statement.spaceless body).exec j host s = Render.write out host s ∧
      GapFree out.toList ∧
      (∀ c ∈ out.toList.head?, isBlank c = false) ∧ (∀ c ∈ out.toList.getLast?, isBlank c = false) ∧
      (∃ front inner back, t.toList = front ++ (inner ++ back) ∧ Blank front ∧ Blank back ∧
        Closes inner out.toList) ∧
      spaceless out = out := by
  intro j host s body t out
  have hbody : Render.capture (execNodes j body) host s = (.ok t, s) := rfl
  have hout : spaceless t = out := by decide +kernel
  have hgaps := spaceless_closes_gaps hbody
  rw [hout] at hgaps
  exact ⟨hbody, hgaps⟩

end Stencil
