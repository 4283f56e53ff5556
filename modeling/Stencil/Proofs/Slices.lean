import Stencil.Filter.Apply
import Stencil.Proofs.Text.Parts

/-!
# Slices

A slice takes the items at the positions from one bound on and before another one. A bound counts
from the end if it is negative, and it is moved into the list if it lies outside, so each range of
bounds names a part of each list (`slice_takes_between`).
-/

namespace Stencil

/-! ## Texts of ranges -/

namespace Items

open Text

/-- The texts of a bound: blanks if it is left out, and otherwise an integer of 64 bits with blanks
around it. -/
inductive NamesBound : Option Int → List Char → Prop where
  | absent {s : List Char} (hs : Blank s) : NamesBound none s
  | given {front s back : List Char} {n : Int} (hfront : Blank front) (hback : Blank back)
      (hs : Integer.Spells s n) (hn : Integer.fits n = true) :
      NamesBound (some n) (front ++ (s ++ back))

/-- The text of the value is two bounds with a colon between them. -/
def NamesRange (range : Value) (a b : Option Int) : Prop :=
  ∃ left right, range.text.toList = left ++ ':' :: right ∧ NamesBound a left ∧ NamesBound b right

/-- The usual text of a bound. -/
def writtenBound (a : Option Int) : String := (a.map toString).getD ""

variable {a b : Option Int} {n k : Int} {s : List Char} {length : Nat} {range : Value}

theorem namesBound_written (ha : ∀ n ∈ a, Integer.fits n = true) :
    NamesBound a (writtenBound a).toList := by
  cases a with
  | none => exact .absent blank_nil
  | some n =>
    have h := NamesBound.given blank_nil blank_nil (Integer.spells_toString n) (ha n rfl)
    rwa [List.nil_append, List.append_nil] at h

/-- All bounds of 64 bits are named by a text. -/
theorem namesRange_written (ha : ∀ n ∈ a, Integer.fits n = true)
    (hb : ∀ n ∈ b, Integer.fits n = true) :
    NamesRange (.str (writtenBound a ++ ":" ++ writtenBound b)) a b := by
  refine ⟨_, _, ?_, namesBound_written ha, namesBound_written hb⟩
  simp [Value.text]

/-! ### Reading them -/

theorem mem_spelled (h : Integer.Spells s n) : ∀ c ∈ s, isBlank c = false ∧ c ≠ ':' := by
  have hdigit : ∀ c, '0' ≤ c ∧ c ≤ '9' → isBlank c = false ∧ c ≠ ':' := by
    intro c hc
    refine forall_ascii (P := fun c => '0' ≤ c ∧ c ≤ '9' → isBlank c = false ∧ c ≠ ':') (by decide)
      (Nat.lt_of_le_of_lt hc.2 (by decide)) hc
  cases h with
  | plain h => exact fun c hc => hdigit c (h.digits c hc)
  | plus h | minus h =>
    exact List.forall_mem_cons.mpr ⟨by decide, fun c hc => hdigit c (h.digits c hc)⟩

theorem NamesBound.not_mem (h : NamesBound a s) : ':' ∉ s := by
  have hblank {t : List Char} (ht : Blank t) : ':' ∉ t := fun hmem => absurd (ht _ hmem) (by decide)
  cases h with
  | absent hs => exact hblank hs
  | given hfront hback hs _ =>
    have hspelled : ':' ∉ _ := fun hmem => (mem_spelled hs ':' hmem).2 rfl
    simp [hblank hfront, hblank hback, hspelled]

theorem NamesBound.fits (h : NamesBound a s) {n : Int} (hn : n ∈ a) : Integer.fits n = true := by
  cases h with
  | absent => cases hn
  | given _ _ _ hfits =>
    cases hn
    exact hfits

/-! ## Positions -/

/-- The position that a bound names in a list of so many items: from the end if it is negative, and
not outside of the list. -/
def position (length : Nat) (n : Int) : Nat :=
  (max 0 (min (if n < 0 then n + length else n) length)).toNat

/-- Where a slice begins: at the first item if no bound is given. -/
def lower (length : Nat) (a : Option Int) : Nat := (a.map (position length)).getD 0

/-- Where a slice ends: behind the last item if no bound is given. -/
def upper (length : Nat) (b : Option Int) : Nat := (b.map (position length)).getD length

/-- The items at the positions from `lo` on and before `hi`. -/
def between {α : Type} (lo hi : Nat) (items : List α) : List α :=
  (items.zipIdx.filter fun e => lo ≤ e.2 && e.2 < hi).map Prod.fst

/-- The position that a bound names, as it is computed with integers of 64 bits. There is none if a
number leaves their range. -/
def wordPosition? (length : Nat) (n : Int) : Option Int := do
  let length ← Integer.checked length
  if n < 0 then return max (← Integer.checked (length + n)) 0
  else return min n length

theorem position_le (length : Nat) (n : Int) : position length n ≤ length := by
  unfold position
  omega

theorem upper_le (length : Nat) (b : Option Int) : upper length b ≤ length := by
  cases b with
  | none => exact Nat.le_refl length
  | some n => exact position_le length n

theorem lower_le (length : Nat) (a : Option Int) : lower length a ≤ length := by
  cases a with
  | none => exact Nat.zero_le length
  | some n => exact position_le length n

/-- The only sum is that of a length and a negative number, so it has 64 bits if they have. -/
theorem wordPosition?_eq (hlength : Integer.fits length = true) (hn : Integer.fits n = true) :
    wordPosition? length n = some (position length n : Int) := by
  have hsum (hneg : n < 0) : Integer.fits (length + n) = true := by
    rw [Integer.fits_iff] at hlength hn ⊢
    omega
  unfold wordPosition? position
  rw [Integer.checked_of_fits hlength]
  by_cases hneg : n < 0
  · simp only [if_pos hneg, Option.bind_eq_bind, Option.bind_some,
      Integer.checked_of_fits (hsum hneg)]
    exact congrArg some (by omega)
  · simp only [if_neg hneg, Option.bind_eq_bind, Option.bind_some]
    exact congrArg some (by omega)

theorem map_fst_filter_zipIdx {α : Type} (lo hi start : Nat) (items : List α) :
    ((items.zipIdx start).filter fun e => lo ≤ e.2 && e.2 < hi).map Prod.fst =
      (items.take (hi - start)).drop (lo - start) := by
  induction items generalizing start with
  | nil => simp
  | cons x items ih =>
    rw [List.zipIdx_cons]
    by_cases hhi : start < hi
    · have htake : hi - start = hi - (start + 1) + 1 := by omega
      rw [htake, List.take_succ_cons]
      by_cases hlo : lo ≤ start
      · have hdrop : lo - (start + 1) = 0 := by omega
        rw [List.filter_cons_of_pos (by simp [hlo, hhi]), List.map_cons, ih, hdrop,
          Nat.sub_eq_zero_of_le hlo]
        rfl
      · have hdrop : lo - start = lo - (start + 1) + 1 := by omega
        rw [List.filter_cons_of_neg (by simp [hlo]), ih, hdrop, List.drop_succ_cons]
    · have htake : hi - start = 0 ∧ hi - (start + 1) = 0 := by omega
      rw [List.filter_cons_of_neg (by simp [hhi]), ih, htake.1, htake.2]
      simp

theorem between_eq {α : Type} (lo hi : Nat) (items : List α) :
    between lo hi items = (items.take hi).drop lo := map_fst_filter_zipIdx lo hi 0 items

/-! ## Slicing -/

theorem sliceBound_of_namesBound (h : NamesBound a s) (length default : Nat) :
    sliceBound length default s = .ok ((a.map (position length)).getD default) := by
  cases h with
  | absent hs =>
    rw [sliceBound, trim_of_blank hs]
    rfl
  | @given front s back n hfront hback hs hn =>
    have htrim : trim (front ++ (s ++ back)) = s :=
      trim_append_append hfront hback
        (fun c hc => (mem_spelled hs c (List.mem_of_head? hc)).1)
        fun c hc => (mem_spelled hs c (List.mem_of_getLast? hc)).1
    have hne : s.isEmpty = false := by simpa using hs.ne_nil
    rw [sliceBound, htrim]
    simp only [hne, Bool.false_eq_true, if_false, hs.read?_eq, Integer.checked_of_fits hn]
    show Except.ok _ = Except.ok (position length n)
    refine congrArg Except.ok ?_
    unfold position
    split <;> omega

theorem sliceBounds_of_namesRange (h : NamesRange range a b) (length : Nat) :
    sliceBounds length range.text =
      .ok (lower length a, max (lower length a) (upper length b)) := by
  obtain ⟨left, right, htext, ha, hb⟩ := h
  rw [sliceBounds, htext, splitOnce_append_cons ha.not_mem]
  simp only [sliceBound_of_namesBound ha, sliceBound_of_namesBound hb]
  rfl

theorem cutOut_of_namesRange {α : Type} (h : NamesRange range a b) (items : List α) :
    cutOut items range.text =
      .ok (between (lower items.length a) (upper items.length b) items) := by
  rw [cutOut, sliceBounds_of_namesRange h, between_eq]
  show Except.ok _ = _
  refine congrArg Except.ok ?_
  rw [List.drop_take, List.drop_take]
  exact congrArg (List.take · _) (by omega)

/-- A list is what stands before a position, and what stands from there on. -/
theorem between_append_between {α : Type} (k : Int) (items : List α) :
    between (lower items.length none) (upper items.length (some k)) items ++
      between (lower items.length (some k)) (upper items.length none) items = items := by
  rw [between_eq, between_eq]
  show (items.take _).drop 0 ++ (items.take items.length).drop _ = items
  rw [List.take_length]
  exact List.take_append_drop _ items

theorem slice_list (h : NamesRange range a b) (items : List Value) :
    Filter.slice.apply (.seq items) (some range) =
      .ok (.seq (between (lower items.length a) (upper items.length b) items)) := by
  show (cutOut items range.text >>= fun part => pure (Value.seq part)) = _
  rw [cutOut_of_namesRange h]
  rfl

/-- A string is sliced as the list of its characters, and stays safe if it was. -/
theorem slice_string (h : NamesRange range a b) {v : Value} {s : String} (hv : v.string? = some s) :
    ∃ w t, Filter.slice.apply v (some range) = .ok w ∧ w.string? = some t ∧ w.isSafe = v.isSafe ∧
      t.toList = between (lower s.length a) (upper s.length b) s.toList := by
  have hcut := cutOut_of_namesRange h s.toList
  rw [String.length_toList] at hcut
  generalize between (lower s.length a) (upper s.length b) s.toList = part at hcut ⊢
  cases v with
  | str =>
    cases hv
    refine ⟨.str (String.ofList part), _, ?_, rfl, rfl, String.toList_ofList⟩
    show (cutOut s.toList range.text >>= fun part => pure (Value.str (String.ofList part))) = _
    rw [hcut]
    rfl
  | safe =>
    cases hv
    refine ⟨.safe (String.ofList part), _, ?_, rfl, rfl, String.toList_ofList⟩
    show (cutOut s.toList range.text >>= fun part => pure (Value.safe (String.ofList part))) = _
    rw [hcut]
    rfl
  | nil | bool | int | float | seq | map | record | func => cases hv

end Items

open Items

/-- A slice with bounds of 64 bits, or without one or both of them, holds the items of the list, or
the characters of the string, at the positions from the lower bound on and before the upper one. The
bounds that are computed lie in the list, the first one not behind the second one, and computing
them never leaves the 64 bits. What stands before a position and what stands from there on are the
whole. -/
theorem slice_takes_between {range : Value} {a b : Option Int} (h : NamesRange range a b) :
    (∀ items, Filter.slice.apply (.seq items) (some range) =
      .ok (.seq (between (lower items.length a) (upper items.length b) items))) ∧
    (∀ v s, v.string? = some s → ∃ w t, Filter.slice.apply v (some range) = .ok w ∧
      w.string? = some t ∧ w.isSafe = v.isSafe ∧
      t.toList = between (lower s.length a) (upper s.length b) s.toList) ∧
    (∀ length, ∃ first last, sliceBounds length range.text = .ok (first, last) ∧
      first ≤ last ∧ last ≤ length) ∧
    (∀ length : Nat, Integer.fits length = true → ∀ n, n ∈ a ∨ n ∈ b →
      wordPosition? length n = some (position length n : Int)) ∧
    ∀ k before behind, NamesRange before none (some k) → NamesRange behind (some k) none →
      (∀ items, ∃ xs ys, Filter.slice.apply (.seq items) (some before) = .ok (.seq xs) ∧
        Filter.slice.apply (.seq items) (some behind) = .ok (.seq ys) ∧ xs ++ ys = items) ∧
      ∀ v s, v.string? = some s → ∃ w w' t t', Filter.slice.apply v (some before) = .ok w ∧
        Filter.slice.apply v (some behind) = .ok w' ∧ w.string? = some t ∧ w'.string? = some t' ∧
        t ++ t' = s := by
  refine ⟨slice_list h, fun v s => slice_string h, fun length => ?_, fun length hlength n hn => ?_,
    fun k before behind hbefore hbehind => ⟨fun items => ?_, fun v s hv => ?_⟩⟩
  · exact ⟨_, _, sliceBounds_of_namesRange h length, Nat.le_max_left _ _,
      Nat.max_le.mpr ⟨lower_le length a, upper_le length b⟩⟩
  · obtain ⟨left, right, -, ha, hb⟩ := h
    exact wordPosition?_eq hlength (hn.elim ha.fits hb.fits)
  · exact ⟨_, _, slice_list hbefore items, slice_list hbehind items,
      between_append_between k items⟩
  · obtain ⟨w, t, happly, hw, -, ht⟩ := slice_string hbefore hv
    obtain ⟨w', t', happly', hw', -, ht'⟩ := slice_string hbehind hv
    refine ⟨w, w', t, t', happly, happly', hw, hw', ?_⟩
    rw [← String.toList_inj, String.toList_append, ht, ht', ← String.length_toList]
    exact between_append_between k s.toList

theorem slice_takes_between_last :
    let range := Value.str "-3:9223372036854775807"
    let before := Value.str ":-3"
    let behind := Value.str "-3:"
    let items := [Value.int 1, .int 2, .int 3, .int 4, .int 5]
    NamesRange range (some (-3)) (some 9223372036854775807) ∧
      Filter.slice.apply (.seq items) (some range) = .ok (.seq [.int 3, .int 4, .int 5]) ∧
      (∃ w t, Filter.slice.apply (.safe "aé") (some range) = .ok w ∧ w.string? = some t ∧
        w.isSafe = true ∧ t.toList = ['a', 'é']) ∧
      (∃ first last, sliceBounds 5 range.text = .ok (first, last) ∧ first ≤ last ∧ last ≤ 5) ∧
      Integer.fits 5 = true ∧ wordPosition? 5 (-3) = some 2 ∧
      NamesRange before none (some (-3)) ∧ NamesRange behind (some (-3)) none ∧
      ∃ xs ys, Filter.slice.apply (.seq items) (some before) = .ok (.seq xs) ∧
        Filter.slice.apply (.seq items) (some behind) = .ok (.seq ys) ∧ xs ++ ys = items := by
  intro range before behind items
  have hthree : ∀ n ∈ some (-3 : Int), Integer.fits n = true := by decide
  have hmost : ∀ n ∈ some (9223372036854775807 : Int), Integer.fits n = true := by decide
  have hnone : ∀ n ∈ (none : Option Int), Integer.fits n = true := nofun
  have hrange : NamesRange range (some (-3)) (some 9223372036854775807) :=
    namesRange_written hthree hmost
  have hbefore : NamesRange before none (some (-3)) := namesRange_written hnone hthree
  have hbehind : NamesRange behind (some (-3)) none := namesRange_written hthree hnone
  obtain ⟨hlist, hstring, hbounds, hword, hwhole⟩ := slice_takes_between hrange
  exact ⟨hrange, hlist items, hstring (.safe "aé") "aé" rfl, hbounds 5, by decide,
    hword 5 (by decide) (-3) (.inl rfl), hbefore, hbehind,
    (hwhole (-3) before behind hbefore hbehind).1 items⟩

end Stencil
