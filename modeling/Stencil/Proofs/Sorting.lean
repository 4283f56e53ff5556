import Mathlib.Data.List.Chain
import Stencil.Proofs.Values

/-!
# Sorted loops

Items of different kinds have no order, and sorting counts them as equal.  Items that are inserted
one after the other never pass one of another kind: what comes out is in order unless an item of
another kind stood between two that were not (`sorted_visits`).
-/

namespace Stencil

namespace Value

variable {u v w : Value} {items sorted : List Value}

/-! ## Order -/

/-- A value that has no order with those of other kinds, and has one with those of its own unless it
is nil. -/
inductive Plain : Value → Prop where
  | nil : Plain .nil
  | bool (b : Bool) : Plain (.bool b)
  | int (n : Int) : Plain (.int n)
  | str (s : String) : Plain (.str s)
  | safe (s : String) : Plain (.safe s)

instance : DecidablePred Plain
  | .nil => .isTrue .nil
  | .bool b => .isTrue (.bool b)
  | .int n => .isTrue (.int n)
  | .str s => .isTrue (.str s)
  | .safe s => .isTrue (.safe s)
  | .float _ | .seq _ | .map _ | .record _ | .func _ => .isFalse nofun

theorem precedes_iff : v.precedes w = true ↔ v.compare? w = some .lt := by
  unfold precedes
  exact beq_iff_eq

theorem kind_eq_of_precedes (hv : v.Plain) (hw : w.Plain) (h : v.precedes w = true) :
    v.kind = w.kind := by
  rw [precedes_iff] at h
  cases hv <;> cases hw <;> first | rfl | cases h

theorem compare?_eq_gt_iff (hv : v.Plain) (hw : w.Plain) :
    v.compare? w = some .gt ↔ w.precedes v = true := by
  rw [precedes_iff]
  cases hv <;> cases hw <;> simp [compare?, string?, Std.OrientedCmp.gt_iff_lt]

theorem not_precedes_of_precedes (hv : v.Plain) (hw : w.Plain) (h : v.precedes w = true) :
    ¬w.precedes v = true := by
  rw [← compare?_eq_gt_iff hv hw, precedes_iff.mp h]
  decide

theorem lt_or_lt_of_lt {α : Type} [Ord α] [Std.TransOrd α] {a c : α} (b : α)
    (h : compare a c = .lt) : compare a b = .lt ∨ compare b c = .lt := by
  cases hab : compare a b with
  | lt => exact .inl rfl
  | eq => exact .inr (Std.TransCmp.lt_of_eq_of_lt (Std.OrientedCmp.eq_comm.mp hab) h)
  | gt => exact .inr (Std.TransCmp.lt_trans (Std.OrientedCmp.gt_iff_lt.mp hab) h)

/-- Of two values in order, each third one of their kind is in order with one. -/
theorem precedes_or_precedes (hu : u.Plain) (hv : v.Plain) (hw : w.Plain) (hkind : v.kind = u.kind)
    (h : u.precedes w = true) : u.precedes v = true ∨ v.precedes w = true := by
  have hkind' : u.kind = w.kind := kind_eq_of_precedes hu hw h
  rw [precedes_iff] at h ⊢
  rw [precedes_iff]
  cases hu <;> cases hw <;>
    first
    | cases h
    | cases hv <;>
      first
      | exact (lt_or_lt_of_lt _ (Option.some.inj h)).imp (congrArg some) (congrArg some)
      | simp [kind] at hkind

/-! ## Insertion -/

section Positions

variable {α β : Type} {before : β → β → Bool} (item : α → β)

theorem map_insertSorted (v : α) (sorted : List α) :
    (insertSorted (fun i j => before (item i) (item j)) v sorted).map item =
      insertSorted before (item v) (sorted.map item) := by
  induction sorted with
  | nil => rfl
  | cons w ws ih =>
    rw [List.map_cons]
    unfold insertSorted
    split
    · rw [List.map_cons, ih]
    · rfl

/-- Sorting the positions of items is sorting the items. -/
theorem map_sortInserting (positions : List α) :
    (sortInserting (fun i j => before (item i) (item j)) positions).map item =
      sortInserting before (positions.map item) := by
  have hfold (sorted : List α) : (positions.foldl (fun sorted v =>
      insertSorted (fun i j => before (item i) (item j)) v sorted) sorted).map item =
        (positions.map item).foldl (fun sorted v => insertSorted before v sorted)
          (sorted.map item) := by
    induction positions generalizing sorted with
    | nil => rfl
    | cons v positions ih =>
      rw [List.foldl_cons, ih, map_insertSorted, List.map_cons, List.foldl_cons]
  unfold sortInserting
  rw [List.map_reverse, hfold]
  rfl

end Positions

theorem head?_insertSorted (h : w ∈ (insertSorted precedes v sorted).head?) :
    w = v ∨ w ∈ sorted.head? := by
  cases sorted with
  | nil => exact .inl (Option.some.inj h).symm
  | cons u us =>
    unfold insertSorted at h
    split at h
    · exact .inr h
    · exact .inl (Option.some.inj h).symm

/-- No item stands behind one that it precedes, in a list with the greatest items in front. -/
theorem isChain_insertSorted (hv : v.Plain) (hplain : ∀ w ∈ sorted, w.Plain)
    (h : sorted.IsChain fun u w => ¬u.precedes w = true) :
    (insertSorted precedes v sorted).IsChain fun u w => ¬u.precedes w = true := by
  induction sorted with
  | nil => exact .singleton v
  | cons w ws ih =>
    rw [List.forall_mem_cons] at hplain
    unfold insertSorted
    split
    · rename_i hvw
      rw [List.isChain_cons] at h ⊢
      refine ⟨fun u hu => ?_, ih hplain.2 h.2⟩
      rcases head?_insertSorted hu with rfl | hu
      · exact not_precedes_of_precedes hv hplain.1 hvw
      · exact h.1 u hu
    · rename_i hvw
      exact List.isChain_cons_cons.mpr ⟨hvw, h⟩

/-! ## Turns -/

/-- Neighbours in the list are of different kinds. -/
def Turns (l : List Value) : Prop := l.IsChain fun v w => v.kind ≠ w.kind

theorem Turns.reverse {l : List Value} (h : Turns l) : Turns l.reverse := by
  unfold Turns
  rw [List.isChain_reverse]
  exact h.imp fun _ _ hne => hne.symm

theorem sublist_cons_congr {l l' : List Value} (h : ∀ m, Turns m → (m.Sublist l ↔ m.Sublist l'))
    (v : Value) {m : List Value} (hm : Turns m) : m.Sublist (v :: l) ↔ m.Sublist (v :: l') := by
  rw [List.sublist_cons_iff, List.sublist_cons_iff, h m hm]
  apply or_congr_right
  apply exists_congr
  intro r
  constructor
  · rintro ⟨rfl, hr⟩
    exact ⟨rfl, (h r (List.isChain_cons.mp hm).2).mp hr⟩
  · rintro ⟨rfl, hr⟩
    exact ⟨rfl, (h r (List.isChain_cons.mp hm).2).mpr hr⟩

/-- Two neighbours of one kind are not both used, so either may come first. -/
theorem sublist_swap (hkind : v.kind = w.kind) {l m : List Value} (hm : Turns m)
    (h : m.Sublist (v :: w :: l)) : m.Sublist (w :: v :: l) := by
  rw [List.sublist_cons_iff] at h
  rcases h with h | ⟨r, rfl, hr⟩
  · exact h.trans ((List.sublist_cons_self v l).cons_cons w)
  · rw [List.sublist_cons_iff] at hr
    rcases hr with hr | ⟨r', rfl, -⟩
    · exact (hr.cons_cons v).cons w
    · exact absurd hkind (List.isChain_cons_cons.mp hm).1

/-- Inserting an item moves it past items of its kind only. -/
theorem sublist_insertSorted_iff (hv : v.Plain) (hplain : ∀ w ∈ sorted, w.Plain) {m : List Value}
    (hm : Turns m) : m.Sublist (insertSorted precedes v sorted) ↔ m.Sublist (v :: sorted) := by
  induction sorted generalizing m with
  | nil => exact .rfl
  | cons w ws ih =>
    rw [List.forall_mem_cons] at hplain
    unfold insertSorted
    split
    · rename_i hvw
      have hkind : v.kind = w.kind := kind_eq_of_precedes hv hplain.1 hvw
      calc m.Sublist (w :: insertSorted precedes v ws)
          ↔ m.Sublist (w :: v :: ws) := sublist_cons_congr (fun _ => ih hplain.2) w hm
        _ ↔ m.Sublist (v :: w :: ws) := ⟨sublist_swap hkind.symm hm, sublist_swap hkind hm⟩
    · exact .rfl

/-! ## Sorting -/

theorem sortInserting_concat (items : List Value) (v : Value) :
    sortInserting precedes (items ++ [v]) =
      (insertSorted precedes v (sortInserting precedes items).reverse).reverse := by
  unfold sortInserting
  rw [List.foldl_append, List.reverse_reverse]
  rfl

theorem isChain_sortInserting (hitems : ∀ v ∈ items, v.Plain) :
    (sortInserting precedes items).IsChain fun v w => ¬w.precedes v = true := by
  induction items using List.reverseRecOn with
  | nil => exact .nil
  | append_singleton items v ih =>
    rw [List.forall_mem_append] at hitems
    rw [sortInserting_concat, List.isChain_reverse]
    apply isChain_insertSorted (hitems.2 v (List.mem_singleton_self v))
    · exact fun w hw => hitems.1 w ((perm_sortInserting items).mem_iff.mp (List.mem_reverse.mp hw))
    · rw [List.isChain_reverse]
      exact ih hitems.1

/-- Sorting moves an item past items of its kind only. -/
theorem sublist_sortInserting_iff (hitems : ∀ v ∈ items, v.Plain) {m : List Value} (hm : Turns m) :
    m.Sublist (sortInserting precedes items) ↔ m.Sublist items := by
  induction items using List.reverseRecOn generalizing m with
  | nil => exact .rfl
  | append_singleton items v ih =>
    rw [List.forall_mem_append] at hitems
    have hplain : ∀ w ∈ (sortInserting precedes items).reverse, w.Plain := fun w hw =>
      hitems.1 w ((perm_sortInserting items).mem_iff.mp (List.mem_reverse.mp hw))
    have hreverse : ∀ m, Turns m →
        (m.Sublist (sortInserting precedes items).reverse ↔ m.Sublist items.reverse) := by
      intro m hm
      rw [← List.reverse_sublist, List.reverse_reverse, ih hitems.1 hm.reverse,
        ← List.reverse_sublist, List.reverse_reverse]
    rw [sortInserting_concat, ← List.reverse_sublist, List.reverse_reverse,
      sublist_insertSorted_iff (hitems.2 v (List.mem_singleton_self v)) hplain hm.reverse,
      sublist_cons_congr hreverse v hm.reverse, ← List.reverse_concat, List.reverse_sublist]

/-! ## What is in order -/

/-- For any two items that have an order, the first is not the greater one. -/
def Rising (items : List Value) : Prop := items.Pairwise fun v w => v.compare? w ≠ some .gt

instance : Decidable (Rising items) :=
  inferInstanceAs (Decidable (items.Pairwise fun v w => v.compare? w ≠ some .gt))

/-- Items of one kind are in order if neighbours are. -/
theorem not_precedes_of_isChain {between : List Value}
    (hplain : ∀ u ∈ v :: (between ++ [w]), u.Plain) (hkind : ∀ u ∈ between, u.kind = v.kind)
    (h : (v :: (between ++ [w])).IsChain fun v w => ¬w.precedes v = true) :
    ¬w.precedes v = true := by
  induction between generalizing v with
  | nil => exact (List.isChain_cons_cons.mp h).1
  | cons u between ih =>
    intro hwv
    obtain ⟨hv, hrest⟩ := List.forall_mem_cons.mp hplain
    obtain ⟨hukind, hkind⟩ := List.forall_mem_cons.mp hkind
    obtain ⟨huv, hchain⟩ := List.isChain_cons_cons.mp h
    have hu : u.Plain := hrest u (by simp)
    have hw : w.Plain := hrest w (by simp)
    have hwu : ¬w.precedes u = true := ih hrest (fun t ht => (hkind t ht).trans hukind.symm) hchain
    have hwkind : u.kind = w.kind := hukind.trans (kind_eq_of_precedes hw hv hwv).symm
    exact (precedes_or_precedes hw hu hv hwkind hwv).elim hwu huv

/-- The items come out in order exactly if no two that were not in order had an item of another kind
between them. -/
theorem rising_sortInserting_iff (hitems : ∀ v ∈ items, v.Plain) :
    Rising (sortInserting precedes items) ↔
      ¬∃ u v w, [u, v, w].Sublist items ∧ v.kind ≠ u.kind ∧ w.precedes u = true := by
  have hsort : ∀ v ∈ sortInserting precedes items, v.Plain := fun v hv =>
    hitems v ((perm_sortInserting items).mem_iff.mp hv)
  unfold Rising
  rw [List.pairwise_iff_forall_sublist]
  constructor
  · rintro hrising ⟨u, v, w, hsub, hkind, hwu⟩
    have hu : u.Plain := hitems u (hsub.mem (by simp))
    have hw : w.Plain := hitems w (hsub.mem (by simp))
    have hturns : Turns [u, v, w] := by
      simp [Turns, kind_eq_of_precedes hw hu hwu, hkind, Ne.symm hkind]
    have hsub' : [u, v, w].Sublist (sortInserting precedes items) :=
      (sublist_sortInserting_iff hitems hturns).mpr hsub
    have hends : [u, w].Sublist [u, v, w] := (List.sublist_cons_self v [w]).cons_cons u
    exact hrising (hends.trans hsub') ((compare?_eq_gt_iff hu hw).mpr hwu)
  · intro hnone u w hsub hgt
    obtain ⟨front, rest, hsplit, hu, hw⟩ := List.cons_sublist_iff.mp hsub
    obtain ⟨front, left, rfl⟩ := List.append_of_mem hu
    obtain ⟨right, back, rfl⟩ := List.append_of_mem (List.singleton_sublist.mp hw)
    have hsplit : sortInserting precedes items =
        front ++ u :: (left ++ right ++ [w]) ++ back := by simp [hsplit]
    have hpart : (u :: (left ++ right ++ [w])) <:+: sortInserting precedes items :=
      ⟨front, back, hsplit.symm⟩
    have hplain : ∀ v ∈ u :: (left ++ right ++ [w]), v.Plain := fun v hv =>
      hsort v (hpart.mem hv)
    have hwu : w.precedes u = true :=
      (compare?_eq_gt_iff (hplain u (by simp)) (hplain w (by simp))).mp hgt
    by_cases hkind : ∀ v ∈ left ++ right, v.kind = u.kind
    · have hchain := List.IsChain.infix (isChain_sortInserting hitems) hpart
      exact not_precedes_of_isChain hplain hkind hchain hwu
    · obtain ⟨v, hv, hvu⟩ : ∃ v ∈ left ++ right, v.kind ≠ u.kind := by
        simpa only [Classical.not_forall, exists_prop] using hkind
      have hturns : Turns [u, v, w] := by
        simp [Turns, kind_eq_of_precedes (hplain w (by simp)) (hplain u (by simp)) hwu,
          hvu, hvu.symm]
      have hbetween : [u, v, w].Sublist (u :: (left ++ right ++ [w])) :=
        ((List.singleton_sublist.mpr hv).append_right [w]).cons_cons u
      have hsub' : [u, v, w].Sublist items :=
        (sublist_sortInserting_iff hitems hturns).mp (hbetween.trans hpart.sublist)
      exact hnone ⟨u, v, w, hsub', hvu, hwu⟩

/-- The items come out in order if of two in order each third is in order with one. -/
theorem rising_sortInserting (hitems : ∀ v ∈ items, v.Plain)
    (h : ∀ u ∈ items, ∀ v ∈ items, ∀ w ∈ items,
      w.precedes u = true → w.precedes v = true ∨ v.precedes u = true) :
    Rising (sortInserting precedes items) := by
  rw [rising_sortInserting_iff hitems]
  rintro ⟨u, v, w, hsub, hkind, hwu⟩
  have hu : u ∈ items := hsub.mem (by simp)
  have hv : v ∈ items := hsub.mem (by simp)
  have hw : w ∈ items := hsub.mem (by simp)
  have hwkind : w.kind = u.kind := kind_eq_of_precedes (hitems w hw) (hitems u hu) hwu
  rcases h u hu v hv w hw hwu with hwv | hvu
  · exact hkind ((kind_eq_of_precedes (hitems w hw) (hitems v hv) hwv).symm.trans hwkind)
  · exact hkind (kind_eq_of_precedes (hitems v hv) (hitems u hu) hvu)

/-! ## The sort of the platform -/

/-- A short list, or one whose items have a consistent order, is sorted by insertion. -/
theorem sort?_eq_of_inserts {sorter : Sorter} (h : items.length ≤ 20 ∨
    Consistent fun i j : Fin items.length => (items.get i).precedes (items.get j)) :
    sort? sorter items = some (sortInserting precedes items) := by
  unfold sort?
  dsimp only
  rw [sorter.inserts h, Option.map_some, map_sortInserting, List.map_get_finRange]

/-- Sorting loses no item, whatever the platform does. -/
theorem perm_of_sort? {sorter : Sorter} (h : sort? sorter items = some sorted) :
    sorted.Perm items := by
  obtain ⟨order, horder, rfl⟩ := Option.map_eq_some_iff.mp h
  calc order.map items.get
      |>.Perm ((List.finRange items.length).map items.get) := (sorter.perm horder).map _
    _ = items := List.map_get_finRange items

theorem consistent_positions (hitems : ∀ v ∈ items, v.Plain)
    (h : ∀ u ∈ items, ∀ v ∈ items, ∀ w ∈ items,
      w.precedes u = true → w.precedes v = true ∨ v.precedes u = true) :
    Consistent fun i j : Fin items.length => (items.get i).precedes (items.get j) where
  not_before h := not_precedes_of_precedes (hitems _ (items.get_mem _))
    (hitems _ (items.get_mem _)) h
  between hij := h _ (items.get_mem _) _ (items.get_mem _) _ (items.get_mem _) hij

end Value

/-! ## Loops -/

open Value

theorem visits_seq_sorted (sorter : Sorter) (items : List Value) (two : Bool) :
    Loop.visits sorter (.seq items) two false true =
      (sort? sorter items).map fun items => items.zipIdx.map fun e => (.int e.2, e.1) := rfl

theorem map_snd_numbered (items : List Value) :
    (items.zipIdx.map fun e => ((.int e.2, e.1) : Value × Value)).map (·.2) = items := by
  rw [List.map_map]
  exact List.zipIdx_map_fst 0 items

/-- A sorted loop over a list visits its items, each as often as it is there, unless sorting breaks
down, and a reversed one visits them in the opposite order. Sorting does not break down, and any two
items are in order, if the items have a consistent order. It does not break down either if there are
at most twenty items: then no item is greater than the next one, and any two are in order exactly if
no two that were not in order had an item of another kind between them. -/
theorem sorted_visits (sorter : Sorter) {items : List Value} (hitems : ∀ v ∈ items, v.Plain)
    (two : Bool) :
    let visits := Loop.visits sorter (.seq items) two false true
    Loop.visits sorter (.seq items) two true true = visits.map List.reverse ∧
      (∀ visited ∈ visits, (visited.map (·.2)).Perm items) ∧
      ((∀ u ∈ items, ∀ v ∈ items, ∀ w ∈ items,
          w.precedes u = true → w.precedes v = true ∨ v.precedes u = true) →
        ∃ visited ∈ visits, Rising (visited.map (·.2))) ∧
      (items.length ≤ 20 → ∃ visited ∈ visits,
        (∀ v w, [v, w] <:+: visited.map (·.2) → v.compare? w ≠ some .gt) ∧
        (Rising (visited.map (·.2)) ↔
          ¬∃ u v w, [u, v, w].Sublist items ∧ v.kind ≠ u.kind ∧ w.precedes u = true)) := by
  intro visits
  have hvisits (hsort : sort? sorter items = some (sortInserting precedes items)) :
      (sortInserting precedes items).zipIdx.map (fun e => (.int e.2, e.1)) ∈ visits := by
    unfold visits
    rw [visits_seq_sorted, hsort]
    rfl
  refine ⟨rfl, ?_, fun h => ?_, fun h => ?_⟩
  · intro visited hvisited
    obtain ⟨sorted, hsort, rfl⟩ := Option.map_eq_some_iff.mp hvisited
    rw [map_snd_numbered]
    exact perm_of_sort? hsort
  · refine ⟨_, hvisits (sort?_eq_of_inserts (.inr (consistent_positions hitems h))), ?_⟩
    rw [map_snd_numbered]
    exact rising_sortInserting hitems h
  · refine ⟨_, hvisits (sort?_eq_of_inserts (.inl h)), ?_⟩
    rw [map_snd_numbered]
    refine ⟨fun v w hpart => ?_, rising_sortInserting_iff hitems⟩
    have hplain : ∀ u ∈ [v, w], u.Plain := fun u hu =>
      hitems u ((perm_sortInserting items).mem_iff.mp (hpart.mem hu))
    rw [Ne, compare?_eq_gt_iff (hplain v (by simp)) (hplain w (by simp))]
    have hchain := List.IsChain.infix (isChain_sortInserting hitems) hpart
    exact (List.isChain_cons_cons.mp hchain).1

theorem sorted_visits_strings_behind :
    let numbers := [.int 3, .int 1, .int 2]
    let apart := [.int 2, .int 1, .str "b", .nil, .int 3]
    (∃ visited ∈ Loop.visits .inserting (.seq numbers) false false true,
      Rising (visited.map (·.2))) ∧
      (¬∃ u v w, [u, v, w].Sublist apart ∧ v.kind ≠ u.kind ∧ w.precedes u = true) ∧
      Loop.visits .inserting (.seq apart) true true true = some
        [(.int 4, .int 3), (.int 3, .nil), (.int 2, .str "b"), (.int 1, .int 2),
          (.int 0, .int 1)] := by
  intro numbers apart
  obtain ⟨-, -, hconsistent, -⟩ := @sorted_visits .inserting numbers (by decide) false
  obtain ⟨hreversed, -, -, hshort⟩ := @sorted_visits .inserting apart (by decide) true
  obtain ⟨visited, hvisited, -, hrising⟩ := hshort (by decide)
  obtain rfl := Option.some.inj hvisited
  exact ⟨hconsistent (by decide), hrising.mp (by decide), hreversed.trans rfl⟩

/-- Two integers with a string between them are left as they are, whatever sorts longer lists. -/
theorem not_rising_around_string :
    ¬∃ sorter, ∃ visited ∈ Loop.visits sorter (.seq [.int 2, .str "a", .int 1]) false false true,
      Rising (visited.map (·.2)) := by
  rintro ⟨sorter, visited, hvisited, hrising⟩
  rw [visits_seq_sorted, sort?_eq_of_inserts (.inl (by decide))] at hvisited
  obtain rfl := Option.some.inj hvisited
  revert hrising
  decide

end Stencil
