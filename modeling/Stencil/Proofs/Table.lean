import Stencil.Data.Table

/-!
# Tables

What a table knows, and what writing to it changes.
-/

namespace Stencil.Table

variable {α : Type u} {t : Table α} {key : String} {value : α}

theorem mem_of_get? (h : t.get? key = some value) : (key, value) ∈ t := by
  obtain ⟨before, after, rfl, -⟩ := List.lookup_eq_some_iff.mp h
  exact List.mem_append_right _ (List.mem_cons_self ..)

/-- A table in which no key stands twice knows all its entries. -/
theorem get?_of_mem (ht : t.keys.Nodup) (h : (key, value) ∈ t) : t.get? key = some value := by
  obtain ⟨before, after, rfl⟩ := List.append_of_mem h
  refine List.lookup_eq_some_iff.mpr ⟨before, after, rfl, fun e he => ?_⟩
  unfold keys at ht
  rw [List.map_append, List.map_cons, List.nodup_append] at ht
  have hne := ht.2.2 _ (List.mem_map_of_mem he) _ (List.mem_cons_self ..)
  simpa using hne.symm

theorem mem_keys_iff_has : key ∈ t.keys ↔ t.has key = true := by
  unfold keys has
  rw [List.mem_map, List.any_eq_true]
  simp only [beq_iff_eq]

@[simp] theorem keys_append (t t' : Table α) : (t ++ t').keys = t.keys ++ t'.keys :=
  List.map_append

/-- A new key comes to the end. -/
theorem insert_of_not_has (h : t.has key = false) : t.insert key value = t ++ [(key, value)] := by
  induction t with
  | nil => rfl
  | cons e t ih =>
    obtain ⟨k, w⟩ := e
    unfold has at h
    rw [List.any_cons, Bool.or_eq_false_iff] at h
    have hk : k ≠ key := by simpa using h.1
    unfold insert
    rw [if_neg hk, ih h.2]
    rfl

theorem get?_insert_self (t : Table α) (key : String) (value : α) :
    (t.insert key value).get? key = some value := by
  induction t with
  | nil => simp [insert, get?]
  | cons e t ih =>
    obtain ⟨k, w⟩ := e
    unfold insert
    split
    · simp [get?]
    · rename_i hk
      have hne : (key == k) = false := beq_eq_false_iff_ne.mpr (Ne.symm hk)
      simpa only [get?, List.lookup_cons, hne] using ih

theorem get?_insert_of_ne (t : Table α) {key key' : String} (h : key' ≠ key) (value : α) :
    (t.insert key value).get? key' = t.get? key' := by
  have hne : (key' == key) = false := beq_eq_false_iff_ne.mpr h
  induction t with
  | nil => simp only [insert, get?, List.lookup_cons, hne]
  | cons e t ih =>
    obtain ⟨k, w⟩ := e
    unfold insert
    split
    · rename_i hk
      simp only [get?, List.lookup_cons, hk, hne]
    · simp only [get?, List.lookup_cons]
      split
      · rfl
      · exact ih

/-- A key that can be added is new. -/
theorem has_eq_false_of_nodup (h : (t.keys ++ [key]).Nodup) : t.has key = false := by
  rw [← Bool.not_eq_true, ← mem_keys_iff_has]
  exact fun hmem => (List.nodup_append.mp h).2.2 key hmem key (List.mem_cons_self ..) rfl

theorem nodup_keys_insert_of_not_has (h : t.has key = false) (ht : t.keys.Nodup) :
    (t.insert key value).keys.Nodup := by
  have hkeys : (t.insert key value).keys = t.keys ++ [key] := by
    rw [insert_of_not_has h]
    exact List.map_append
  rw [hkeys, List.nodup_append]
  refine ⟨ht, List.pairwise_singleton _ _, fun k hk k' hk' heq => ?_⟩
  rw [List.mem_singleton.mp hk'] at heq
  rw [heq, mem_keys_iff_has, h] at hk
  cases hk

/-- Writing to a table brings in no other entry. -/
theorem mem_of_mem_insert {e : String × α} (h : e ∈ t.insert key value) :
    e = (key, value) ∨ e ∈ t := by
  induction t with
  | nil => exact .inl (List.mem_singleton.mp h)
  | cons e' t ih =>
    obtain ⟨k, w⟩ := e'
    unfold insert at h
    split at h
    · exact (List.mem_cons.mp h).imp_right (List.mem_cons_of_mem _)
    · rcases List.mem_cons.mp h with rfl | h
      · exact .inr (List.mem_cons_self ..)
      · exact (ih h).imp_right (List.mem_cons_of_mem _)

/-- What holds for all values of a table still holds when one is written for which it holds. -/
theorem forall_mem_insert {p : α → Prop} (ht : ∀ e ∈ t, p e.2) (hvalue : p value) :
    ∀ e ∈ t.insert key value, p e.2 := by
  induction t with
  | nil => exact List.forall_mem_singleton.mpr hvalue
  | cons e t ih =>
    obtain ⟨k, w⟩ := e
    obtain ⟨hw, ht⟩ := List.forall_mem_cons.mp ht
    unfold insert
    split
    · exact List.forall_mem_cons.mpr ⟨hvalue, ht⟩
    · exact List.forall_mem_cons.mpr ⟨hw, ih ht⟩

/-- Writing to a table keeps its keys where they are. -/
theorem keys_prefix_insert (t : Table α) (key : String) (value : α) :
    t.keys <+: (t.insert key value).keys := by
  induction t with
  | nil => exact List.nil_prefix
  | cons e t ih =>
    obtain ⟨k, w⟩ := e
    unfold insert
    split
    · subst key
      exact List.prefix_refl _
    · exact List.cons_prefix_cons.mpr ⟨rfl, ih⟩

/-- A table of entries knows no other keys than theirs. -/
theorem get?_ofList_of_forall_ne {entries : List (String × α)} (h : ∀ e ∈ entries, e.1 ≠ key) :
    (ofList entries).get? key = none := by
  have hfold : ∀ (entries : List (String × α)) (t : Table α), (∀ e ∈ entries, e.1 ≠ key) →
      (entries.foldl (fun t e => insert e.1 e.2 t) t).get? key = t.get? key := by
    intro entries
    induction entries with
    | nil => exact fun _ _ => rfl
    | cons e entries ih =>
      intro t h
      obtain ⟨he, h⟩ := List.forall_mem_cons.mp h
      rw [List.foldl_cons, ih _ h, get?_insert_of_ne t he.symm]
  exact hfold entries [] h

/-! ## Changed values -/

section Changed

variable {β : Type v} (f : α → β)

/-- The table with another value under each key. -/
def change (t : Table α) : Table β := t.map fun e => (e.1, f e.2)

@[simp] theorem keys_change (t : Table α) : (t.change f).keys = t.keys := by
  unfold keys change
  rw [List.map_map]
  rfl

@[simp] theorem change_append (t t' : Table α) :
    (t ++ t').change f = t.change f ++ t'.change f := List.map_append

@[simp] theorem has_change (t : Table α) (key : String) : (t.change f).has key = t.has key := by
  unfold has change
  rw [List.any_map]
  rfl

@[simp] theorem get?_change (t : Table α) (key : String) :
    (t.change f).get? key = (t.get? key).map f := by
  induction t with
  | nil => rfl
  | cons e t ih =>
    unfold get? change at ih ⊢
    rw [List.map_cons, List.lookup_cons, List.lookup_cons, ih]
    split <;> rfl

theorem insert_change (t : Table α) (key : String) (value : α) :
    (t.change f).insert key (f value) = (t.insert key value).change f := by
  induction t with
  | nil => rfl
  | cons e t ih =>
    obtain ⟨k, w⟩ := e
    change insert key (f value) ((k, f w) :: change f t) = _
    unfold insert
    split
    · rfl
    · rw [ih]
      rfl

/-- Of a new value, only what it is changed to counts. -/
theorem change_insert_of_not_has {value' : α} (h : t.has key = false)
    (hvalue : f value' = f value) :
    (t.insert key value').change f = (t ++ [(key, value)]).change f := by
  rw [insert_of_not_has h, change_append, change_append]
  exact congrArg (fun w => t.change f ++ [(key, w)]) hvalue

end Changed

end Stencil.Table
