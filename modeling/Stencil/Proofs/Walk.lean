import Mathlib.Data.List.Nodup
import Stencil.Disk
import Stencil.Proofs.Keeping
import Stencil.Proofs.Table

/-!
# Files below a directory

A walk through a directory comes by every file below it, and by each of them once, if no two entries
of a directory have the same name and no name has a slash in it.
-/

namespace Stencil

/-- The names lead from the entry down to a file with the given bytes. -/
inductive Entry.Holds : Entry → List String → ByteArray → Prop where
  | file (bytes) : Entry.Holds (.file bytes) [] bytes
  | directory {entries name e names bytes} : (name, e) ∈ entries → Entry.Holds e names bytes →
    Entry.Holds (.directory entries) (name :: names) bytes

/-- The entries of each directory have different names, which can stand in paths. -/
inductive Entry.WellFormed : Entry → Prop where
  | file (bytes) : Entry.WellFormed (.file bytes)
  | directory {entries} : (entries.map Prod.fst).Nodup →
    (∀ e ∈ entries, e.1 ≠ "" ∧ '/' ∉ e.1.toList) → (∀ e ∈ entries, Entry.WellFormed e.2) →
    Entry.WellFormed (.directory entries)

open Disk

/-! ## Walks -/

theorem filesOfEach_eq_map (above : List String) (entries : List (String × Entry)) :
    filesOfEach above entries = entries.map fun e => (e.1, filesOf (above ++ [e.1]) e.2) := by
  induction entries with
  | nil => rfl
  | cons e entries ih =>
    obtain ⟨name, e⟩ := e
    rw [filesOfEach, ih, List.map_cons]

theorem mem_filesOf_directory {above names : List String} {entries : List (String × Entry)} :
    names ∈ filesOf above (.directory entries) ↔
      ∃ e ∈ entries, names ∈ filesOf (above ++ [e.1]) e.2 := by
  rw [filesOf, List.mem_flatMap, filesOfEach_eq_map]
  constructor
  · rintro ⟨found, hfound, hnames⟩
    obtain ⟨e, he, rfl⟩ := List.mem_map.mp (List.mem_mergeSort.mp hfound)
    exact ⟨e, he, hnames⟩
  · rintro ⟨e, he, hnames⟩
    exact ⟨_, List.mem_mergeSort.mpr (List.mem_map_of_mem he), hnames⟩

/-- A walk comes by what the entry holds. -/
theorem mem_filesOf_of_holds {e : Entry} {names : List String} {bytes : ByteArray}
    (h : e.Holds names bytes) (above : List String) : above ++ names ∈ filesOf above e := by
  induction h generalizing above with
  | file bytes =>
    rw [List.append_nil]
    exact List.mem_singleton_self above
  | @directory entries name e names bytes hentry _ ih =>
    have hbelow := ih (above ++ [name])
    rw [List.append_assoc, List.singleton_append] at hbelow
    exact mem_filesOf_directory.mpr ⟨(name, e), hentry, hbelow⟩

mutual

/-- A walk comes by nothing else. -/
theorem exists_holds_of_mem_filesOf : (e : Entry) → (above found : List String) →
    found ∈ filesOf above e → ∃ names bytes, found = above ++ names ∧ e.Holds names bytes
  | .file bytes, above, found, h => by
    rw [filesOf, List.mem_singleton] at h
    exact ⟨[], bytes, by rw [h, List.append_nil], .file bytes⟩
  | .directory entries, above, found, h => by
    obtain ⟨e, he, hfound⟩ := mem_filesOf_directory.mp h
    obtain ⟨names, bytes, rfl, hholds⟩ :=
      exists_holds_of_mem_entries entries above e he found hfound
    exact ⟨e.1 :: names, bytes, List.append_assoc above [e.1] names, .directory he hholds⟩

theorem exists_holds_of_mem_entries : (entries : List (String × Entry)) → (above : List String) →
    ∀ e ∈ entries, ∀ found ∈ filesOf (above ++ [e.1]) e.2,
      ∃ names bytes, found = above ++ [e.1] ++ names ∧ e.2.Holds names bytes
  | [], _ => nofun
  | (name, e) :: entries, above => by
    rintro f (_ | ⟨_, hf⟩) found hfound
    · exact exists_holds_of_mem_filesOf e (above ++ [name]) found hfound
    · exact exists_holds_of_mem_entries entries above f hf found hfound

end

theorem mem_filesOf {e : Entry} {above found : List String} :
    found ∈ filesOf above e ↔ ∃ names bytes, found = above ++ names ∧ e.Holds names bytes := by
  constructor
  · exact exists_holds_of_mem_filesOf e above found
  · rintro ⟨names, bytes, rfl, h⟩
    exact mem_filesOf_of_holds h above

/-- A walk comes by no file twice. -/
theorem nodup_filesOf {e : Entry} (h : e.WellFormed) (above : List String) :
    (filesOf above e).Nodup := by
  induction h generalizing above with
  | file bytes => exact List.nodup_singleton above
  | @directory entries hdistinct _ _ ih =>
    rw [filesOf, ((List.mergeSort_perm _ _).flatMap_right _).nodup_iff, filesOfEach_eq_map,
      List.nodup_flatMap]
    constructor
    · intro found hfound
      obtain ⟨e, he, rfl⟩ := List.mem_map.mp hfound
      exact ih e he _
    · rw [List.pairwise_map]
      refine (List.pairwise_map.mp hdistinct).imp fun {e e'} hne names hnames hnames' => hne ?_
      -- What is found below an entry has the name of the entry behind the names above.
      obtain ⟨rest, _, rfl, -⟩ := mem_filesOf.mp hnames
      obtain ⟨rest', _, heq, -⟩ := mem_filesOf.mp hnames'
      rw [List.append_assoc, List.append_assoc] at heq
      exact (List.cons.inj (List.append_cancel_left heq)).1

/-! ## Paths -/

theorem Entry.Holds.names {e : Entry} {names : List String} {bytes : ByteArray}
    (h : e.Holds names bytes) (hwf : e.WellFormed) :
    ∀ name ∈ names, name ≠ "" ∧ '/' ∉ name.toList := by
  induction h with
  | file => nofun
  | directory hentry _ ih =>
    cases hwf with
    | directory _ hnames hbelow =>
      exact List.forall_mem_cons.mpr ⟨hnames _ hentry, ih (hbelow _ hentry)⟩

/-- Names that can stand in paths are read off the path. -/
theorem intercalate_injOn {names names' : List String}
    (h : ∀ name ∈ names, name ≠ "" ∧ '/' ∉ name.toList)
    (h' : ∀ name ∈ names', name ≠ "" ∧ '/' ∉ name.toList)
    (heq : "/".intercalate names = "/".intercalate names') : names = names' := by
  have hsplit {names : List String} (h : ∀ name ∈ names, name ≠ "" ∧ '/' ∉ name.toList)
      (hne : names ≠ []) :
      List.splitOn '/' ("/".intercalate names).toList = names.map String.toList := by
    rw [String.toList_intercalate]
    refine List.splitOn_intercalate '/' ?_ (by simpa using hne)
    rintro _ hword
    obtain ⟨name, hname, rfl⟩ := List.mem_map.mp hword
    exact (h name hname).2
  have hempty {names : List String} (h : ∀ name ∈ names, name ≠ "" ∧ '/' ∉ name.toList)
      (heq : "/".intercalate names = "") : names = [] := by
    cases names with
    | nil => rfl
    | cons name rest =>
      have hnames := hsplit h (List.cons_ne_nil name rest)
      rw [heq] at hnames
      have hfirst : [] = name.toList := (List.cons.inj hnames).1
      exact absurd (String.toList_eq_nil_iff.mp hfirst.symm) (h name (List.mem_cons_self ..)).1
  by_cases hnil : names = []
  · subst hnil
    exact (hempty h' heq.symm).symm
  · have hnil' : names' ≠ [] := fun hnil' => hnil (hempty h (heq.trans (by rw [hnil']; rfl)))
    have hmap := (hsplit h hnil).symm.trans ((congrArg _ (congrArg _ heq)).trans (hsplit h' hnil'))
    exact List.map_injective_iff.mpr (fun _ _ => String.toList_inj.mp) hmap

/-- The walk through a directory comes by no path twice. -/
theorem nodup_files {d : Disk} {dir : String} (hwf : ∀ e, d.find dir = .ok e → e.WellFormed) :
    (d.files dir).Nodup := by
  unfold files
  split
  · rename_i e hdir
    have hwf := hwf e hdir
    refine List.Nodup.map_on (fun names hnames names' hnames' heq => ?_) (nodup_filesOf hwf [])
    obtain ⟨_, _, rfl, hholds⟩ := mem_filesOf.mp hnames
    obtain ⟨_, _, rfl, hholds'⟩ := mem_filesOf.mp hnames'
    exact intercalate_injOn (hholds.names hwf) (hholds'.names hwf) heq
  · exact List.nodup_nil

/-- The walk through a directory comes by the files below it. -/
theorem mem_files {d : Disk} {dir path : String} :
    path ∈ d.files dir ↔
      ∃ e names bytes, d.find dir = .ok e ∧ e.Holds names bytes ∧ path = "/".intercalate names := by
  unfold files
  constructor
  · intro h
    split at h
    · rename_i e hdir
      obtain ⟨names, hnames, rfl⟩ := List.mem_map.mp h
      obtain ⟨_, bytes, rfl, hholds⟩ := mem_filesOf.mp hnames
      exact ⟨e, names, bytes, hdir, hholds, rfl⟩
    · cases h
  · rintro ⟨e, names, bytes, hdir, hholds, rfl⟩
    rw [hdir]
    exact List.mem_map_of_mem (mem_filesOf_of_holds hholds [])

/-- What the entry holds is held by the other one, too. -/
def Entry.Within (e root : Entry) : Prop :=
  ∀ names bytes, e.Holds names bytes → ∃ names', root.Holds names' bytes

/-- Paths do not lead out of the tree. -/
theorem within_of_follow {root : Entry} (parts : List (List Char)) {above : List Entry}
    {here e : Entry} (hhere : here.Within root) (habove : ∀ up ∈ above, up.Within root)
    (h : follow above here parts = .ok e) : e.Within root := by
  induction parts generalizing above here with
  | nil =>
    cases h
    exact hhere
  | cons part rest ih =>
    unfold follow at h
    split at h
    · cases h
    · rename_i entries
      dsimp only at h
      split at h
      · exact ih hhere habove h
      split at h
      · split at h
        · exact ih hhere habove h
        · obtain ⟨hup, habove⟩ := List.forall_mem_cons.mp habove
          exact ih hup habove h
      split at h
      · cases h
      split at h
      · cases h
      · rename_i below hbelow
        refine ih (fun names bytes hholds => ?_) (List.forall_mem_cons.mpr ⟨hhere, habove⟩) h
        exact hhere _ bytes (.directory (Table.mem_of_get? hbelow) hholds)

/-- A text that can be read is that of a file on the disk. -/
theorem exists_holds_of_readText {d : Disk} {path s : String} (h : d.readText path = .ok s) :
    ∃ names bytes, (Entry.directory d.root).Holds names bytes ∧
      String.fromUTF8? bytes = some s := by
  obtain ⟨e, hfind, h⟩ := ok_of_bind h
  cases e with
  | directory entries => cases h
  | file bytes =>
    dsimp only at h
    cases hs : String.fromUTF8? bytes with
    | none =>
      rw [hs] at h
      cases h
    | some s' =>
      rw [hs] at h
      cases h
      have hwithin : (Entry.file bytes).Within (.directory d.root) := by
        unfold find at hfind
        split at hfind
        · cases hfind
        split at hfind
        · cases hfind
        split at hfind
        · cases hfind
        · exact within_of_follow _ (fun names _ hholds => ⟨names, hholds⟩)
            (List.forall_mem_nil _) hfind
      obtain ⟨names, hholds⟩ := hwithin [] bytes (.file bytes)
      exact ⟨names, bytes, hholds, hs⟩

end Stencil
