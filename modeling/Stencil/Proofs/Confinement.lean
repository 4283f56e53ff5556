import Stencil.Loader
import Stencil.Proofs.Text.Parts
import Stencil.Proofs.Walk

/-!
# Names that lead out of a directory

A loader with a directory joins relative names to it and takes absolute names as they are.  A path
is read part by part, and a step upward takes a name back.  Whether a name leads to the directory or
below it depends on how far it climbs beyond its own parts, and on where it goes from there.
-/

namespace Stencil

open Text

/-! ## Reading a path part by part -/

namespace Path

/-- Whether a part of a path says nothing. -/
def isIdle (part : List Char) : Bool := part.isEmpty || part == ['.']

/-- The names that lead to where a part of a path leads, the last one first. -/
def turn (names : List String) (part : List Char) : List String :=
  if isIdle part then names
  else if part == ['.', '.'] then names.drop 1
  else String.ofList part :: names

/-- The names that lead to where a path leads, the last one first. -/
def walk (names : List String) (path : List Char) : List String :=
  (splitOn '/' path).foldl turn names

/-- Where a relative path leads: first so many steps up, then along the names down, the last one
first. -/
structure Course where
  up : Nat := 0
  down : List String := []

/-- The course with one more part. -/
def Course.turn (c : Course) (part : List Char) : Course :=
  if isIdle part then c
  else if part == ['.', '.'] then
    match c.down with
    | [] => { c with up := c.up + 1 }
    | _ :: down => { c with down }
  else { c with down := String.ofList part :: c.down }

/-- The course of a path. -/
def course (path : String) : Course := (splitOn '/' path.toList).foldl Course.turn {}

theorem turn_course (names : List String) (c : Course) (part : List Char) :
    turn (c.down ++ names.drop c.up) part = (c.turn part).down ++ names.drop (c.turn part).up := by
  unfold turn Course.turn
  split
  · rfl
  split
  · rcases c with ⟨up, _ | _⟩
    · exact List.drop_drop
    · rfl
  · rfl

/-- A relative path leads where its course leads. -/
theorem walk_eq_course (names : List String) (path : String) :
    walk names path.toList = (course path).down ++ names.drop (course path).up := by
  have hparts (parts : List (List Char)) (c : Course) :
      parts.foldl turn (c.down ++ names.drop c.up) =
        (parts.foldl Course.turn c).down ++ names.drop (parts.foldl Course.turn c).up := by
    induction parts generalizing c with
    | nil => rfl
    | cons part parts ih => rw [List.foldl_cons, turn_course, ih, List.foldl_cons]
  exact hparts _ {}

theorem walk_append_cons (names : List String) (s t : List Char) :
    walk names (s ++ '/' :: t) = walk (walk names s) t := by
  rw [walk, splitOn_append_cons, List.foldl_append]
  rfl

/-- A slash at the end of a path leads nowhere. -/
theorem walk_append_slash (names : List String) (s : List Char) :
    walk names (s ++ ['/']) = walk names s := walk_append_cons names s []

/-- A relative path is read on from where the path in front of it leads. -/
theorem walk_join {path : String} (h : isAbsolute path = false) (names : List String)
    (base : String) :
    walk names (join base path).toList = walk (walk names base.toList) path.toList := by
  rw [join, h, if_neg Bool.false_ne_true]
  split
  next hlast =>
    have hempty : base.toList = [] := List.getLast?_eq_none_iff.mp hlast
    rw [String.toList_append, hempty]
    rfl
  next hlast =>
    obtain ⟨s, hs⟩ := List.getLast?_eq_some_iff.mp hlast
    rw [String.toList_append, hs, List.append_assoc, List.singleton_append, walk_append_cons,
      walk_append_slash]
  next =>
    rw [String.toList_append, String.toList_append, List.append_assoc]
    exact walk_append_cons names base.toList path.toList

theorem isAbsolute_append {base : String} (hne : base.toList ≠ []) (path : String) :
    isAbsolute (base ++ path) = isAbsolute base := by
  obtain ⟨c, s, hs⟩ := List.exists_cons_of_ne_nil hne
  rw [isAbsolute, isAbsolute, String.toList_append, hs]
  rfl

theorem isAbsolute_join {path : String} (h : isAbsolute path = false) (base : String) :
    isAbsolute (join base path) = isAbsolute base := by
  rw [join, h, if_neg Bool.false_ne_true]
  split
  next hlast =>
    obtain rfl := String.toList_eq_nil_iff.mp (List.getLast?_eq_none_iff.mp hlast)
    rwa [String.empty_append]
  next hlast =>
    exact isAbsolute_append (List.ne_nil_of_mem (List.mem_of_getLast? hlast)) path
  next hlast =>
    have hne := List.ne_nil_of_mem (List.mem_of_getLast? hlast)
    rw [String.append_assoc]
    exact isAbsolute_append hne ("/" ++ path)

end Path

namespace Disk

/-- Where a path starts, as the names that lead there, the last one first. -/
def origin (d : Disk) (path : String) : List String :=
  if Path.isAbsolute path then [] else d.working.reverse

theorem settled_eq_walk (d : Disk) (path : String) :
    d.settled path = (Path.walk (d.origin path) path.toList).reverse := rfl

/-- A relative path leads from the directory `dir` up and down along its course. -/
theorem settled_join {path : String} (h : Path.isAbsolute path = false) (d : Disk) (dir : String) :
    d.settled (Path.join dir path) =
      (d.settled dir).take ((d.settled dir).length - (Path.course path).up) ++
        (Path.course path).down.reverse := by
  rw [settled_eq_walk, settled_eq_walk, origin, Path.isAbsolute_join h, Path.walk_join h,
    Path.walk_eq_course, List.reverse_append, List.reverse_drop, List.length_reverse]
  rfl

/-- A relative path leads to the directory or below it if it goes down again along the names of the
directory that it climbed out of. -/
theorem settled_join_iff {path : String} (h : Path.isAbsolute path = false) (d : Disk)
    (dir : String) :
    d.settled dir <+: d.settled (Path.join dir path) ↔
      (d.settled dir).drop ((d.settled dir).length - (Path.course path).up) <+:
        (Path.course path).down.reverse := by
  rw [settled_join h]
  generalize d.settled dir = names
  conv =>
    lhs
    lhs
    rw [← List.take_append_drop (names.length - (Path.course path).up) names]
  exact List.prefix_append_right_inj _

/-! ## What is found at a path -/

/-- The way from the root down to an entry: the directories above it, the nearest first, and the
names that lead to it, the last one first. -/
inductive Trail (root : Entry) : (above : List Entry) → Entry → (names : List String) → Prop where
  | start : Trail root [] root []
  | down {above entries names name e} : Trail root above (.directory entries) names →
    entries.lookup name = some e → Trail root (.directory entries :: above) e (name :: names)

variable {root : Entry}

/-- A part of a path leads on along the way that its names tell. -/
theorem Trail.follow {parts : List (List Char)} {above : List Entry} {here e : Entry}
    {names : List String} (htrail : Trail root above here names)
    (h : Disk.follow above here parts = .ok e) :
    ∃ above', Trail root above' e (parts.foldl Path.turn names) := by
  induction parts generalizing above here names with
  | nil =>
    cases h
    exact ⟨above, htrail⟩
  | cons part rest ih =>
    unfold Disk.follow at h
    rw [List.foldl_cons]
    split at h
    · cases h
    · dsimp only at h
      split at h
      case isTrue hidle =>
        rw [Path.turn, Path.isIdle, if_pos hidle]
        exact ih htrail h
      case isFalse hidle =>
      rw [Path.turn, Path.isIdle, if_neg hidle]
      split at h
      case isTrue hup =>
        rw [if_pos hup]
        cases htrail with
        | start => exact ih .start h
        | down habove _ => exact ih habove h
      case isFalse hup =>
      rw [if_neg hup]
      split at h
      · cases h
      split at h
      · cases h
      · exact ih (.down htrail ‹_›) h

theorem Trail.holds {above : List Entry} {e : Entry} {names rest : List String} {bytes : ByteArray}
    (h : Trail root above e names) (hholds : e.Holds rest bytes) :
    root.Holds (names.reverse ++ rest) bytes := by
  induction h generalizing rest with
  | start => exact hholds
  | down _ hlookup ih =>
    rw [List.reverse_cons, List.append_assoc]
    exact ih (.directory (Table.mem_of_get? hlookup) hholds)

/-- The directory that relative paths start from is known by names, not by steps. -/
def Grounded (d : Disk) : Prop :=
  ∀ name ∈ d.working, Path.isIdle name.toList = false ∧ name.toList ≠ ['.', '.']

theorem foldl_turn_names {names : List String}
    (h : ∀ name ∈ names, Path.isIdle name.toList = false ∧ name.toList ≠ ['.', '.'])
    (acc : List String) :
    (names.map String.toList).foldl Path.turn acc = names.reverse ++ acc := by
  induction names generalizing acc with
  | nil => rfl
  | cons name names ih =>
    obtain ⟨⟨hidle, hup⟩, h⟩ := List.forall_mem_cons.mp h
    rw [List.map_cons, List.foldl_cons, ih h, Path.turn, hidle, if_neg Bool.false_ne_true,
      if_neg (by simpa using hup), String.ofList_toList, List.reverse_cons, List.append_assoc]
    rfl

/-- What is found at a path lies where the path leads. -/
theorem exists_trail_of_find {d : Disk} (hd : Grounded d) {path : String} {e : Entry}
    (h : d.find path = .ok e) :
    ∃ above, Trail (.directory d.root) above e (d.settled path).reverse := by
  have horigin :
      (if Path.isAbsolute path then [] else d.working.map String.toList).foldl Path.turn [] =
        d.origin path := by
    unfold origin
    split
    · rfl
    · rw [foldl_turn_names hd, List.append_nil]
  unfold find at h
  split at h
  · cases h
  split at h
  · cases h
  split at h
  · cases h
  · obtain ⟨above, htrail⟩ := Trail.follow .start h
    rw [List.foldl_append, horigin] at htrail
    rw [settled_eq_walk, List.reverse_reverse]
    exact ⟨above, htrail⟩

/-- A text that is read at a path is that of the file to which the path leads. -/
theorem exists_holds_settled {d : Disk} (hd : Grounded d) {path s : String}
    (h : d.readText path = .ok s) :
    ∃ bytes, (Entry.directory d.root).Holds (d.settled path) bytes ∧
      String.fromUTF8? bytes = some s := by
  obtain ⟨e, hfind, h⟩ := ok_of_bind h
  obtain ⟨above, htrail⟩ := exists_trail_of_find hd hfind
  cases e with
  | directory entries => cases h
  | file bytes =>
    dsimp only at h
    have hholds := htrail.holds (.file bytes)
    rw [List.reverse_reverse, List.append_nil] at hholds
    split at h
    next s' hs =>
      cases h
      exact ⟨bytes, hholds, hs⟩
    next => cases h

end Disk

/-! ## Loaders with a directory -/

namespace Loader

theorem resolve_relative {name : String} (h : Path.isAbsolute name = false) (dir : String)
    (from? : Option String) : (files (some dir)).resolve from? name = Path.join dir name := by
  unfold resolve
  rw [h]
  rfl

theorem resolve_absolute {name : String} (h : Path.isAbsolute name = true) (dir : String)
    (from? : Option String) : (files (some dir)).resolve from? name = name := by
  unfold resolve
  rw [h]
  rfl

/-- The path of a name leads to the directory or below it if and only if the name is relative and
goes down again along the names of the directory that it climbed out of, or is absolute and leads
there by itself. -/
theorem settled_resolve_iff (disk : Disk) (dir : String) (from? : Option String) (name : String) :
    disk.settled dir <+: disk.settled ((files (some dir)).resolve from? name) ↔
      if Path.isAbsolute name then disk.settled dir <+: disk.settled name
      else (disk.settled dir).drop ((disk.settled dir).length - (Path.course name).up) <+:
        (Path.course name).down.reverse := by
  split
  next h => rw [resolve_absolute h]
  next h =>
    have h := Bool.eq_false_iff.mpr h
    rw [resolve_relative h]
    exact Disk.settled_join_iff h disk dir

/-- A name can lead out of the directory. -/
theorem not_settled_resolve_upward :
    ¬({} : Disk).settled "site" <+:
      ({} : Disk).settled ((files (some "site")).resolve none "../secret") := by
  decide +kernel

/-- A relative name that does not climb beyond its own parts stays below the directory, and what is
read there is a file below the directory. -/
theorem exists_below_of_open? {disk : Disk} (hdisk : disk.Grounded) {dir name source : String}
    {from? : Option String} (hrelative : Path.isAbsolute name = false)
    (hup : (Path.course name).up = 0)
    (h : (files (some dir)).open? disk ((files (some dir)).resolve from? name) = .ok source) :
    ∃ names bytes, (Entry.directory disk.root).Holds (disk.settled dir ++ names) bytes ∧
      String.fromUTF8? bytes = some source := by
  have hread : disk.readText (Path.join dir name) = .ok source := by
    rw [resolve_relative hrelative, open?] at h
    split at h
    next s hs =>
      cases h
      exact hs
    next => cases h
  obtain ⟨bytes, hholds, hsource⟩ := Disk.exists_holds_settled hdisk hread
  rw [Disk.settled_join hrelative, hup, Nat.sub_zero, List.take_length] at hholds
  exact ⟨_, bytes, hholds, hsource⟩

end Loader

end Stencil
