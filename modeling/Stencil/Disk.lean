import Stencil.Data.Table
import Stencil.Disk.Path

/-!
# Files

The files that a program can see are a tree of directories, and one of them is the directory that
relative paths start from.
-/

namespace Stencil

/-- A file or a directory. -/
inductive Entry where
  | file (bytes : ByteArray)
  | directory (entries : List (String × Entry))

/-- Why a file cannot be read or written. -/
inductive DiskFault where
  | missing
  | exists
  | notDirectory
  | isDirectory
  | longName
  | nulByte
  | notText

/-- The fault in the words of the system. -/
def DiskFault.message : DiskFault → String
  | missing => "No such file or directory (os error 2)"
  | .exists => "File exists (os error 17)"
  | notDirectory => "Not a directory (os error 20)"
  | isDirectory => "Is a directory (os error 21)"
  | longName => "File name too long (os error 36)"
  | nulByte => "file name contained an unexpected NUL byte"
  | notText => "stream did not contain valid UTF-8"

/-- A tree of files, and the parts of the path of the working directory. -/
structure Disk where
  root : List (String × Entry) := []
  working : List String := []

namespace Disk

open Stencil.Text

/-- The greatest length of a path in bytes. -/
def pathLimit : Nat := 4095

/-- The greatest length of one part of a path in bytes. -/
def nameLimit : Nat := 255

/-- Follows the parts of a path from `here`; `above` are the directories on the way, the nearest
first. -/
def follow (above : List Entry) (here : Entry) : List (List Char) → Except DiskFault Entry
  | [] => .ok here
  | part :: rest =>
    match here with
    | .file _ => .error .notDirectory
    | .directory entries =>
      let name := String.ofList part
      if part.isEmpty || part == ['.'] then follow above here rest
      else if part == ['.', '.'] then
        match above with
        | [] => follow [] here rest
        | up :: above => follow above up rest
      else if nameLimit < name.utf8ByteSize then .error .longName
      else
        match entries.lookup name with
        | none => .error .missing
        | some e => follow (here :: above) e rest

/-- What a path names. -/
def find (d : Disk) (path : String) : Except DiskFault Entry :=
  if path.toList.contains (Char.ofNat 0) then .error .nulByte
  else if pathLimit < path.utf8ByteSize then .error .longName
  else if path.isEmpty then .error .missing
  else
    let start := if Path.isAbsolute path then [] else d.working.map String.toList
    follow [] (.directory d.root) (start ++ splitOn '/' path.toList)

/-- The text of the file at a path. -/
def readText (d : Disk) (path : String) : Except DiskFault String := do
  match ← d.find path with
  | .directory _ => throw .isDirectory
  | .file bytes =>
    match String.fromUTF8? bytes with
    | some s => pure s
    | none => throw .notText

/-- Whether a path names a directory. -/
def isDirectory (d : Disk) (path : String) : Bool :=
  match d.find path with
  | .ok (.directory _) => true
  | _ => false

/-! ## Writing -/

/-- Follows the named parts of a path and puts there what `leaf` makes of what is there. -/
def change (leaf : Option Entry → Except DiskFault Entry) :
    List String → List (String × Entry) → Except DiskFault (List (String × Entry))
  | [], entries => .ok entries
  | [name], entries => do
    if nameLimit < name.utf8ByteSize then throw .longName
    pure (Table.insert name (← leaf (entries.lookup name)) entries)
  | name :: rest, entries =>
    match entries.lookup name with
    | none => .error .missing
    | some (.file _) => .error .notDirectory
    | some (.directory inner) => do
      pure (Table.insert name (.directory (← change leaf rest inner)) entries)

/-- The named parts of a path from the root, steps upward taken back. -/
def settled (d : Disk) (path : String) : List String :=
  let start := if Path.isAbsolute path then [] else d.working.reverse
  ((splitOn '/' path.toList).foldl (fun acc part =>
    if part.isEmpty || part == ['.'] then acc
    else if part == ['.', '.'] then acc.drop 1
    else String.ofList part :: acc) start).reverse

/-- The disk with a new directory at a path, unless one is there. -/
def makeDirectory (d : Disk) (path : List String) : Except DiskFault Disk := do
  let root ← change
    (fun
      | none => .ok (.directory [])
      | some (.directory entries) => .ok (.directory entries)
      | some (.file _) => .error .exists)
    path d.root
  pure { d with root }

/-- The disk with the directory at a path and all directories above it. -/
def makeDirectories (d : Disk) (path : String) : Except DiskFault Disk :=
  let names := d.settled path
  (List.range names.length).foldlM (fun d i => d.makeDirectory (names.take (i + 1))) d

/-- The disk with a file of the given bytes at a path. -/
def write (d : Disk) (path : String) (bytes : ByteArray) : Except DiskFault Disk := do
  if path.isEmpty then throw .missing
  if path.toList.getLast? == some '/' then throw .isDirectory
  match d.settled path with
  | [] => throw .isDirectory
  | names =>
    let root ← change
      (fun
        | some (.directory _) => .error .isDirectory
        | _ => .ok (.file bytes))
      names d.root
    pure { d with root }

/-- The disk with a file of the given bytes at a path, whose directory is made if it is missing. -/
def place (d : Disk) (path : String) (bytes : ByteArray) : Except DiskFault Disk := do
  let d ←
    match Path.parent? path with
    | some dir => d.makeDirectories dir
    | none => pure d
  d.write path bytes

/-! ## Walking -/

mutual

/-- The paths of the files in a directory and below, each directory in rising order of names. -/
def filesOf (above : List String) : Entry → List (List String)
  | .file _ => [above]
  | .directory entries =>
    ((filesOfEach above entries).mergeSort fun a b => a.1 ≤ b.1).flatMap (·.2)

/-- The paths of the files in each of several entries. -/
def filesOfEach (above : List String) :
    List (String × Entry) → List (String × List (List String))
  | [] => []
  | (name, e) :: rest => (name, filesOf (above ++ [name]) e) :: filesOfEach above rest

end

/-- The paths, relative to `dir`, of the files in the directory `dir` and below. -/
def files (d : Disk) (dir : String) : List String :=
  match d.find dir with
  | .ok e => (filesOf [] e).map "/".intercalate
  | .error _ => []

end Disk

end Stencil
