import Stencil.Text.Basic

/-!
# Paths

A path is a text whose parts are separated by slashes.  Empty parts and parts that are a single dot
say nothing, except for a dot at the very beginning.
-/

namespace Stencil.Path

open Stencil.Text

/-- Whether the path starts at the root of the file system. -/
def isAbsolute (path : String) : Bool := path.toList.head? == some '/'

/-- The path `path` seen from `base`; an absolute path stays what it is. -/
def join (base path : String) : String :=
  if isAbsolute path then path
  else
    match base.toList.getLast? with
    | none | some '/' => base ++ path
    | some _ => base ++ "/" ++ path

/-- The parts of a path without those at the end that say nothing; `first` tells whether the first
part stands at the beginning of a relative path. -/
def dropIdle (first : Bool) (parts : List (List Char)) : List (List Char) :=
  match parts with
  | [] => []
  | part :: rest =>
    match dropIdle false rest with
    | [] => if part.isEmpty || (part == ['.'] && !first) then [] else [part]
    | kept => part :: kept

/-- The parts of a path, without the root and without idle parts at the end, and whether the path is
absolute. -/
def parts (path : String) : List (List Char) × Bool :=
  match path.toList with
  | '/' :: s => (dropIdle false (splitOn '/' s), true)
  | s => (dropIdle true (splitOn '/' s), false)

/-- The path of the directory that holds what the path names, if the path names anything. -/
def parent? (path : String) : Option String :=
  let (ps, absolute) := parts path
  match ps with
  | [] => none
  | _ =>
    let kept := String.ofList (Text.join ['/'] (dropIdle (!absolute) ps.dropLast))
    some (if absolute then "/" ++ kept else kept)

/-- The last part of a path, unless it leads upward. -/
def fileName? (path : String) : Option String :=
  match (parts path).1.getLast? with
  | none => none
  | some part => if part == ['.'] || part == ['.', '.'] then none else some (String.ofList part)

/-- What follows the last dot of the last part, if anything stands before that dot. -/
def extension? (path : String) : Option String :=
  match fileName? path with
  | none => none
  | some name =>
    let reversed := name.toList.reverse
    match splitOnce '.' reversed with
    | some (ext, before) => if before.isEmpty then none else some (String.ofList ext.reverse)
    | none => none

end Stencil.Path
