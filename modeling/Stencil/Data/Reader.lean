/-!
# Readers

A reader takes a prefix off a list of characters and says what it found there.  Readers of data
files are built from a few of them; a text that does not fit is refused without a reason.
-/

namespace Stencil

/-- A reader of a prefix: what it found, and what is left. -/
abbrev Reader (α : Type) := StateT (List Char) Option α

namespace Reader

/-- Refuses the text. -/
def refuse {α : Type} : Reader α := fun _ => none

/-- The next character, which stays where it is. -/
def peek? : Reader (Option Char) := fun s => some (s.head?, s)

/-- Takes the next character. -/
def next : Reader Char
  | [] => none
  | c :: s => some (c, s)

/-- Takes the longest run of characters that satisfy `p`. -/
def run (p : Char → Bool) : Reader (List Char) := fun s => some (s.takeWhile p, s.dropWhile p)

/-- Takes the character `c` if it is next, and says whether it was. -/
def skip? (c : Char) : Reader Bool
  | [] => some (false, [])
  | d :: s => if d = c then some (true, s) else some (false, d :: s)

/-- Takes the character `c`, which must be next. -/
def expect (c : Char) : Reader Unit := do
  if !(← skip? c) then refuse

/-- Takes the given characters, which must be next. -/
def word : List Char → Reader Unit
  | [] => pure ()
  | c :: cs => do expect c; word cs

/-- How many characters are left. -/
def left : Reader Nat := fun s => some (s.length, s)

/-- Runs a reader on a text that it must take up entirely. -/
def all {α : Type} (r : Reader α) (s : List Char) : Option α :=
  match r s with
  | some (a, []) => some a
  | _ => none

end Reader

end Stencil
