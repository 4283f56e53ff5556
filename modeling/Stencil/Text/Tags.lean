import Stencil.Text.Class

/-!
# Removing tags

A tag goes from a `<` to a `>`.  Removing tags can bring the parts of another one together, so it is
repeated until nothing changes.
-/

namespace Stencil.Text

/-- The text without the matches that `match?` finds, from the left and without overlaps.  It gives
the length of the match at the front of a text. -/
def dropMatches (match? : List Char → Option Nat) : List Char → List Char
  | [] => []
  | c :: s =>
    match match? (c :: s) with
    | some n => dropMatches match? (s.drop (n - 1))
    | none => c :: dropMatches match? s
termination_by s => s.length
decreasing_by all_goals simp only [List.length_drop, List.length_cons]; omega

/-- What `f` makes of a text in the end, unless it still changes it in the last of the passes. -/
def untilStable (f : List Char → List Char) : (passes : Nat) → List Char → Option (List Char)
  | 0, _ => none
  | passes + 1, s =>
    let t := f s
    if t = s then some s else untilStable f passes t

/-- How many passes are made over a text. -/
def maxPasses : Nat := 100

/-- The number of characters up to the next `>`, that one included, if no `<` comes before it. -/
def plainTagEnd? : List Char → Option Nat
  | [] => none
  | c :: s => if c = '>' then some 1 else if c = '<' then none else (plainTagEnd? s).map (· + 1)

/-- The length of the tag at the front of a text: a `<`, and a `>` with neither mark between. -/
def plainTag? : List Char → Option Nat
  | '<' :: s => (plainTagEnd? s).map (· + 1)
  | _ => none

/-- The text without tags. -/
def stripTags (s : List Char) : Option (List Char) :=
  untilStable (dropMatches plainTag?) maxPasses s

/-! ## Tags with given names -/

/-- Whether a name can name a tag: an ASCII letter, then ASCII letters and digits. -/
def isTagName : List Char → Bool
  | [] => false
  | c :: s => isAsciiLetter c && s.all fun d => isAsciiLetter d || isAsciiDigit d

/-- A character without its case.  The long `ſ` and the sign for kelvin count as an `s` and a
`k`. -/
def foldCase (c : Char) : Char :=
  if c = 'ſ' then 's' else if c = '\u212A' then 'k' else c.toLower

/-- What follows `name` in a text that starts with it, whatever the case. -/
def afterName? : (name s : List Char) → Option (List Char)
  | [], s => some s
  | _ :: _, [] => none
  | n :: name, c :: s => if foldCase n = foldCase c then afterName? name s else none

/-- Whether a text starts with one of the names as a word. -/
def startsWithName (names : List (List Char)) (s : List Char) : Bool :=
  names.any fun name =>
    match afterName? name s with
    | some (c :: _) => !isWordChar c
    | _ => false

/-- The number of characters up to the next `>`, that one included. -/
def tagEnd? : List Char → Option Nat
  | [] => none
  | c :: s => if c = '>' then some 1 else (tagEnd? s).map (· + 1)

/-- The length of the tag at the front of a text, if it opens or closes an element with one of the
names. -/
def namedTag? (names : List (List Char)) : List Char → Option Nat
  | '<' :: '/' :: s =>
    if startsWithName names s then (tagEnd? s).map (· + 2) else none
  | '<' :: s => if startsWithName names s then (tagEnd? s).map (· + 1) else none
  | _ => none

/-- The text without tags that have one of the names. -/
def removeTags (names : List (List Char)) (s : List Char) : Option (List Char) :=
  untilStable (dropMatches (namedTag? names)) maxPasses s

end Stencil.Text
