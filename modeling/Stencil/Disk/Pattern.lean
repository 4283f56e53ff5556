import Stencil.Text.Basic

/-!
# Path patterns

A pattern describes a set of paths.  A question mark stands for any character, a star for any text,
brackets for one of several characters, and two stars for any number of whole parts of the path.
-/

namespace Stencil

/-- A range of characters; a single one is a range of its own. -/
structure CharRange where
  first : Char
  last : Char

/-- Whether the character lies in the range. -/
def CharRange.holds (r : CharRange) (c : Char) : Bool := r.first ≤ c && c ≤ r.last

/-- A piece of a pattern. -/
inductive Wildcard where
  | exactly (c : Char)
  | anyChar
  | anyText
  /-- Any number of whole parts. -/
  | anyParts
  | within (ranges : List CharRange)
  | outside (ranges : List CharRange)

/-- A pattern of paths. -/
abbrev Pattern := List Wildcard

/-- What is wrong with the spelling of a pattern. -/
inductive PatternFault where
  | manyStars
  /-- Two stars next to something other than a slash. -/
  | mixedPart
  | badRange

/-- The fault in words. -/
def PatternFault.message : PatternFault → String
  | manyStars => "wildcards are either regular `*` or recursive `**`"
  | mixedPart => "recursive wildcards must form a single path component"
  | badRange => "invalid range pattern"

namespace Pattern

/-! ## Reading -/

/-- The ranges that stand between brackets. -/
def ranges : List Char → List CharRange
  | a :: '-' :: b :: s => ⟨a, b⟩ :: ranges s
  | a :: s => ⟨a, a⟩ :: ranges s
  | [] => []

/-- The text before the closing bracket and what follows it.  The first character is never the
closing bracket. -/
def bracket? (s : List Char) : Option (List Char × List Char) :=
  match s with
  | [] => none
  | c :: s => (Text.splitOnce ']' s).map fun r => (c :: r.1, r.2)

/-- The wildcard that follows an opening bracket, and the text behind it. -/
def choice? (s : List Char) : Option (Wildcard × List Char) :=
  match s with
  | '!' :: s => (bracket? s).map fun r => (.outside (ranges r.1), r.2)
  | s => (bracket? s).map fun r => (.within (ranges r.1), r.2)

/-- The text after two stars that stand after `before`, or where the pattern is wrong.  They form a
part of the path and take the slash behind it with them. -/
def afterParts (before : Option Char) (position : Nat) (behind : List Char) :
    Except (PatternFault × Nat) (List Char) :=
  match before, behind with
  | none, '/' :: s | some '/', '/' :: s => .ok s
  | none, [] | some '/', [] => .ok []
  | none, _ | some '/', _ => .error (.mixedPart, position + 2)
  | some _, _ => .error (.mixedPart, position - 1)

/-- Reads a pattern of which the part before `position`, ending in `before`, was read.  The number
`fuel` bounds the pieces. -/
def readFrom (before : Option Char) (position : Nat) :
    (fuel : Nat) → List Char → Except (PatternFault × Nat) Pattern
  | 0, _ | _, [] => .ok []
  | fuel + 1, c :: s => do
    let next (w : Wildcard) (last : Char) (rest : List Char) :=
      return w :: (← readFrom (some last) (position + (s.length + 1 - rest.length)) fuel rest)
    match c with
    | '?' => next .anyChar c s
    | '*' =>
      match s with
      | '*' :: '*' :: _ => throw (.manyStars, position + 2)
      | '*' :: behind =>
        let rest ← afterParts before position behind
        next .anyParts (if rest.length < behind.length then '/' else '*') rest
      | s => next .anyText c s
    | '[' =>
      match choice? s with
      | some (w, rest) => next w ']' rest
      | none => throw (.badRange, position)
    | c => next (.exactly c) c s

/-- Reads a pattern, or tells what is wrong with it and where. -/
def read (pattern : String) : Except (PatternFault × Nat) Pattern :=
  readFrom none 0 pattern.length pattern.toList

/-! ## Matching -/

/-- Whether `p` holds of the text or of one of its ends. -/
def anyEnd (p : List Char → Bool) : List Char → Bool
  | [] => p []
  | c :: s => p (c :: s) || anyEnd p s

/-- Whether `p` holds of what follows one of the slashes, or of the empty end. -/
def afterSlash (p : List Char → Bool) : List Char → Bool
  | [] => p []
  | c :: s => (c == '/' && p s) || afterSlash p s

/-- Whether the path belongs to the pattern. -/
def fits : Pattern → List Char → Bool
  | [], path => path.isEmpty
  | .anyText :: rest, path => anyEnd (fits rest) path
  | .anyParts :: rest, path => fits rest path || afterSlash (fits rest) path
  | _ :: _, [] => false
  | .exactly c :: rest, d :: path => c == d && fits rest path
  | .anyChar :: rest, _ :: path => fits rest path
  | .within rs :: rest, d :: path => rs.any (·.holds d) && fits rest path
  | .outside rs :: rest, d :: path => !rs.any (·.holds d) && fits rest path

end Pattern

end Stencil
