import Stencil.Text.Class

/-!
# Texts

Operations on texts as lists of characters: trimming, splitting, searching and replacing.  They
are what scanners, filters and commands share.
-/

namespace Stencil.Text

/-! ## Trimming -/

/-- The text without the blanks in front. -/
def trimStart (s : List Char) : List Char := s.dropWhile isBlank

/-- The text without the blanks behind. -/
def trimEnd (s : List Char) : List Char := (s.reverse.dropWhile isBlank).reverse

/-- The text without the blanks at both ends. -/
def trim (s : List Char) : List Char := trimEnd (trimStart s)

/-! ## Searching -/

/-- What follows `p` in `s`, if `s` begins with `p`. -/
def afterPrefix? : (p s : List Char) → Option (List Char)
  | [], s => some s
  | _ :: _, [] => none
  | a :: p, c :: s => if a = c then afterPrefix? p s else none

/-- Whether `p` occurs in `s`. -/
def occursIn (p : List Char) : List Char → Bool
  | [] => p.isEmpty
  | c :: s => p.isPrefixOf (c :: s) || occursIn p s

/-- The texts before and after the first `sep`, if there is one. -/
def splitOnce (sep : Char) : List Char → Option (List Char × List Char)
  | [] => none
  | c :: s =>
    if c = sep then some ([], s)
    else (splitOnce sep s).map fun r => (c :: r.1, r.2)

/-! ## Splitting -/

/-- The texts between the characters that satisfy `p`; there is always at least one. -/
def splitBy (p : Char → Bool) : List Char → List (List Char)
  | [] => [[]]
  | c :: s =>
    if p c then [] :: splitBy p s
    else
      match splitBy p s with
      | [] => [[c]]
      | w :: ws => (c :: w) :: ws

/-- The texts between separators. -/
def splitOn (sep : Char) (s : List Char) : List (List Char) := splitBy (· == sep) s

/-- The words: the longest runs of characters that are not blank. -/
def words (s : List Char) : List (List Char) := (splitBy isBlank s).filter (!·.isEmpty)

/-- The line without the carriage return that ends it. -/
def dropCarriageReturn (s : List Char) : List Char :=
  match s.getLast? with
  | some '\r' => s.dropLast
  | _ => s

/-- The lines.  A line ends with a line feed, or with a carriage return and a line feed; an empty
rest after the last line feed is no line. -/
def lines (s : List Char) : List (List Char) :=
  let parts := splitOn '\n' s
  let ended := parts.dropLast.map dropCarriageReturn
  match parts.getLast? with
  | some [] | none => ended
  | some last => ended ++ [last]

/-! ## Replacing and joining -/

/-- The text with each occurrence of `old`, from the left and without overlaps, replaced by `new`.
An empty `old` is not looked for.  The number `skip` counts the characters still to be left out. -/
def replaceFrom (old new : List Char) : (skip : Nat) → List Char → List Char
  | _, [] => []
  | skip + 1, _ :: s => replaceFrom old new skip s
  | 0, c :: s =>
    if !old.isEmpty && old.isPrefixOf (c :: s) then new ++ replaceFrom old new (old.length - 1) s
    else c :: replaceFrom old new 0 s

/-- The text with each occurrence of `old` replaced by `new`. -/
def replace (old new s : List Char) : List Char := replaceFrom old new 0 s

/-- The texts with `sep` between them. -/
def join (sep : List Char) : List (List Char) → List Char
  | [] => []
  | [w] => w
  | w :: ws => w ++ sep ++ join sep ws

end Stencil.Text
