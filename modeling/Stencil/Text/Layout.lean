import Stencil.Text.Basic

/-!
# The layout of texts

A text is fitted into a width by cutting, wrapping and padding, counted in characters. In markup a
line feed becomes a break, and two or more of them separate paragraphs. Blanks between a `>` and a
`<` are gaps; removing them all, and the blanks at both ends, changes nothing that a page shows.
-/

namespace Stencil.Text

/-! ## Widths -/

/-- The mark that something was left out. -/
def omission : List Char := ['.', '.', '.']

/-- The text, or its start and the mark of an omission if it is longer than `length`. -/
def truncate (length : Nat) (s : List Char) : List Char :=
  if s.length ≤ length then s else trimEnd (s.take (length - omission.length)) ++ omission

/-- The words with single spaces between them. -/
def joinWords (ws : List (List Char)) : List Char := join [' '] ws

/-- The first `count` words, and the mark of an omission if there are more. -/
def truncateWords (count : Nat) (s : List Char) : List Char :=
  let ws := words s
  if ws.length ≤ count then joinWords ws else joinWords (ws.take count) ++ (' ' :: omission)

/-- The words on lines, continuing a line that has `used` characters; `started` tells whether
anything was written yet.  A word goes on a new line if the line would reach beyond `width` with it
and one more character. -/
def wrapFrom (width : Nat) (started : Bool) (used : Nat) : List (List Char) → List Char
  | [] => []
  | w :: ws =>
    if width < used + w.length + 1 then
      (if started then '\n' :: w else w) ++ wrapFrom width true w.length ws
    else if started then ' ' :: w ++ wrapFrom width true (used + 1 + w.length) ws
    else w ++ wrapFrom width true (used + w.length) ws

/-- The words of a text on lines of at most `width` characters, as far as words allow. -/
def wrap (width : Nat) (s : List Char) : List Char := wrapFrom width false 0 (words s)

/-- A run of spaces. -/
def spaces (n : Nat) : List Char := List.replicate n ' '

/-- The text with spaces behind it, up to `width` characters. -/
def padRight (width : Nat) (s : List Char) : List Char := s ++ spaces (width - s.length)

/-- The text with spaces in front of it, up to `width` characters. -/
def padLeft (width : Nat) (s : List Char) : List Char := spaces (width - s.length) ++ s

/-- The text in the middle of `width` characters; an odd space goes behind it. -/
def padBoth (width : Nat) (s : List Char) : List Char :=
  let pad := width - s.length
  spaces (pad / 2) ++ s ++ spaces (pad - pad / 2)

/-! ## Lines and paragraphs -/

/-- The break that stands for a line feed. -/
def lineBreak : List Char := "<br />".toList

/-- The text with line feeds alone at the ends of lines. -/
def plainLineEnds (s : List Char) : List Char := replace ['\r', '\n'] ['\n'] s

/-- The text with breaks for its line feeds. -/
def breakLines (s : List Char) : List Char := replace ['\n'] lineBreak s

/-- The parts of a text between two or more line feeds. -/
def paragraphs (s : List Char) : List (List Char) :=
  ((splitOn '\n' s).foldr place [[]]).map (join ['\n']) |>.filter (!·.isEmpty)
where
  /-- Puts a line in front of the first paragraph; an empty one starts a new paragraph there. -/
  place (line : List Char) (acc : List (List (List Char))) : List (List (List Char)) :=
    match acc with
    | [] => [[line]]
    | lines :: rest => if line.isEmpty then [] :: lines :: rest else (line :: lines) :: rest

/-! ## Gaps between tags -/

/-- The text without the blanks that stand between a `>` and a `<`. -/
def dropGaps : List Char → List Char
  | [] => []
  | c :: s =>
    if c = '>' && (s.dropWhile isBlank).head? == some '<' then
      c :: dropGaps (s.drop (s.takeWhile isBlank).length)
    else c :: dropGaps s
termination_by s => s.length
decreasing_by all_goals simp only [List.length_drop, List.length_cons]; omega

/-- The text without gaps and without blanks at its ends. -/
def spaceless (s : String) : String := String.ofList (trim (dropGaps s.toList))

end Stencil.Text
