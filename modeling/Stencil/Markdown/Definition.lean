import Stencil.Markdown.Scan

/-!
# Definitions of links

A paragraph can begin with definitions: a label, a destination and perhaps a title, each definition
on lines of its own.
-/

namespace Stencil.Markdown

/-- A definition of a link: the label in its normal form, and where it leads. -/
abbrev Definition := List Char × Destination

namespace Definition

/-- Takes the end of a line, with blanks in front of it. -/
def lineEnd : Reader Unit := do
  let _ ← Reader.run isTrailing
  match ← get with
  | [] => pure ()
  | '\n' :: s => set s
  | _ => Reader.refuse

/-- Takes a title on its own or behind a destination, up to the end of its line. -/
def wholeTitle : Reader (List Char) := do
  let gap ← Reader.run isGap
  if gap.isEmpty then Reader.refuse
  let t ← title
  lineEnd
  pure t

/-- Takes a definition. -/
def read : Reader Definition := do
  let name ← label
  Reader.expect ':'
  let _ ← Reader.run isGap
  let angled := (← Reader.peek?) == some '<'
  let address ← target
  if address.isEmpty && !angled then Reader.refuse
  let s ← get
  match wholeTitle s with
  | some (t, rest) => do
    set rest
    pure (normalLabel name, ⟨unescape address, unescape t⟩)
  | none => do
    lineEnd
    pure (normalLabel name, ⟨unescape address, []⟩)

/-- The definitions at the beginning of a paragraph, and what follows them.  Each definition takes
at least one character, so `fuel` is the length. -/
def leadingFrom : (fuel : Nat) → List Char → List Definition × List Char
  | 0, s => ([], s)
  | fuel + 1, s =>
    match read s with
    | some (d, rest) =>
      let (ds, rest) := leadingFrom fuel rest
      (d :: ds, rest)
    | none => ([], s)

/-- The definitions at the beginning of a paragraph, and what follows them. -/
def leading (s : List Char) : List Definition × List Char := leadingFrom s.length s

end Definition

end Stencil.Markdown
