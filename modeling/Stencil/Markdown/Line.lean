import Stencil.Text.Basic

/-!
# Lines

What is left of a line while the marks of containers are taken off it.  A tab reaches to the next
column that is a multiple of four, and a mark can take up a part of a tab.
-/

namespace Stencil.Markdown

/-- The end of a line from a column on. -/
structure Line where
  /-- The column of what is left. -/
  column : Nat := 0
  /-- The columns that are left of a tab. -/
  spare : Nat := 0
  rest : List Char
  /-- Whether a line feed follows. -/
  ended : Bool := true

namespace Line

/-- The text with a line feed alone at the end of each line.  A carriage return ends a line, too,
and so does one with a line feed behind it. -/
def plainEnds (s : List Char) : List Char :=
  (Text.replace ['\r', '\n'] ['\n'] s).map fun c => if c = '\r' then '\n' else c

/-- The lines of a text. -/
def all (s : List Char) : List Line :=
  let parts := Text.splitOn '\n' (plainEnds s)
  let done : List Line := parts.dropLast.map fun p => { rest := p }
  match parts.getLast? with
  | none | some [] => done
  | some last => done ++ [{ rest := last, ended := false }]

/-- The width of a tab in a column. -/
def tabWidth (column : Nat) : Nat := 4 - column % 4

/-- The columns that the spaces and tabs in front take up, from a column on. -/
def indentFrom (column : Nat) : List Char → Nat
  | ' ' :: s => 1 + indentFrom (column + 1) s
  | '\t' :: s => tabWidth column + indentFrom (column + tabWidth column) s
  | _ => 0

/-- How far the line is indented. -/
def indent (l : Line) : Nat := l.spare + indentFrom (l.column + l.spare) l.rest

/-- The line without its first `n` columns of indentation. -/
def outdent (l : Line) : (n : Nat) → Line
  | 0 => l
  | n + 1 =>
    match l.spare with
    | k + 1 => ({ l with column := l.column + 1, spare := k }).outdent n
    | 0 =>
      match l.rest with
      | ' ' :: s => ({ l with column := l.column + 1, rest := s }).outdent n
      | '\t' :: s =>
        ({ l with column := l.column + 1, spare := tabWidth l.column - 1, rest := s }).outdent n
      | _ => l

/-- The line without its indentation. -/
def flush (l : Line) : Line := l.outdent l.indent

/-- The line without its first `n` characters, which are no tabs. -/
def skip (l : Line) (n : Nat) : Line := { l with column := l.column + n, rest := l.rest.drop n }

/-- Whether nothing is left but blanks. -/
def isBlank (l : Line) : Bool :=
  l.rest.all fun c => c == ' ' || c == '\t' || c == '\x0b' || c == '\x0c'

/-- The text of the line, with spaces for what is left of a tab. -/
def text (l : Line) : List Char := List.replicate l.spare ' ' ++ l.rest

/-- The text of the line with its end. -/
def whole (l : Line) : List Char := if l.ended then l.text ++ ['\n'] else l.text

end Line

end Stencil.Markdown
