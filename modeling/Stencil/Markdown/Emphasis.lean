import Stencil.Markdown.Inline

/-!
# Emphasis

Stars, underscores and tildes come in runs.  A run can open and close emphasis, and a closing run
takes as many marks as it can from the nearest run that fits.  Marks without a partner are text.
-/

namespace Stencil.Markdown

/-- A run of marks. -/
structure Run where
  mark : Char
  /-- How many marks are left. -/
  count : Nat
  /-- How many marks the run has in the source. -/
  length : Nat
  opens : Bool
  closes : Bool

/-- A piece of a paragraph before emphasis is settled. -/
inductive Piece where
  | inline (i : Inline)
  | run (r : Run)

namespace Run

/-- The marks that are left, as text. -/
def text (r : Run) : Inline := .text (List.replicate r.count r.mark)

/-- Whether `closer` can close what `opener` opens.  Runs of tildes must be equally long.  Where a
run could do both, the lengths of the two must not add up to a multiple of three, unless both are
one. -/
def pairs (opener closer : Run) : Bool :=
  opener.mark == closer.mark &&
    (if closer.mark = '~' then opener.length == closer.length else true) &&
    ((!(closer.opens && closer.closes) && !(opener.opens && opener.closes)) ||
      (opener.length + closer.length) % 3 != 0 || closer.length % 3 == 0)

/-- The body between `n` marks on either side; two marks are stronger than one, and the stronger
emphasis is inside. -/
def wrap (mark : Char) (n : Nat) (body : List Inline) : List Inline :=
  match n with
  | 0 => body
  | 1 => if mark = '~' then [.struck body] else [.emphasis body]
  | n + 2 => wrap mark n (if mark = '~' then [.struck body] else [.strong body])

end Run

/-- A run that is still open, and what follows it, last first. -/
structure Opened where
  run : Run
  body : List Inline

namespace Emphasis

/-- Content in which some runs are open: what stands before the first of them, last first, and the
open runs, the innermost first. -/
structure Settling where
  base : List Inline := []
  openRuns : List Opened := []

/-- Adds content behind everything else; `is` stands last first. -/
def Settling.push (s : Settling) (is : List Inline) : Settling :=
  match s.openRuns with
  | [] => { s with base := is ++ s.base }
  | o :: os => { s with openRuns := { o with body := is ++ o.body } :: os }

/-- Gives up the innermost open run: its marks are text. -/
def Settling.abandon (s : Settling) : Settling :=
  match s.openRuns with
  | [] => s
  | o :: os => ({ s with openRuns := os }).push (o.body ++ [o.run.text])

/-- Gives up a number of open runs. -/
def Settling.abandonMany (s : Settling) : Nat → Settling
  | 0 => s
  | n + 1 => s.abandon.abandonMany n

/-- Lets `r` close the innermost open run, of which it takes as many marks as both have. -/
def Settling.close (s : Settling) (r : Run) : Settling :=
  match s.openRuns with
  | [] => s
  | o :: os =>
    let n := min r.count o.run.count
    let wrapped := Run.wrap r.mark n o.body.reverse
    if n < o.run.count then
      let run := { o.run with count := o.run.count - n }
      { s with openRuns := ⟨run, wrapped.reverse⟩ :: os }
    else ({ s with openRuns := os }).push wrapped.reverse

/-- Adds a run: as long as it finds partners it closes them, and what is left of it opens a run or
is text.  Each round uses up at least one mark, so `fuel` is the number of marks. -/
def Settling.addRun : (fuel : Nat) → Settling → Run → Settling
  | 0, s, _ => s
  | fuel + 1, s, r =>
    match (if r.closes then s.openRuns.findIdx? fun o => o.run.pairs r else none) with
    | some i =>
      let s := s.abandonMany i
      let n := match s.openRuns with
        | [] => r.count
        | o :: _ => min r.count o.run.count
      let s := s.close r
      if n < r.count then s.addRun fuel { r with count := r.count - n } else s
    | none =>
      if r.opens then { s with openRuns := ⟨r, []⟩ :: s.openRuns } else s.push [r.text]

/-- Adds a piece. -/
def Settling.add (s : Settling) (p : Piece) : Settling :=
  match p with
  | .inline i => s.push [i]
  | .run r => s.addRun r.count r

/-- The content of the pieces, in order. -/
def settle (pieces : List Piece) : List Inline :=
  let s := pieces.foldl Settling.add {}
  (s.abandonMany s.openRuns.length).base.reverse

end Emphasis

end Stencil.Markdown
