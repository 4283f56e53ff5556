import Stencil.Command.Files
import Stencil.Library.Compile

/-!
# The command that checks

Compiles every template below a directory whose path fits one of several patterns, and reports those
that cannot be compiled.
-/

namespace Stencil.Command

/-- The outcome of a check. -/
structure CheckReport where
  /-- How many templates were compiled. -/
  checked : Nat := 0
  /-- The templates that cannot be compiled, and why. -/
  failures : List (String × String) := []

/-- Whether every template can be compiled. -/
def CheckReport.isOk (r : CheckReport) : Bool := r.failures.isEmpty

/-- The pattern of templates when none is given. -/
def defaultPattern : String := "**/*.html"

/-- The patterns that are spelled, or the default one. -/
def readPatterns (patterns : List String) : Except CommandFault (List Pattern) :=
  (if patterns.isEmpty then [defaultPattern] else patterns).mapM fun p =>
    (Pattern.read p).mapError fun fault => .pattern fault.1 fault.2

/-- The report with the template at a path compiled, and the set after that. -/
def checkOne (state : CheckReport × Library) (path : String) : CheckReport × Library :=
  let (report, library) := state
  let checked := report.checked + 1
  match (Library.fromFile (Loader.nameOf path)).run library with
  | (.ok _, library) => ({ report with checked }, library)
  | (.error h, library) =>
    let failure := (path, (CommandFault.ofHalt library h).message)
    (⟨checked, report.failures ++ [failure]⟩, library)

/-- Checks the templates below `dir`. -/
def check (disk : Disk) (dir : String) (patterns : List String) (config : Option String) :
    Except CommandFault CheckReport := do
  let patterns ← readPatterns patterns
  let settings ← settingsWith disk config [dir]
  let library ← (Library.ofSettings disk "check" settings).mapError .engine
  let paths := (disk.files dir).filter fun path => patterns.any (Pattern.fits · path.toList)
  pure (paths.foldl checkOne ({}, library)).1

end Stencil.Command
