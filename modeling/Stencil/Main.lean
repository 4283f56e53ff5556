import Stencil.Command.Check
import Stencil.Command.Line
import Stencil.Command.Tokens
import Std.Time.DateTime.Timestamp

/-!
# The program

Reads the files below the working directory, runs the command of the command line on them, and
prints or writes what comes of it.
-/

namespace Stencil.Main

/-- How deep directories are read. -/
def maxDepth : Nat := 64

/-- A file or directory of the system.  A link is followed only to a file. -/
def readEntry : (fuel : Nat) → IO.FS.DirEntry → IO (Option Entry)
  | 0, _ => pure none
  | fuel + 1, e => do
    try
      if ← e.path.isDir then
        if (← e.path.symlinkMetadata).type matches .symlink then return none
        let inner ← (← e.path.readDir).toList.filterMapM fun e => do
          return (← readEntry fuel e).map fun entry => (e.fileName, entry)
        return some (.directory inner)
      else return some (.file (← IO.FS.readBinFile e.path))
    catch _ => return none

/-- The parts of a path. -/
def namesOf (path : String) : List String :=
  ((Path.parts path).1.map String.ofList).filter (!·.isEmpty)

/-- The entries with `entry` below the directories with the given names. -/
def plant (entry : Entry) : List String → List (String × Entry)
  | [] =>
    match entry with
    | .directory entries => entries
    | .file _ => []
  | name :: names =>
    match names with
    | [] => [(name, entry)]
    | _ => [(name, .directory (plant entry names))]

/-- The files below the working directory. -/
def readDisk : IO Disk := do
  let here ← IO.currentDir
  let names := namesOf here.toString
  let entry ← readEntry maxDepth ⟨here, "."⟩
  return ⟨plant (entry.getD (.directory [])) names, names⟩

/-- A host that adds nothing to the language, at the present time. -/
def readHost : IO Host := do
  let now ← Std.Time.Timestamp.now
  return .bare ((Calendar.Moment.ofTimestamp? now.toSecondsSinceUnixEpoch.val).getD default)

/-- Prints a fault with its causes. -/
def printFault (message : String) (causes : List String) : IO Unit := do
  IO.eprintln ("Error: " ++ message)
  if !causes.isEmpty then
    IO.eprintln "\nCaused by:"
    causes.forM fun cause => IO.eprintln ("    " ++ cause)

/-- Puts rendered text into a file of the system. -/
def writeFile (path text : String) : IO Unit := do
  match Path.parent? path with
  | some dir => if !dir.isEmpty then IO.FS.createDirAll dir
  | none => pure ()
  IO.FS.writeFile path text

/-- Prints the outcome of a check. -/
def printReport (r : Command.CheckReport) : IO UInt32 := do
  r.failures.forM fun f => IO.println ("  " ++ f.1 ++ ": " ++ f.2)
  if r.isOk then
    IO.println ("Checked " ++ toString r.checked ++ " templates")
    return 0
  else
    printFault
      (toString r.failures.length ++ " of " ++ toString r.checked ++
        " templates failed to compile") []
    return 1

/-- Runs a task on the files of the system. -/
def runTask (task : Command.Task) : IO UInt32 := do
  let disk ← readDisk
  let failed (f : CommandFault) : IO UInt32 := do
    printFault f.message f.causes
    return 1
  match task with
  | .version => do
    IO.println "stencil version 0.1.0"
    return 0
  | .tokens file config =>
    match Command.tokenLines disk file config with
    | .ok lines => do
      lines.forM IO.println
      return 0
    | .error f => failed f
  | .check dir patterns config =>
    match Command.check disk dir patterns config with
    | .ok report => printReport report
    | .error f => failed f
  | .render request =>
    match request.run (← readHost) disk with
    | .error f => failed f
    | .ok (text, _) => do
      match request.output with
      | some path => writeFile path text
      | none => IO.print text
      return 0

end Stencil.Main

open Stencil in
/-- Runs the command of the command line. -/
def main (args : List String) : IO UInt32 :=
  match Command.Words.read args >>= Command.Words.task with
  | .ok task => Main.runTask task
  | .error f => do
    IO.eprintln ("error: " ++ f.message)
    return 2
