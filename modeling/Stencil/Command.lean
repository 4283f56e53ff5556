import Stencil.Disk.Pattern
import Stencil.Disk
import Stencil.Library
import Stencil.Halt
import Stencil.Text.Quoted

/-!
# Commands

What the commands have in common: the files that they read, and the ways in which they fail.
-/

namespace Stencil

/-- What a file is for. -/
inductive FileRole where
  | config
  | context
  | template

/-- The role as it stands before a path in a message, if it is named there. -/
def FileRole.phrase : FileRole → String
  | config => "config file "
  | context => "context file "
  | template => ""

/-- Why a command fails. -/
inductive CommandFault where
  | unreadable (role : FileRole) (path : String) (fault : DiskFault)
  | unwritable (path : String) (fault : DiskFault)
  | noDirectory (fault : DiskFault)
  /-- A file whose extension names no known format. -/
  | unknownFormat (role : FileRole) (extension path : String)
  /-- A file that does not keep to its format. -/
  | malformed
  | pattern (fault : PatternFault) (position : Nat)
  | engine (e : Error)
  /-- An error of the engine and the line of the source that it points at. -/
  | engineAt (e : Error) (line : String)
  /-- A computation that was cut off. -/
  | exhausted

namespace CommandFault

/-- The fault in words. -/
def message : CommandFault → String
  | unreadable role path _ => "Failed to read " ++ role.phrase ++ Text.quoted path
  | unwritable path _ => "Failed to write " ++ Text.quoted path
  | noDirectory fault => fault.message
  | unknownFormat role extension path =>
    let kind := match role with
      | .config => "config"
      | .context => "context"
      | .template => "template"
    "Unsupported " ++ kind ++ " format '" ++ extension ++ "' for " ++ Text.quoted path
  | malformed => "Malformed file"
  | pattern fault position =>
    "Pattern syntax error near position " ++ toString position ++ ": " ++ fault.message
  | engine e => e.text
  | engineAt e line => e.text ++ "\n    | " ++ line
  | exhausted => "Too many references between templates"

/-- The causes of the fault in words, the nearest first. -/
def causes : CommandFault → List String
  | unreadable _ _ fault | unwritable _ fault => [fault.message]
  | engine e => e.causes
  | _ => []

/-- The error of a set, with the line that it points at if the set finds it. -/
def described (l : Library) (e : Error) : CommandFault :=
  match l.rawLine? e with
  | some line => engineAt e line
  | none => engine e

/-- What halted a computation with a set. -/
def ofHalt (l : Library) : Halt → CommandFault
  | .error e => described l e
  | .exhausted => exhausted

end CommandFault

end Stencil
