import Stencil.Command.Files
import Stencil.Token.Tokenize

/-!
# The command that lists tokens

Lists the tokens of a template file, one on a line, each with its place.
-/

namespace Stencil.Command

/-- A token on a line of its own: its place, and what it is. -/
def tokenLine (t : Token) : String :=
  toString t.position.line ++ ":" ++ toString t.position.column ++ " " ++
    match t.lexeme with
    | .text s => "text " ++ Text.quoted s
    | _ => t.description

/-- The tokens of a file, one on a line. -/
def tokenLines (disk : Disk) (path : String) (config : Option String) :
    Except CommandFault (List String) := do
  let settings ← settingsWith disk config []
  let source ← (disk.readText path).mapError (.unreadable .template path ·)
  let tokens ← (Token.tokenize settings.trimming path source).mapError .engine
  pure (tokens.map tokenLine)

end Stencil.Command
