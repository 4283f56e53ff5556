import Stencil.Error.Read
import Stencil.Error.Run

/-!
# Errors

Everything that can go wrong, by the part of the engine that notices it.  An error holds its cause
as data; the wording is in `message` and `text`.
-/

namespace Stencil

/-- Why a template cannot be loaded. -/
inductive LoadFault where
  | noLoader
  | notInMemory
  | unfinished
  /-- A file that cannot be read, in the words of the file system. -/
  | file (reason : String)

/-- The fault in words. -/
def LoadFault.message : LoadFault → String
  | noLoader => "no template loader is configured"
  | notInMemory => "no such template in memory"
  | unfinished => "template is still being compiled"
  | file reason => reason

/-- The two kinds of things that are registered by name. -/
inductive Registered where
  | filter
  | tag

/-- The word for a kind. -/
def Registered.word : Registered → String
  | filter => "filter"
  | tag => "tag"

/-- Why a registration is refused. -/
inductive RegistryFault where
  | taken (kind : Registered) (name : String)
  | noneToReplace (kind : Registered) (name : String)
  | noneToBan (kind : Registered) (name : String)
  | banned (kind : Registered) (name : String)
  | lateBan (kind : Registered) (name set : String)

/-- The fault in words. -/
def RegistryFault.message : RegistryFault → String
  | taken kind name => kind.word ++ " '" ++ name ++ "' is already registered"
  | noneToReplace kind name =>
    "cannot replace " ++ kind.word ++ " '" ++ name ++ "', it does not exist"
  | noneToBan kind name => "cannot ban unknown " ++ kind.word ++ " '" ++ name ++ "'"
  | banned kind name => kind.word ++ " '" ++ name ++ "' is already banned"
  | lateBan kind name set =>
    "cannot ban " ++ kind.word ++ " '" ++ name ++ "' after the set '" ++ set ++
      "' has compiled a template"

/-- An error of the engine. -/
inductive Error where
  | lex (position : Position) (fault : LexFault)
  | parse (position : Position) (fault : ParseFault) (cause : Option Error)
  | execution (position : Option Position) (fault : RunFault) (cause : Option Error)
  | loader (name : String) (fault : LoadFault)
  | registration (fault : RegistryFault)
  /-- The sink of the output failed, with the reason it gave. -/
  | io (reason : String)
  /-- The sink of the output refused text. -/
  | write

namespace Error

/-- An error of a parser that has no further cause. -/
def atPosition (p : Position) (fault : ParseFault) : Error := parse p fault none

/-- An error of a render that is not located yet. -/
def run (fault : RunFault) : Error := execution none fault none

/-- The error, located at `p` if it is one of a render that has no position yet. -/
def located (p : Position) : Error → Error
  | execution none fault cause => execution (some p) fault cause
  | e => e

/-- Where the error is. -/
def position? : Error → Option Position
  | lex p _ => some p
  | parse p _ _ => some p
  | execution p _ _ => p
  | _ => none

/-- The error in words. -/
def text : Error → String
  | lex p fault => "[lex error] " ++ p.text ++ ": " ++ fault.message
  | parse p fault _ => "[parse error] " ++ p.text ++ ": " ++ fault.message
  | execution (some p) fault _ => "[execution error] " ++ p.text ++ ": " ++ fault.message
  | execution none fault _ => "[execution error] " ++ fault.message
  | loader name fault => "cannot load template '" ++ name ++ "': " ++ fault.message
  | registration fault => "registration error: " ++ fault.message
  | io reason => "IO error: " ++ reason
  | write => "failed to write template output"

/-- The error in words, without its position. -/
def message : Error → String
  | lex _ fault => fault.message
  | parse _ fault _ => fault.message
  | execution _ fault _ => fault.message
  | e => e.text

/-- The causes of the error in words, the nearest first. -/
def causes : Error → List String
  | parse _ _ (some e) | execution _ _ (some e) => e.text :: e.causes
  | io reason => [reason]
  | write => ["an error occurred when formatting an argument"]
  | _ => []

/-- Whether a template could not be found or read. -/
def isLoader : Error → Bool
  | loader _ _ => true
  | _ => false

end Error

end Stencil
