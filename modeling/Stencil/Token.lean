import Stencil.Position

/-!
# Tokens

A template is a sequence of texts and tags.  A text is one token; a tag is a token that opens it,
the tokens of its content, and a token that closes it.
-/

namespace Stencil

/-- The words that cannot name a variable. -/
inductive Keyword where
  | kwIn | kwAnd | kwOr | kwNot | kwTrue | kwFalse | kwAs | kwExport
deriving DecidableEq, Inhabited

namespace Keyword

/-- All keywords. -/
def all : List Keyword := [kwIn, kwAnd, kwOr, kwNot, kwTrue, kwFalse, kwAs, kwExport]

/-- How a keyword is written. -/
def spelling : Keyword → String
  | kwIn => "in"
  | kwAnd => "and"
  | kwOr => "or"
  | kwNot => "not"
  | kwTrue => "true"
  | kwFalse => "false"
  | kwAs => "as"
  | kwExport => "export"

/-- The keyword that is written so. -/
def ofSpelling? (s : String) : Option Keyword := all.find? fun k => k.spelling == s

end Keyword

/-- The marks of the language: the four delimiters of tags, and operators and separators. -/
inductive Symbol where
  | openOutput | closeOutput | openTag | closeTag
  | equalEqual | greaterEqual | lessEqual | andAnd | orOr | bangEqual | lessGreater | colonColon
  | openParen | closeParen | plus | minus | star | less | greater | slash | caret | comma | dot
  | bang | bar | colon | equal | percent | openBracket | closeBracket
deriving DecidableEq, Inhabited

namespace Symbol

/-- How a symbol is written. -/
def spelling : Symbol → String
  | openOutput => "\x7b\x7b"
  | closeOutput => "\x7d\x7d"
  | openTag => "\x7b%"
  | closeTag => "%\x7d"
  | equalEqual => "=="
  | greaterEqual => ">="
  | lessEqual => "<="
  | andAnd => "&&"
  | orOr => "||"
  | bangEqual => "!="
  | lessGreater => "<>"
  | colonColon => "::"
  | openParen => "("
  | closeParen => ")"
  | plus => "+"
  | minus => "-"
  | star => "*"
  | less => "<"
  | greater => ">"
  | slash => "/"
  | caret => "^"
  | comma => ","
  | dot => "."
  | bang => "!"
  | bar => "|"
  | colon => ":"
  | equal => "="
  | percent => "%"
  | openBracket => "["
  | closeBracket => "]"

/-- Whether the symbol opens a tag. -/
def opens : Symbol → Bool
  | openOutput | openTag => true
  | _ => false

/-- Whether the symbol closes a tag. -/
def closes : Symbol → Bool
  | closeOutput | closeTag => true
  | _ => false

end Symbol

/-- What a token is, and what it says. -/
inductive Lexeme where
  /-- Text outside of tags. -/
  | text (s : String)
  | keyword (k : Keyword)
  | identifier (name : String)
  /-- A quoted string, its escapes resolved. -/
  | string (s : String)
  /-- A run of digits. -/
  | number (digits : String)
  | symbol (s : Symbol)
deriving DecidableEq, Inhabited

namespace Lexeme

/-- What a token says, without what it is. -/
def value : Lexeme → String
  | text s | identifier s | string s | number s => s
  | keyword k => k.spelling
  | symbol s => s.spelling

/-- The words for a token in messages. -/
def description : Lexeme → String
  | text _ => "text"
  | keyword k => "keyword '" ++ k.spelling ++ "'"
  | identifier name => "identifier '" ++ name ++ "'"
  | string s => "string \"" ++ s ++ "\""
  | number ds => "number '" ++ ds ++ "'"
  | symbol s => "'" ++ s.spelling ++ "'"

end Lexeme

/-- A token and where it starts. -/
structure Token where
  lexeme : Lexeme
  position : Position
  /-- Whether a delimiter was written with the mark that trims the text beside it. -/
  trims : Bool := false
deriving DecidableEq, Inhabited

namespace Token

/-- What the token says. -/
def value (t : Token) : String := t.lexeme.value

/-- The words for the token in messages. -/
def description (t : Token) : String := t.lexeme.description

/-- Whether the token is the symbol `s`. -/
def isSymbol (t : Token) (s : Symbol) : Bool := t.lexeme == .symbol s

/-- Whether the token is the keyword `k`. -/
def isKeyword (t : Token) (k : Keyword) : Bool := t.lexeme == .keyword k

/-- Whether the token closes a tag. -/
def closes (t : Token) : Bool :=
  match t.lexeme with
  | .symbol s => s.closes
  | _ => false

/-- The name, if the token is an identifier. -/
def name? (t : Token) : Option String :=
  match t.lexeme with
  | .identifier name => some name
  | _ => none

end Token

end Stencil
