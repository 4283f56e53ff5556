import Stencil.Token

/-!
# Faults of reading

What can be wrong with the characters and with the tokens of a template.
-/

namespace Stencil

/-! ## Scanning -/

/-- A text that cannot be cut into tokens. -/
inductive LexFault where
  | unclosedTag
  | unclosedComment
  | brokenComment
  | unclosedVerbatim
  | unclosedString
  | brokenString
  | unknownEscape (c : Char)
  | unknownCharacter (c : Char)
  | nestedOpening (spelling : String)

namespace LexFault

/-- The fault in words. -/
def message : LexFault → String
  | unclosedTag => "unexpected end of template, tag is never closed"
  | unclosedComment => "comment is never closed"
  | brokenComment =>
    "comments must not span multiple lines, use \x7b% comment %\x7d instead"
  | unclosedVerbatim => "verbatim block is never closed"
  | unclosedString => "string literal is never closed"
  | brokenString => "newline in string literal"
  | unknownEscape c => "unknown escape sequence '\\" ++ toString c ++ "'"
  | unknownCharacter c => "unknown character '" ++ toString c ++ "'"
  | nestedOpening spelling => "unexpected '" ++ spelling ++ "' inside a tag"

end LexFault

/-! ## Parsing -/

/-- What a reader of arguments asked for and did not find. -/
inductive Wanted where
  | symbol (s : Symbol)
  | keyword (k : Keyword)
  | identifier
  | string
  | expression
  | filterName
  | nameOrIndex
  | assignment
  | cycleValue
  | firstofValue
  /-- An expression that nests no deeper than the limit. -/
  | shallower (limit : Nat)
  /-- Something that a tag of the host asked for, in its own words. -/
  | other (text : String)

namespace Wanted

/-- The demand in words. -/
def message : Wanted → String
  | symbol s => "expected '" ++ s.spelling ++ "'"
  | keyword k => "expected '" ++ k.spelling ++ "'"
  | identifier => "expected an identifier"
  | string => "expected a string"
  | expression => "expected an expression"
  | filterName => "expected a filter name"
  | nameOrIndex => "expected a name or an index after '.'"
  | assignment => "expected 'name=value' after 'with'"
  | cycleValue => "cycle needs at least one value"
  | firstofValue => "firstof needs at least one value"
  | shallower limit => "expression is nested deeper than " ++ toString limit ++ " levels"
  | other text => text

end Wanted

/-- Tokens that are no template. -/
inductive ParseFault where
  | unexpected (t : Token)
  | unexpectedInExpression (t : Token)
  | leftover (t : Token) (tag : String)
  | wanted (what : Wanted) (found : Option Token)
  | unclosedDelimiter (opening : Symbol)
  | wrongDelimiter (opening expected found : Symbol)
  | emptyOutput
  | noTagName
  | bannedTag (name : String)
  | unknownTag (name : String)
  | bannedFilter (name : String)
  | unknownFilter (name : String)
  | tooNested (limit : Nat)
  | unclosedConstruct (tag : String) (ends : List String)
  | blockTwice (name : String)
  | macroTwice (name : String)
  | cannotLoad (name reason : String)
  | integerRange (digits : String)
  | indexRange (digits : String)
  | parameterTwice (param tag : String)
  | parameterOrder (param : String)
  | endOfOtherBlock (found block : String)
  | secondParent
  | lateParent
  | cyclicInheritance (name : String)
  | cyclicImport (name : String)
  | noSuchExport (file name : String)
  | autoescapeMode (mode : String)
  | unknownTemplatetag (name : String)
  | dateFormat (format : String)

namespace ParseFault

/-- A name in single quotes. -/
def inQuotes (name : String) : String := "'" ++ name ++ "'"

/-- The fault in words. -/
def message : ParseFault → String
  | unexpected t => "unexpected " ++ t.description
  | unexpectedInExpression t => "unexpected " ++ t.description ++ " in expression"
  | leftover t tag => "unexpected " ++ t.description ++ " in '" ++ tag ++ "'"
  | wanted what (some t) => what.message ++ ", found " ++ t.description
  | wanted what none => what.message ++ ", found end of tag"
  | unclosedDelimiter opening => "'" ++ opening.spelling ++ "' is never closed"
  | wrongDelimiter opening expected found =>
    "expected '" ++ expected.spelling ++ "' to close '" ++ opening.spelling ++ "', found '" ++
      found.spelling ++ "'"
  | emptyOutput => "empty variable tag"
  | noTagName => "expected a tag name after '\x7b%'"
  | bannedTag name => "usage of tag '" ++ name ++ "' is not allowed (sandbox restriction active)"
  | unknownTag name => "tag '" ++ name ++ "' does not exist"
  | bannedFilter name =>
    "usage of filter '" ++ name ++ "' is not allowed (sandbox restriction active)"
  | unknownFilter name => "filter '" ++ name ++ "' does not exist"
  | tooNested limit => "tags are nested deeper than " ++ toString limit ++ " levels"
  | unclosedConstruct tag ends =>
    "'" ++ tag ++ "' is never closed, expected " ++ " or ".intercalate (ends.map inQuotes)
  | blockTwice name => "block '" ++ name ++ "' is defined more than once"
  | macroTwice name => "macro '" ++ name ++ "' is exported more than once"
  | cannotLoad name reason => "cannot load template '" ++ name ++ "': " ++ reason
  | integerRange ds => "integer literal '" ++ ds ++ "' is out of range"
  | indexRange ds => "index '" ++ ds ++ "' is out of range"
  | parameterTwice param tag => "duplicate parameter '" ++ param ++ "' in macro '" ++ tag ++ "'"
  | parameterOrder param =>
    "parameter '" ++ param ++ "' without a default follows one with a default"
  | endOfOtherBlock found block =>
    "endblock '" ++ found ++ "' does not match block '" ++ block ++ "'"
  | secondParent => "a template can only extend one parent"
  | lateParent => "extends must be the first tag in the template"
  | cyclicInheritance name => "cyclic inheritance: '" ++ name ++ "' is already being compiled"
  | cyclicImport name => "cyclic import: '" ++ name ++ "' is already being compiled"
  | noSuchExport file name => "'" ++ file ++ "' does not export a macro named '" ++ name ++ "'"
  | autoescapeMode mode => "autoescape expects 'on' or 'off', got '" ++ mode ++ "'"
  | unknownTemplatetag name => "unknown templatetag '" ++ name ++ "'"
  | dateFormat format => "invalid date format '" ++ format ++ "'"

end ParseFault

end Stencil
