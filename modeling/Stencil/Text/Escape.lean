import Stencil.Text.Class
import Stencil.Text.Quoted

/-!
# Escapes

Texts written so that they are safe in a page, in a script or in an address.  Each encoding goes
through the text once, character by character.
-/

namespace Stencil.Text

/-- A character as it is written in a page. -/
def escapeHtmlChar (c : Char) : List Char :=
  if c = '&' then "&amp;".toList
  else if c = '<' then "&lt;".toList
  else if c = '>' then "&gt;".toList
  else if c = '"' then "&quot;".toList
  else if c = '\'' then "&#39;".toList
  else [c]

/-- A text as it is written in a page. -/
def escapeHtml (s : String) : String := String.ofList (s.toList.flatMap escapeHtmlChar)

/-- The digit of a number below sixteen, in upper case. -/
def upperHexDigit (d : Nat) : Char :=
  if d < 10 then Char.ofNat (d + 0x30) else Char.ofNat (d + 0x37)

/-- The lowest four digits of a number to base sixteen, in upper case. -/
def upperHex4 (n : Nat) : List Char :=
  [upperHexDigit (n / 4096 % 16), upperHexDigit (n / 256 % 16), upperHexDigit (n / 16 % 16),
    upperHexDigit (n % 16)]

/-- Whether a character is written as an escape in a script. -/
def isScriptSpecial (c : Char) : Bool :=
  c == '\\' || c == '\'' || c == '"' || c == '<' || c == '>' || c == '&' || c == '=' || c == '-' ||
    c == ';' || c == '\x60' || c == '\u2028' || c == '\u2029' || isControl c

/-- A character as it is written in a script. -/
def escapeScriptChar (c : Char) : List Char :=
  if isScriptSpecial c then '\\' :: 'u' :: upperHex4 c.toNat else [c]

/-- A text as it is written in a script. -/
def escapeScript (s : String) : String := String.ofList (s.toList.flatMap escapeScriptChar)

/-- Whether a byte stands for itself in an address. -/
def isAddressByte (b : UInt8) : Bool :=
  let c := Char.ofNat b.toNat
  b < 0x80 && (isAsciiLetter c || isAsciiDigit c || c == '-' || c == '_' || c == '.' || c == '~' ||
    c == '/')

/-- A byte as it is written in an address. -/
def percentByte (b : UInt8) : List Char :=
  if isAddressByte b then [Char.ofNat b.toNat]
  else ['%', upperHexDigit (b.toNat / 16), upperHexDigit (b.toNat % 16)]

/-- A text as it is written in an address, byte by byte. -/
def percentEncode (s : String) : String :=
  String.ofList (s.toUTF8.toList.flatMap percentByte)

end Stencil.Text
