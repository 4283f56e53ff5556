import Stencil.Text.Class

/-!
# Quoted texts

A text in double quotes, with escapes for quotes, backslashes and whatever has no glyph of its own.
It is the form in which messages and token listings show a text.
-/

namespace Stencil.Text

/-- The character of a digit below sixteen, in lower case. -/
def hexDigit (d : Nat) : Char :=
  if d < 10 then Char.ofNat (d + 0x30) else Char.ofNat (d + 0x57)

/-- The digits of `n` to base sixteen, in lower case, at least `width` of them. -/
def hex (width n : Nat) : List Char :=
  let ds := (Nat.toDigits 16 n)
  List.replicate (width - ds.length) '0' ++ ds

/-- A character as it stands in a quoted text. -/
def quotedChar (c : Char) : List Char :=
  if c = '"' then ['\\', '"']
  else if c = '\\' then ['\\', '\\']
  else if c = '\n' then ['\\', 'n']
  else if c = '\r' then ['\\', 'r']
  else if c = '\t' then ['\\', 't']
  else if c.toNat = 0 then ['\\', '0']
  else if isShownPlain c then [c]
  else ['\\', 'u', '\x7b'] ++ hex 1 c.toNat ++ ['\x7d']

/-- The text in quotes. -/
def quoted (s : String) : String :=
  String.ofList ('"' :: s.toList.flatMap quotedChar ++ ['"'])

end Stencil.Text
