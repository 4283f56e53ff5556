import Stencil.Text.Property.Alphanumeric
import Stencil.Text.Property.Unprintable
import Stencil.Text.Property.Mark
import Stencil.Text.Property.Punctuation

/-!
# Character classes

The classes that the template language and its filters ask about.  Each is the Unicode property of
that name, and each test answers ASCII without a table.
-/

namespace Stencil.Text

/-- The ASCII letters. -/
def isAsciiLetter (c : Char) : Bool :=
  ('a' ≤ c && c ≤ 'z') || ('A' ≤ c && c ≤ 'Z')

/-- The ASCII digits. -/
def isAsciiDigit (c : Char) : Bool := '0' ≤ c && c ≤ '9'

/-- Letters, in the sense of the property `Alphabetic`. -/
def isAlphabetic (c : Char) : Bool :=
  if c.toNat < 0x80 then isAsciiLetter c else Property.alphabetic.has c.toNat

/-- Digits and other characters of a number category. -/
def isNumeric (c : Char) : Bool :=
  if c.toNat < 0x80 then isAsciiDigit c else Property.numeric.has c.toNat

/-- Letters and numbers. -/
def isAlphanumeric (c : Char) : Bool := isAlphabetic c || isNumeric c

/-- The ASCII punctuation and symbols. -/
def isAsciiPunctuation (c : Char) : Bool :=
  let n := c.toNat
  (0x21 ≤ n && n ≤ 0x2F) || (0x3A ≤ n && n ≤ 0x40) || (0x5B ≤ n && n ≤ 0x60) ||
    (0x7B ≤ n && n ≤ 0x7E)

/-- Punctuation and symbols. -/
def isPunctuation (c : Char) : Bool :=
  if c.toNat < 0x80 then isAsciiPunctuation c else Property.punctuation.has c.toNat

/-- Characters of the property `White_Space`. -/
def isBlank (c : Char) : Bool :=
  let n := c.toNat
  (9 ≤ n && n ≤ 13) || n == 0x20 || n == 0x85 || n == 0xA0 || n == 0x1680 ||
    (0x2000 ≤ n && n ≤ 0x200A) || n == 0x2028 || n == 0x2029 || n == 0x202F || n == 0x205F ||
    n == 0x3000

/-- The controls, `U+0000` to `U+001F` and `U+007F` to `U+009F`. -/
def isControl (c : Char) : Bool := c.toNat ≤ 0x1F || (0x7F ≤ c.toNat && c.toNat ≤ 0x9F)

/-- A character that starts a name: a letter or `_`. -/
def isNameStart (c : Char) : Bool := c == '_' || isAlphabetic c

/-- A character that continues a name: a letter, a number or `_`. -/
def isNameChar (c : Char) : Bool := c == '_' || isAlphanumeric c

/-- A character of a word, as word boundaries see it: letters, marks, decimal digits, connector
punctuation and join controls. -/
def isWordChar (c : Char) : Bool :=
  if c.toNat < 0x80 then isAsciiLetter c || isAsciiDigit c || c == '_'
  else isAlphabetic c || Property.wordMark.has c.toNat

/-- Whether a quoted text shows the character as itself. -/
def isShownPlain (c : Char) : Bool :=
  if c.toNat < 0x80 then 0x20 ≤ c.toNat && c.toNat < 0x7F
  else !Property.unprintable.has c.toNat && !Property.graphemeExtend.has c.toNat

/-- Whether `s` can name a variable. -/
def isName (s : List Char) : Bool :=
  match s with
  | [] => false
  | c :: cs => isNameStart c && cs.all isNameChar

theorem isNameChar_of_isNameStart {c : Char} (h : isNameStart c = true) : isNameChar c = true := by
  simp only [isNameStart, Bool.or_eq_true] at h
  simp only [isNameChar, isAlphanumeric, Bool.or_eq_true]
  exact h.elim Or.inl fun h => Or.inr (Or.inl h)

end Stencil.Text
