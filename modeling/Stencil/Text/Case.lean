import Stencil.Text.CaseRule
import Stencil.Text.Class
import Stencil.Text.Property.Casing

/-!
# Upper and lower case

The full case mappings: one character can become several, and a capital sigma at the end of a word
becomes a final sigma.
-/

namespace Stencil.Text

/-- The form that `rules` and the longer forms `long` give `c`, which is `c` itself where neither
says anything. -/
def mapCase (rules : List CaseRule) (long : List (Nat × List Nat)) (c : Char) : List Char :=
  match long.find? fun e => e.1 == c.toNat with
  | some (_, cs) => cs.map Char.ofNat
  | none =>
    match rules.find? fun r => r.covers c.toNat with
    | some r => [Char.ofNat (r.map c.toNat)]
    | none => [c]

/-- The upper-case form of a character. -/
def upperChar (c : Char) : List Char :=
  if c.toNat < 0x80 then [c.toUpper] else mapCase CaseRule.upper CaseRule.upperLong c

/-- The lower-case form of a character on its own. -/
def lowerChar (c : Char) : List Char :=
  if c.toNat < 0x80 then [c.toLower] else mapCase CaseRule.lower CaseRule.lowerLong c

/-- The upper-case form of a text. -/
def upper (s : List Char) : List Char := s.flatMap upperChar

/-- Whether the first character that case rules do not look through is cased. -/
def facesCased (s : List Char) : Bool :=
  match s.dropWhile fun c => Property.caseIgnorable.has c.toNat with
  | [] => false
  | c :: _ => Property.cased.has c.toNat

/-- The lower-case form of `s` standing after the reversed text `before`. -/
def lowerAfter (before : List Char) : List Char → List Char
  | [] => []
  | c :: cs =>
    if c = 'Σ' then
      (if facesCased before && !facesCased cs then 'ς' else 'σ') :: lowerAfter (c :: before) cs
    else lowerChar c ++ lowerAfter (c :: before) cs

/-- The lower-case form of a text.  A capital sigma that ends a word becomes a final sigma. -/
def lower (s : List Char) : List Char := lowerAfter [] s

/-- Capitalizes words; `inWord` tells whether the text continues a word.  An apostrophe is part of
a word. -/
def titleFrom (inWord : Bool) : List Char → List Char
  | [] => []
  | c :: s =>
    (if inWord then lowerChar c else upperChar c) ++ titleFrom (isAlphanumeric c || c == '\'') s

/-- The text with each word capitalized. -/
def title (s : List Char) : List Char := titleFrom false s

/-- The text with its first character in upper case. -/
def capitalize : List Char → List Char
  | [] => []
  | c :: s => upperChar c ++ s

end Stencil.Text
