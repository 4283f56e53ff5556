/-!
# Positions

Where something stands in a template: its line and its column, both counted from one, the column in
characters.
-/

namespace Stencil

/-- A line and a column of some text. -/
structure Place where
  line : Nat := 1
  column : Nat := 1
deriving DecidableEq, Inhabited

namespace Place

/-- The place behind the character `c` that stands at `p`. -/
def step (p : Place) (c : Char) : Place :=
  if c = '\n' then ⟨p.line + 1, 1⟩ else ⟨p.line, p.column + 1⟩

/-- The place behind the text `s` that starts at `p`. -/
def after (p : Place) (s : List Char) : Place := s.foldl step p

@[simp] theorem after_nil (p : Place) : p.after [] = p := rfl

@[simp] theorem after_cons (p : Place) (c : Char) (s : List Char) :
    p.after (c :: s) = (p.step c).after s := rfl

end Place

/-- A place in a named template. -/
structure Position where
  template : String
  line : Nat
  column : Nat
deriving DecidableEq, Inhabited

namespace Position

/-- The position of the place `p` in the template `name`. -/
def of (name : String) (p : Place) : Position := ⟨name, p.line, p.column⟩

/-- The position in words. -/
def text (p : Position) : String :=
  p.template ++ " line " ++ toString p.line ++ ", column " ++ toString p.column

end Position

end Stencil
