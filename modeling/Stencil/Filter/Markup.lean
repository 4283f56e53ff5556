import Stencil.Text.Escape
import Stencil.Text.Layout
import Stencil.Text.Tags
import Stencil.Value.Basic

/-!
# Filters for markup
-/

namespace Stencil.Markup

/-- A string that is safe if `input` is. -/
def like (input : Value) (s : List Char) : Value :=
  if input.isSafe then .safe (String.ofList s) else .str (String.ofList s)

@[simp] theorem text_like (v : Value) (s : List Char) : (like v s).text.toList = s := by
  unfold like
  split <;> exact String.toList_ofList

@[simp] theorem isSafe_like (v : Value) (s : List Char) : (like v s).isSafe = v.isSafe := by
  unfold like
  split
  · rename_i h
    exact h.symm
  · rename_i h
    exact (Bool.eq_false_iff.mpr h).symm

theorem like_like (v : Value) (s t : List Char) : like (like v s) t = like v t := by
  rw [like, isSafe_like, ← like]

/-- The text of a value, escaped unless the value is safe. -/
def escapedText (v : Value) : String := if v.isSafe then v.text else Text.escapeHtml v.text

/-- The text without tags and without blanks at its ends. -/
def stripTags (v : Value) : Except RunFault Value :=
  match Text.stripTags v.text.toList with
  | some s => .ok (.str (String.ofList (Text.trim s)))
  | none => .error (.endlessStripping Text.maxPasses)

/-- The names in a list with commas. -/
def nameList (s : List Char) : List (List Char) :=
  ((Text.splitOn ',' s).map Text.trim).filter (!·.isEmpty)

/-- The text without tags that have one of the names in a list with commas. -/
def removeTags (v names : Value) : Except RunFault Value :=
  match nameList names.text.toList with
  | [] => .ok v
  | names =>
    match names.find? fun name => !Text.isTagName name with
    | some bad => .error (.tagName (String.ofList bad))
    | none =>
      match Text.removeTags names v.text.toList with
      | some s => .ok (like v s)
      | none => .error (.endlessStripping Text.maxPasses)

/-- The escaped text of a value with line feeds alone at the ends of lines. -/
def escapedLines (v : Value) : List Char := Text.plainLineEnds (escapedText v).toList

/-- The escaped text with breaks for its line feeds. -/
def lineBreaks (v : Value) : Value := .safe (String.ofList (Text.breakLines (escapedLines v)))

/-- The escaped text as paragraphs. -/
def paragraphs (v : Value) : Value :=
  let inner := Text.paragraphs (Text.trim (escapedLines v))
  let whole := inner.map fun p => "<p>".toList ++ Text.breakLines p ++ "</p>".toList
  .safe (String.ofList (Text.join ['\n', '\n'] whole))

end Stencil.Markup
