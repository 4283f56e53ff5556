import Stencil.Calendar.Read
import Stencil.Calendar.Show
import Stencil.Decimal.Written
import Stencil.Filter.Items
import Stencil.Filter.Kind
import Stencil.Filter.Markup
import Stencil.Markdown
import Stencil.Text.Case
import Stencil.Text.Layout
import Stencil.Text.Slug
import Stencil.Value.Convert

/-!
# Applying filters

What each filter of the language does with a value and its argument.  The filters that choose, those
for numbers and the one for dates are defined here, those for lists and for markup in modules of
their own.
-/

/-! ## Filters that choose -/

namespace Stencil.Choice

/-- The word for true, false or nil out of two or three words with commas between them. -/
def yesno (v : Value) (options : String) : Except RunFault Value :=
  let choose (yes no maybe : List Char) : Value :=
    .str (String.ofList (if v.isNil then maybe else if v.isTruthy then yes else no))
  match Text.splitOn ',' options.toList with
  | [yes, no] => .ok (choose yes no no)
  | [yes, no, maybe] => .ok (choose yes no maybe)
  | _ => .error (.choices options)

/-- How many things a value stands for: the length of a list or map, or a number. -/
def countOf : Value → Int
  | .seq items => items.length
  | .map entries => entries.length
  | v => v.toInteger

/-- The ending for one thing or for several, out of one or two endings with a comma between them. -/
def pluralize (v : Value) (options : String) : Except RunFault Value :=
  let choose (one many : List Char) : Value :=
    .str (String.ofList (if countOf v = 1 then one else many))
  match Text.splitOn ',' options.toList with
  | [one, many] => .ok (choose one many)
  | [many] => .ok (choose [] many)
  | _ => .error (.suffixes options)

end Stencil.Choice

/-! ## Filters for numbers -/

namespace Stencil.Numbers

/-- The sum of numbers, the two lists in a row, or the joined texts. -/
def add (a b : Value) : Except RunFault Value :=
  match a, b with
  | .int m, .int n => if Integer.fits (m + n) then .ok (.int (m + n)) else .error .sum
  | .int m, .float y => .ok (.float (Decimal.ofInteger m + y))
  | .float x, .int n => .ok (.float (x + Decimal.ofInteger n))
  | .float x, .float y => .ok (.float (x + y))
  | .seq s, .seq t => .ok (.seq (s ++ t))
  | a, b => .ok (.str (a.text ++ b.text))

/-- The most decimal places that are written. -/
def mostPlaces : Nat := 20

/-- The number with a fixed number of decimal places.  With a negative number of places, whole
numbers are written without any. -/
def floatFormat (v : Value) (places : Int) : Value :=
  match v.toFloat? with
  | none => .str ""
  | some x =>
    if places < 0 && x.isFinite && (Decimal.Binary.ofFloat x).isWhole then
      .str (Decimal.writtenWith 0 x)
    else .str (Decimal.writtenWith (min places.natAbs mostPlaces) x)

/-- Whether one integer divides another.  The least integer and -1 have no remainder, as their
quotient is too large. -/
def divisibleBy (v divisor : Value) : Except RunFault Value :=
  let n := divisor.toInteger
  if n = 0 then .error .divisionByZero
  else if !Integer.fits (v.toInteger.tdiv n) then .error .remainder
  else .ok (.bool (v.toInteger % n == 0))

end Stencil.Numbers

/-! ## The filter for dates -/

namespace Stencil.Dates

/-- The format of dates if none is given. -/
def plainDate : String := "%Y-%m-%d"

/-- The moment that a value names: a number of seconds, or a date in one of the usual forms. -/
def momentOf (v : Value) : Except RunFault Calendar.Moment :=
  match v with
  | .int n =>
    match Calendar.Moment.ofTimestamp? n with
    | some m => .ok m
    | none => .error (.timestamp n)
  | .str s | .safe s =>
    match Calendar.Moment.read? s.toList with
    | some m => .ok m
    | none => .error (.noDate s)
  | v => .error (.dateKind v.kind)

/-- The moment that a value names, in a format; nil is the empty text. -/
def date (v : Value) (format : String) : Except RunFault Value :=
  if v.isNil then .ok (.str "")
  else do
    let m ← momentOf v
    match m.format? format.toList with
    | some s => pure (.str (String.ofList s))
    | none => throw .dateFormat

end Stencil.Dates

/-! ## All filters -/

namespace Stencil.Filter

/-- The argument of a filter that needs one. -/
def required (arg : Option Value) : Except RunFault Value :=
  match arg with
  | some v => .ok v
  | none => .error .noArgument

/-- The argument of a filter that needs a number of things; a negative one counts as none. -/
def count (arg : Option Value) : Except RunFault Nat := do
  return (← required arg).toInteger.toNat

/-- A filter that changes the text of a value, which stays safe if it was. -/
def onText (f : List Char → List Char) (v : Value) : Value := Markup.like v (f v.text.toList)

@[simp] theorem text_onText (f : List Char → List Char) (v : Value) :
    (onText f v).text.toList = f v.text.toList := Markup.text_like v _

@[simp] theorem isSafe_onText (f : List Char → List Char) (v : Value) :
    (onText f v).isSafe = v.isSafe := Markup.isSafe_like v _

/-- Applies a filter. -/
def apply (f : Filter) (v : Value) (arg : Option Value) : Except RunFault Value := do
  match f with
  | safe => pure v.toSafe
  | escape => pure (.safe (Markup.escapedText v))
  | striptags => Markup.stripTags v
  | removetags => Markup.removeTags v (← required arg)
  | linebreaks => pure (Markup.paragraphs v)
  | linebreaksbr => pure (Markup.lineBreaks v)
  | escapejs => pure (.str (Text.escapeScript v.text))
  | markdown => pure (.safe (String.ofList (Markdown.toHtml v.text.toList)))
  | upper => pure (onText Text.upper v)
  | lower => pure (onText Text.lower v)
  | title => pure (onText Text.title v)
  | capfirst => pure (onText Text.capitalize v)
  | cut => do
    let part ← required arg
    pure (onText (Text.replace part.text.toList []) v)
  | truncatechars => return onText (Text.truncate (← count arg)) v
  | truncatewords => return onText (Text.truncateWords (← count arg)) v
  | wordcount => pure (.int (Text.words v.text.toList).length)
  | wordwrap => return onText (Text.wrap (← count arg)) v
  | center => return onText (Text.padBoth (← count arg)) v
  | ljust => return onText (Text.padRight (← count arg)) v
  | rjust => return onText (Text.padLeft (← count arg)) v
  | slugify => pure (.str (String.ofList (Text.slugify v.text.toList)))
  | urlencode => pure (.str (Text.percentEncode v.text))
  | length => pure (.int (v.length?.getD 0))
  | lengthIs => return .bool (v.length?.getD 0 == (← count arg))
  | first => pure (Items.first v)
  | last => pure (Items.last v)
  | join => pure (Items.join v arg)
  | slice => do Items.slice v (← required arg)
  | makeList => pure (Items.makeList v)
  | orDefault => do
    let other ← required arg
    pure (if v.isTruthy then v else other)
  | defaultIfNone => do
    let other ← required arg
    pure (if v.isNil then other else v)
  | yesno => Choice.yesno v ((arg.map Value.text).getD "yes,no,maybe")
  | pluralize => Choice.pluralize v ((arg.map Value.text).getD "s")
  | add => do Numbers.add v (← required arg)
  | integer => pure (.int v.toInteger)
  | float => pure (.float (v.toFloat?.getD 0.0))
  | floatformat => pure (Numbers.floatFormat v ((arg.map Value.toInteger).getD (-1)))
  | divisibleby => do Numbers.divisibleBy v (← required arg)
  | date => Dates.date v ((arg.map Value.text).getD Dates.plainDate)

end Stencil.Filter
