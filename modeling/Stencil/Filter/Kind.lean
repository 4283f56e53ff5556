/-!
# The filters of the language

A filter turns a value and an optional argument into a value.  The language has the filters listed
here; a host can add filters of its own, which are known by a key.
-/

namespace Stencil

/-- The built-in filters. -/
inductive Filter where
  | safe | escape | striptags | removetags | linebreaks | linebreaksbr | escapejs | markdown
  | upper | lower | title | capfirst | cut | truncatechars | truncatewords | wordcount | wordwrap
  | center | ljust | rjust | slugify | urlencode
  | length | lengthIs | first | last | join | slice | makeList
  | orDefault | defaultIfNone | yesno | pluralize
  | add | integer | float | floatformat | divisibleby
  | date
deriving DecidableEq, Inhabited

namespace Filter

/-- All built-in filters. -/
def all : List Filter :=
  [safe, escape, striptags, removetags, linebreaks, linebreaksbr, escapejs, markdown,
   upper, lower, title, capfirst, cut, truncatechars, truncatewords, wordcount, wordwrap,
   center, ljust, rjust, slugify, urlencode,
   length, lengthIs, first, last, join, slice, makeList,
   orDefault, defaultIfNone, yesno, pluralize,
   add, integer, float, floatformat, divisibleby,
   date]

/-- The name under which templates call a filter. -/
def name : Filter → String
  | safe => "safe"
  | escape => "escape"
  | striptags => "striptags"
  | removetags => "removetags"
  | linebreaks => "linebreaks"
  | linebreaksbr => "linebreaksbr"
  | escapejs => "escapejs"
  | markdown => "markdown"
  | upper => "upper"
  | lower => "lower"
  | title => "title"
  | capfirst => "capfirst"
  | cut => "cut"
  | truncatechars => "truncatechars"
  | truncatewords => "truncatewords"
  | wordcount => "wordcount"
  | wordwrap => "wordwrap"
  | center => "center"
  | ljust => "ljust"
  | rjust => "rjust"
  | slugify => "slugify"
  | urlencode => "urlencode"
  | length => "length"
  | lengthIs => "length_is"
  | first => "first"
  | last => "last"
  | join => "join"
  | slice => "slice"
  | makeList => "make_list"
  | orDefault => "default"
  | defaultIfNone => "default_if_none"
  | yesno => "yesno"
  | pluralize => "pluralize"
  | add => "add"
  | integer => "integer"
  | float => "float"
  | floatformat => "floatformat"
  | divisibleby => "divisibleby"
  | date => "date"

end Filter

/-- A filter as a registry holds it. -/
inductive FilterRef where
  | builtin (f : Filter)
  /-- A filter of the host, by its key. -/
  | custom (key : String)
deriving DecidableEq, Inhabited

end Stencil
