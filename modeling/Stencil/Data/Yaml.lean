import Stencil.Data.Yaml.Flow

/-!
# YAML

Reading one document in the everyday part of YAML: records and lists by indentation, brackets,
quoted, plain and block texts, and comments.  Anchors, aliases, tags and directives are refused.
-/

namespace Stencil.Yaml

/-- The lines that are left. -/
abbrev Lines := List (List Char)

/-- How many spaces stand in front. -/
def indent (line : List Char) : Nat := (line.takeWhile (· == ' ')).length

/-- The line without the spaces in front. -/
def content (line : List Char) : List Char := line.dropWhile (· == ' ')

/-- Whether a line holds nothing but blanks or a comment. -/
def isIdle (line : List Char) : Bool :=
  match line.dropWhile isGap with
  | [] | '#' :: _ => true
  | _ => false

/-- The lines without idle ones in front. -/
def dropIdle (lines : Lines) : Lines := lines.dropWhile isIdle

/-- Whether a text is empty or a comment. -/
def isRest (s : List Char) : Bool :=
  match s.dropWhile isGap with
  | [] | '#' :: _ => true
  | _ => false

/-- The part of a plain scalar that stands in front of a comment. -/
def beforeComment : (previous : Char) → List Char → List Char
  | _, [] => []
  | previous, c :: s => if c = '#' && isGap previous then [] else c :: beforeComment c s

/-- Splits a line behind a plain key; `acc` is what was taken, reversed. -/
def plainKey? (acc : List Char) : List Char → Option (List Char × List Char)
  | [] => none
  | ':' :: [] => some (acc.reverse, [])
  | ':' :: c :: s => if isGap c then some (acc.reverse, c :: s) else plainKey? (':' :: acc) (c :: s)
  | '#' :: s => if acc.head?.any isGap then none else plainKey? ('#' :: acc) s
  | c :: s => plainKey? (c :: acc) s

/-- The key at the front of a line, and what follows its colon. -/
def key? (s : List Char) : Option (List Char × List Char) :=
  match s with
  | '"' :: _ | '\'' :: _ =>
    match quoted? s with
    | some (some key, rest) =>
      match rest.dropWhile isGap with
      | [':'] => some (key, [])
      | ':' :: c :: rest => if isGap c then some (key, c :: rest) else none
      | _ => none
    | _ => none
  | c :: _ =>
    if startsPlain c then (plainKey? [] s).map fun (key, rest) => (Text.trimEnd key, rest) else none
  | [] => none

/-- Whether a line is an item of a list. -/
def isItem (s : List Char) : Bool :=
  match s with
  | ['-'] => true
  | '-' :: c :: _ => isGap c
  | _ => false

/-- The lines of a text. -/
def linesOf (s : List Char) : Lines :=
  (Text.splitOn '\n' s).map fun line => if line.getLast? == some '\r' then line.dropLast else line

/-- Runs a reader on what is left of a line and the lines behind it.  Nothing but a comment may
follow on the line where it ends. -/
def spanning {α : Type} (r : Reader α) (s : List Char) (lines : Lines) : Option (α × Lines) := do
  let (a, rest) ← r (Text.join ['\n'] (s :: lines))
  match linesOf rest with
  | [] => pure (a, [])
  | line :: lines => if isRest line then pure (a, lines) else none

/-! ## Texts on several lines -/

/-- Takes the lines that continue a plain scalar: those deeper than `above`. -/
def plainLines (above : Int) : (skipped : Nat) → Lines → Option (List Char × Lines)
  | _, [] => some ([], [])
  | skipped, line :: lines =>
    if (line.dropWhile isGap).isEmpty then
      match plainLines above (skipped + 1) lines with
      | some ([], _) => some ([], line :: lines)
      | r => r
    else if (indent line : Int) ≤ above || isIdle line then some ([], line :: lines)
    else if (key? (content line)).isSome then none
    else do
      let part := Text.trimEnd (beforeComment ' ' (content line))
      let (rest, lines) ← plainLines above 0 lines
      let joint := if skipped = 0 then [' '] else List.replicate skipped '\n'
      pure (joint ++ part ++ rest, lines)

/-- What becomes of the line feeds at the end of a block text. -/
inductive Chomp where
  | clip | strip | keep

/-- The lines of a block text: those that are blank or at least `depth` deep. -/
def blockLines (depth : Nat) : Lines → Lines × Lines
  | [] => ([], [])
  | line :: lines =>
    if (content line).isEmpty || depth ≤ indent line then
      let (block, rest) := blockLines depth lines
      (line.drop depth :: block, rest)
    else ([], line :: lines)

/-- Joins the lines of a folded text; lines that are deeper keep their line feeds. -/
def fold : Lines → List Char
  | [] => []
  | [line] => line
  | line :: [] :: rest => line ++ '\n' :: foldAfterBlank rest
  | line :: next :: rest =>
    let plain := !(line.head?.any isGap) && !(next.head?.any isGap) && !line.isEmpty
    line ++ (if plain then ' ' else '\n') :: fold (next :: rest)
where
  /-- Joins lines behind a blank one. -/
  foldAfterBlank : Lines → List Char
    | [] => []
    | [] :: rest => '\n' :: foldAfterBlank rest
    | line :: rest => fold (line :: rest)

/-- Takes a block text; `header` is what follows its mark. -/
def blockText (folded : Bool) (header : List Char) (above : Int) (lines : Lines) :
    Option (Datum × Lines) := do
  let flags := header.takeWhile fun c => !isGap c
  if !isRest (header.drop flags.length) then none
  let chomp ←
    match flags.filter fun c => !Decimal.isDigit c with
    | [] => some Chomp.clip
    | ['-'] => some .strip
    | ['+'] => some .keep
    | _ => none
  let base := (above + 1).toNat
  let depth :=
    match flags.find? Decimal.isDigit with
    | some d => base - 1 + (d.toNat - 0x30)
    | none =>
      match lines.find? fun line => !(content line).isEmpty with
      | some line => max base (indent line)
      | none => base
  let (block, rest) := blockLines depth lines
  let text := (block.reverse.dropWhile (·.isEmpty)).reverse
  let body := if folded then fold text else Text.join ['\n'] text
  let ending :=
    match chomp with
    | .strip => []
    | .clip => if text.isEmpty then [] else ['\n']
    | .keep => List.replicate (block.length - text.length + (if text.isEmpty then 0 else 1)) '\n'
  pure (.text (String.ofList (body ++ ending)), rest)

/-! ## Blocks -/

mutual

/-- Takes the value that follows a key or the mark of an item; `above` is the indentation of that
key or mark, and `inRecord` tells whether it is a key. -/
def value (above : Int) (inRecord : Bool) :
    (fuel : Nat) → List Char → Lines → Option (Datum × Lines)
  | 0, _, _ => none
  | fuel + 1, s, lines =>
    match s.dropWhile isGap with
    | [] | '#' :: _ =>
      match dropIdle lines with
      | [] => some (.null, [])
      | line :: rest =>
        if above < indent line || (inRecord && above = indent line && isItem (content line)) then
          block fuel (line :: rest)
        else some (.null, line :: rest)
    | '|' :: header => blockText false header above lines
    | '>' :: header => blockText true header above lines
    | '[' :: s => spanning (flowValue (fuel + 1)) ('[' :: s) lines
    | '\x7b' :: s => spanning (flowValue (fuel + 1)) ('\x7b' :: s) lines
    | c :: s =>
      if c = '"' || c = '\'' then do
        let (text, lines) ← spanning quoted? (c :: s) lines
        pure (.text (String.ofList (text.getD [])), lines)
      else if !startsPlain c || isItem (c :: s) || (key? (c :: s)).isSome then none
      else do
        let first := Text.trimEnd (beforeComment ' ' (c :: s))
        let (more, lines) ← plainLines above 0 lines
        pure (← scalar? (first ++ more), lines)

/-- Takes the block that starts with the first line, which is not idle. -/
def block : (fuel : Nat) → Lines → Option (Datum × Lines)
  | 0, _ => none
  | _, [] => none
  | fuel + 1, line :: lines =>
    let depth := indent line
    let s := content line
    if s.head? == some '\t' then none
    else if isItem s then do
      let (items, lines) ← itemsAt depth fuel (line :: lines)
      pure (.list items, lines)
    else if (key? s).isSome then do
      let (entries, lines) ← entriesAt depth fuel (line :: lines)
      pure (.record (Table.ofList entries), lines)
    else value (depth - 1) false fuel s lines

/-- Takes the items of a list at a depth. -/
def itemsAt (depth : Nat) : (fuel : Nat) → Lines → Option (List Datum × Lines)
  | 0, _ => none
  | fuel + 1, lines =>
    match dropIdle lines with
    | [] => some ([], [])
    | line :: lines =>
      if indent line < depth then some ([], line :: lines)
      else if depth < indent line then none
      else if !isItem (content line) then some ([], line :: lines)
      else do
        let s := (content line).drop 1
        let inner := s.dropWhile (· == ' ')
        let (item, lines) ←
          if isItem inner || (key? inner).isSome then
            block fuel ((List.replicate (depth + 1) ' ' ++ s) :: lines)
          else value depth false fuel s lines
        let (items, lines) ← itemsAt depth fuel lines
        pure (item :: items, lines)

/-- Takes the entries of a record at a depth. -/
def entriesAt (depth : Nat) : (fuel : Nat) → Lines → Option (List (String × Datum) × Lines)
  | 0, _ => none
  | fuel + 1, lines =>
    match dropIdle lines with
    | [] => some ([], [])
    | line :: lines =>
      if indent line < depth then some ([], line :: lines)
      else if depth < indent line then none
      else
        match key? (content line) with
        | none => none
        | some (key, s) => do
          let (v, lines) ← value depth true fuel s lines
          let (entries, lines) ← entriesAt depth fuel lines
          pure ((String.ofList key, v) :: entries, lines)

end

/-- Whether a line ends or starts a document. -/
def isBoundary (mark : Char) (line : List Char) : Bool :=
  line.take 3 == [mark, mark, mark] && isRest (line.drop 3)

/-- The data that a document holds. -/
def read? (s : List Char) : Option Datum := do
  let lines := dropIdle (linesOf s)
  let lines ←
    match lines with
    | ('-' :: '-' :: '-' :: ' ' :: rest) :: lines => some (dropIdle ((' ' :: rest) :: lines))
    | line :: lines => some (if isBoundary '-' line then dropIdle lines else line :: lines)
    | [] => some []
  let (body, rest) := lines.span fun line => !isBoundary '.' line && !isBoundary '-' line
  if !rest.all (fun line => isIdle line || isBoundary '.' line) then none
  match body with
  | [] => pure .null
  | line :: body =>
    if line.head? == some '%' then none
    let (d, left) ← block (2 * s.length + 4) (line :: body)
    if (dropIdle left).isEmpty then pure d else none

end Stencil.Yaml
