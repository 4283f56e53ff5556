import Stencil.Calendar.Format
import Stencil.Expr.Grammar
import Stencil.Halt
import Stencil.Library

/-!
# From tokens to templates

A draft is a template that is being read: the tokens still to come, and the parent, the blocks and
the macros found so far.  A tag with a body reads nodes up to the tag that ends it.  How deep such
tags nest is limited, and the reader is built one level of nesting at a time.
-/

namespace Stencil

/-- A template that is being read. -/
structure Draft where
  tokens : List Token
  /-- Whether anything but blank text came before. -/
  seenContent : Bool := false
  parent : Option Parent := none
  blocks : Table Body := []
  macros : Table Macro := []
  library : Library

/-- What does not change while a template is read. -/
structure DraftScope where
  /-- The name of the template. -/
  name : String
  catalog : Catalog
  settings : Settings
  /-- Loads and compiles a template that this one names; there is none while that template is itself
  being compiled. -/
  load : String → Keeping Library (Option Template)

/-- A reader of parts of a template. -/
abbrev Drafting := ReaderT DraftScope (Keeping Draft)

/-- The body of a tag, and the tag that ends it. -/
structure Section where
  nodes : List Node
  /-- The token that names the tag that ends the section. -/
  ending : Token
  /-- The arguments of that tag. -/
  args : List Token
  /-- The position of that tag's closing delimiter. -/
  close : Position

namespace Drafting

/-- Fails at a position. -/
def refuse {α : Type} (p : Position) (fault : ParseFault) : Drafting α :=
  throw (.error (.atPosition p fault))

/-- Reads arguments from tokens in front of the delimiter at `close`, and gives back those that are
left. -/
def arguments {α : Type} (close : Position) (ts : List Token) (r : Arguments α) :
    Drafting (α × List Token) := do
  let scope ← read
  Halt.ofExcept (r
    { filters := scope.catalog.filters, close, depthLimit := scope.settings.maxExpressionDepth } ts)

/-- Reads arguments that must be used up. -/
def argumentsOf {α : Type} (tag : String) (close : Position) (ts : List Token) (r : Arguments α) :
    Drafting α := do
  let (a, _) ← arguments close ts (do let a ← r; Arguments.done tag; pure a)
  pure a

/-- Takes the tokens up to the delimiter that closes the one at `opening`, and its position. -/
def content (opening : Position) (openSymbol closeSymbol : Symbol) :
    Drafting (List Token × Position) := do
  let draft ← get
  let inner := draft.tokens.takeWhile fun t => !t.closes
  match draft.tokens.drop inner.length with
  | [] => refuse opening (.unclosedDelimiter openSymbol)
  | close :: rest =>
    match close.lexeme with
    | .symbol found =>
      if found = closeSymbol then
        set { draft with tokens := rest }
        pure (inner, close.position)
      else refuse close.position (.wrongDelimiter openSymbol closeSymbol found)
    | _ => refuse opening (.unclosedDelimiter openSymbol)

/-- Loads a template that is named at the token `t`. -/
def load (name : String) (t : Token) : Drafting (Option Template) := do
  let scope ← read
  let draft ← get
  let (result, library) := (scope.load name).run draft.library
  set { draft with library }
  match result with
  | .ok found => pure found
  | .error (.error e) =>
    if e.isLoader then
      throw (.error (.parse t.position (.cannotLoad name e.message) (some e)))
    else throw (.error e)
  | .error (@Halt.exhausted why) => throw (@Halt.exhausted why)

/-- Notes a block. -/
def registerBlock (name : String) (body : Body) (t : Token) : Drafting Unit := do
  let draft ← get
  if draft.blocks.has name then refuse t.position (.blockTwice name)
  else set { draft with blocks := draft.blocks.insert name body }

/-- Notes an exported macro. -/
def registerMacro (m : Macro) (t : Token) : Drafting Unit := do
  let draft ← get
  if draft.macros.has m.name then refuse t.position (.macroTwice m.name)
  else set { draft with macros := draft.macros.insert m.name m }

end Drafting

/-! ## Sections -/

/-- A reader of the body of a tag: nodes up to a tag of one of the given names.  The token names the
tag whose body it is. -/
abbrev SectionReader := List String → Token → Drafting Section

namespace Section

/-- Refuses a body because tags nest too deep. -/
def tooDeep : SectionReader := fun _ opener => do
  Drafting.refuse opener.position (.tooNested (← read).settings.maxNestingDepth)

/-- Reads nodes up to an ending tag.  The number bounds the nodes. -/
def upTo (node : Drafting Node) (ends : List String) (opener : Token) :
    Nat → List Node → Drafting Section
  | 0, _ => Drafting.refuse opener.position (.unclosedConstruct opener.value ends)
  | n + 1, acc => do
    let draft ← get
    match draft.tokens with
    | [] => Drafting.refuse opener.position (.unclosedConstruct opener.value ends)
    | t :: rest =>
      let ending? : Option (Token × List Token) :=
        match t.isSymbol .openTag, rest with
        | true, name :: rest =>
          if name.name?.any ends.contains then some (name, rest) else none
        | _, _ => none
      match ending? with
      | some (ending, rest) =>
        set { draft with tokens := rest }
        let (args, close) ← Drafting.content t.position .openTag .closeTag
        pure ⟨acc.reverse, ending, args, close⟩
      | none => upTo node ends opener n ((← node) :: acc)

/-- The body of a section whose ending tag must not have arguments. -/
def body (s : Section) : Drafting Body := do
  Drafting.argumentsOf s.ending.value s.close s.args (pure ())
  pure s.nodes

end Section

/-! ## Tags -/

/-- What the reader of a tag finds: its name, its arguments, and how to read its body. -/
structure TagScope where
  start : Token
  args : List Token
  /-- The position of the closing delimiter. -/
  close : Position
  /-- Whether the tag stands at the top of the template. -/
  top : Bool
  wrap : SectionReader

/-- A reader of a tag, which gives back the arguments that it left. -/
abbrev TagReader := TagScope → Drafting (Statement × List Token)

namespace TagReader

/-- Reads arguments of the tag. -/
def arguments {α : Type} (s : TagScope) (r : Arguments α) : Drafting (α × List Token) :=
  Drafting.arguments s.close s.args r

/-- Reads the body of the tag up to one ending tag. -/
def bodyUpTo (s : TagScope) (ending : String) : Drafting Body := do
  (← s.wrap [ending] s.start).body

/-- Reads a body, and another one if the tag `middle` comes before the ending one. -/
def bodies (s : TagScope) (middle ending : String) : Drafting (Body × Option Body) := do
  let first ← s.wrap [middle, ending] s.start
  let body ← first.body
  if first.ending.value == middle then pure (body, some (← bodyUpTo s ending))
  else pure (body, none)

/-! ### Control flow -/

/-- Reads the branches behind the condition `condition`.  The number bounds the branches. -/
def branches (s : TagScope) : Nat → Expr → Drafting (List (Expr × Body) × Option Body)
  | 0, _ =>
    Drafting.refuse s.start.position (.unclosedConstruct s.start.value ["elif", "else", "endif"])
  | n + 1, condition => do
    let part ← s.wrap ["elif", "else", "endif"] s.start
    match part.ending.value with
    | "elif" =>
      let next ← Drafting.argumentsOf "elif" part.close part.args Arguments.expression
      let (more, otherwise) ← branches s n next
      pure ((condition, part.nodes) :: more, otherwise)
    | "else" =>
      let body ← part.body
      let otherwise ← bodyUpTo s "endif"
      pure ([(condition, body)], some otherwise)
    | _ => return ([(condition, ← part.body)], none)

/-- Reads `if`. -/
def branch : TagReader := fun s => do
  let (condition, rest) ← arguments s Arguments.expression
  let (parts, otherwise) ← branches s ((← get).tokens.length + 1) condition
  pure (.branch parts otherwise, rest)

/-- Reads `ifequal` and `ifnotequal`. -/
def compare (negated : Bool) : TagReader := fun s => do
  let ((lhs, rhs), rest) ← arguments s do
    let lhs ← Arguments.expression
    return (lhs, ← Arguments.expression)
  let (body, otherwise) ← bodies s "else" (if negated then "endifnotequal" else "endifequal")
  pure (.compare lhs rhs negated body otherwise, rest)

/-- Takes the words `reversed` and `sorted`, in any order and number. -/
def loopWords : Nat → Bool × Bool → Arguments (Bool × Bool)
  | 0, found => pure found
  | n + 1, (reversed, sorted) => do
    if ← Arguments.word? "reversed" then loopWords n (true, sorted)
    else if ← Arguments.word? "sorted" then loopWords n (reversed, true)
    else pure (reversed, sorted)

/-- Reads `for`. -/
def loop : TagReader := fun s => do
  let ((first, second, source, reversed, sorted), rest) ← arguments s do
    let (first, _) ← Arguments.identifier
    let second ←
      match ← Arguments.symbol? .comma with
      | some _ => pure (some (← Arguments.identifier).1)
      | none => pure none
    let _ ← Arguments.keyword .kwIn
    let source ← Arguments.expression
    let (reversed, sorted) ← loopWords (← Arguments.left) (false, false)
    pure (first, second, source, reversed, sorted)
  let (body, empty) ← bodies s "empty" "endfor"
  pure (.loop first second source reversed sorted body empty, rest)

/-- Takes the values of a cycle and what follows them.  The number bounds the values. -/
def cycleValues : Nat → Arguments (List Expr × Option String × Bool)
  | 0 => pure ([], none, false)
  | n + 1 => do
    match ← Arguments.peek? with
    | none => pure ([], none, false)
    | some _ =>
      match ← Arguments.keyword? .kwAs with
      | some _ =>
        let (target, _) ← Arguments.identifier
        pure ([], some target, ← Arguments.word? "silent")
      | none =>
        let e ← Arguments.expression
        let _ ← Arguments.symbol? .comma
        let (es, target, silent) ← cycleValues n
        pure (e :: es, target, silent)

/-- Reads `cycle`. -/
def cycle : TagReader := fun s => do
  let ((values, target, silent), rest) ← arguments s do
    let found ← cycleValues (← Arguments.left)
    if found.1.isEmpty then Arguments.want .cycleValue else pure found
  pure (.cycle values target silent, rest)

/-- Takes expressions to the end.  The number bounds them. -/
def expressions : Nat → Arguments (List Expr)
  | 0 => pure []
  | n + 1 => do
    match ← Arguments.peek? with
    | none => pure []
    | some _ =>
      let e ← Arguments.expression
      return e :: (← expressions n)

/-- Reads `firstof`. -/
def firstOf : TagReader := fun s => do
  let (values, rest) ← arguments s do
    match ← expressions (← Arguments.left) with
    | [] => Arguments.want .firstofValue
    | values => pure values
  pure (.firstOf values, rest)

/-! ### Inheritance and composition -/

/-- Reads `block`. -/
def block : TagReader := fun s => do
  let ((name, _), rest) ← arguments s Arguments.identifier
  let part ← s.wrap ["endblock"] s.start
  Drafting.argumentsOf "endblock" part.close part.args do
    match ← Arguments.identifier? with
    | some (found, t) =>
      if found == name then pure () else Arguments.refuse t (.endOfOtherBlock found name)
    | none => pure ()
  Drafting.registerBlock name part.nodes s.start
  pure (.block name part.nodes, rest)

/-- Reads `extends`. -/
def extending : TagReader := fun s => do
  let draft ← get
  if draft.parent.isSome then Drafting.refuse s.start.position .secondParent
  if !s.top || draft.seenContent then Drafting.refuse s.start.position .lateParent
  let (e, rest) ← arguments s Arguments.expression
  let parent : Parent ←
    match e.literalString? with
    | some name =>
      match ← Drafting.load name s.start with
      | some t => pure (Parent.linked t)
      | none => Drafting.refuse s.start.position (.cyclicInheritance name)
    | none => pure (Parent.named e s.start.position)
  modify fun draft => { draft with parent := some parent }
  pure (.nothing, rest)

/-- Takes what can follow the name in `include`: bindings, `only` and `if_exists`.  The number
bounds the parts. -/
def includeWords : Nat → List (String × Expr) × Bool × Bool →
    Arguments (List (String × Expr) × Bool × Bool)
  | 0, found => pure found
  | n + 1, (bindings, only, ifExists) => do
    if ← Arguments.word? "if_exists" then includeWords n (bindings, only, true)
    else if ← Arguments.word? "only" then includeWords n (bindings, true, ifExists)
    else if ← Arguments.word? "with" then
      match ← Arguments.bindings with
      | [] => Arguments.want .assignment
      | more => includeWords n (bindings ++ more, only, ifExists)
    else pure (bindings, only, ifExists)

/-- Reads `include`.  A template that may be missing is looked up when the tag is rendered, and so
is one that is still being compiled. -/
def including : TagReader := fun s => do
  let ((e, bindings, only, ifExists), rest) ← arguments s do
    let e ← Arguments.expression
    let (bindings, only, ifExists) ← includeWords (← Arguments.left) ([], false, false)
    pure (e, bindings, only, ifExists)
  let target : Target ←
    match e.literalString?, ifExists with
    | some name, false =>
      match ← Drafting.load name s.start with
      | some t => pure (Target.linked t)
      | none => pure (Target.named e)
    | _, _ => pure (Target.named e)
  pure (.includes target (← read).name bindings only ifExists, rest)

/-- Takes the names of macros to import from the template `t`, which was loaded from `file`.  The
number bounds the names. -/
def importNames (file : String) (t : Template) : Nat → Arguments (List (String × Macro))
  | 0 => Arguments.want .identifier
  | n + 1 => do
    let (name, at_) ← Arguments.identifier
    match t.macro? name with
    | none => Arguments.refuse at_ (.noSuchExport file name)
    | some m =>
      let target ←
        match ← Arguments.keyword? .kwAs with
        | some _ => pure (← Arguments.identifier).1
        | none => pure name
      match ← Arguments.symbol? .comma with
      | some _ => return (target, m) :: (← importNames file t n)
      | none => pure [(target, m)]

/-- Reads `import`. -/
def importing : TagReader := fun s => do
  let ((file, at_), rest) ← arguments s Arguments.string
  match ← Drafting.load file s.start with
  | none => Drafting.refuse at_.position (.cyclicImport file)
  | some t =>
    let (macros, rest) ← Drafting.arguments s.close rest do
      importNames file t ((← Arguments.left) + 1)
    pure (.imports macros, rest)

/-! ### Scopes -/

/-- Reads `with`. -/
def bind : TagReader := fun s => do
  let (bindings, rest) ← arguments s do
    match ← Arguments.bindings with
    | [] =>
      let e ← Arguments.expression
      let _ ← Arguments.keyword .kwAs
      let (name, _) ← Arguments.identifier
      pure [(name, e)]
    | bindings => pure bindings
  return (.bind bindings (← bodyUpTo s "endwith"), rest)

/-- Reads `set`. -/
def assign : TagReader := fun s => do
  let ((name, e), rest) ← arguments s do
    let (name, _) ← Arguments.identifier
    let _ ← Arguments.symbol .equal
    return (name, ← Arguments.expression)
  pure (.assign name e, rest)

/-- Takes the parameters of the macro `tag` behind the parameters `before`, and the closing
parenthesis.  The number bounds the parameters. -/
def parameters (tag : String) :
    Nat → List (String × Option Expr) → Arguments (List (String × Option Expr))
  | 0, _ => Arguments.want .identifier
  | n + 1, before => do
    let (name, at_) ← Arguments.identifier
    if before.any fun p => p.1 == name then Arguments.refuse at_ (.parameterTwice name tag)
    let default? ←
      match ← Arguments.symbol? .equal with
      | some _ => pure (some (← Arguments.expression))
      | none => pure none
    if default?.isNone && before.any fun p => p.2.isSome then
      Arguments.refuse at_ (.parameterOrder name)
    let params := before ++ [(name, default?)]
    match ← Arguments.symbol? .closeParen with
    | some _ => pure params
    | none =>
      let _ ← Arguments.symbol .comma
      parameters tag n params

/-- Reads `macro`. -/
def define : TagReader := fun s => do
  let ((name, params, exported), rest) ← arguments s do
    let (name, _) ← Arguments.identifier
    let _ ← Arguments.symbol .openParen
    let params ←
      match ← Arguments.symbol? .closeParen with
      | some _ => pure []
      | none => parameters name ((← Arguments.left) + 1) []
    let exported ← Arguments.keyword? .kwExport
    pure (name, params, exported.isSome)
  let body ← bodyUpTo s "endmacro"
  let m : Macro := { name, params, body, exported }
  if exported then Drafting.registerMacro m s.start
  pure (.define m, rest)

/-- Reads `autoescape`. -/
def autoescape : TagReader := fun s => do
  let (enabled, rest) ← arguments s do
    let (mode, at_) ← Arguments.identifier
    match mode with
    | "on" => pure true
    | "off" => pure false
    | _ => Arguments.refuse at_ (.autoescapeMode mode)
  return (.escaping enabled (← bodyUpTo s "endautoescape"), rest)

/-- Reads `filter`. -/
def filtering : TagReader := fun s => do
  let (filters, rest) ← arguments s Arguments.filterChain
  return (.filtering filters (← bodyUpTo s "endfilter"), rest)

/-! ### Text -/

/-- Reads `spaceless`. -/
def spaceless : TagReader := fun s => do
  return (.spaceless (← bodyUpTo s "endspaceless"), s.args)

/-- Reads `comment`.  Its body is read like any other and dropped. -/
def comment : TagReader := fun s => do
  let _ ← bodyUpTo s "endcomment"
  pure (.nothing, s.args)

/-- Reads `now`. -/
def now : TagReader := fun s => do
  let ((format, fake), rest) ← arguments s do
    let (format, at_) ← Arguments.string
    if (Calendar.Format.read? format.toList).isNone then
      Arguments.refuse at_ (.dateFormat format)
    return (format, ← Arguments.word? "fake")
  pure (.now format fake, rest)

/-- The text that `templatetag` writes for a name. -/
def delimiter? : String → Option String
  | "openblock" => some "\x7b%"
  | "closeblock" => some "%\x7d"
  | "openvariable" => some "\x7b\x7b"
  | "closevariable" => some "\x7d\x7d"
  | "openbrace" => some "\x7b"
  | "closebrace" => some "\x7d"
  | "opencomment" => some "\x7b#"
  | "closecomment" => some "#\x7d"
  | _ => none

/-- Reads `templatetag`. -/
def templatetag : TagReader := fun s => do
  let (text, rest) ← arguments s do
    let (name, at_) ← Arguments.identifier
    match delimiter? name with
    | some text => pure text
    | none => Arguments.refuse at_ (.unknownTemplatetag name)
  pure (.write text, rest)

/-- Reads `widthratio`. -/
def widthratio : TagReader := fun s => do
  let ((value, most, width, target), rest) ← arguments s do
    let value ← Arguments.expression
    let most ← Arguments.expression
    let width ← Arguments.expression
    let target ←
      match ← Arguments.keyword? .kwAs with
      | some _ => pure (some (← Arguments.identifier).1)
      | none => pure none
    pure (value, most, width, target)
  pure (.ratio value most width target, rest)

/-! ### Tags of the host -/

/-- Reads sections up to the last of the ending tags.  The number bounds the sections. -/
def sections (s : TagScope) (ends : List String) : Nat → Drafting (List (Body × Token))
  | 0 => Drafting.refuse s.start.position (.unclosedConstruct s.start.value ends)
  | n + 1 => do
    let part ← s.wrap ends s.start
    let body ← part.body
    if ends.getLast? == some part.ending.value then pure [(body, part.ending)]
    else return (body, part.ending) :: (← sections s ends n)

/-- Reads a tag of the host. -/
def custom (tag : CustomTag) : TagReader := fun s => do
  let ((value, tokens), rest) ← arguments s do
    match tag.arguments with
    | .none => pure (none, [])
    | .expression => pure (some (← Arguments.expression), [])
    | .tokens => pure (none, ← Arguments.takeAll)
    | .refusal text => Arguments.want (.other text)
  let parts ←
    match tag.ends with
    | [] => pure []
    | ends => sections s ends ((← get).tokens.length + 1)
  let scope ← read
  pure (.custom (tag.build
    { template := scope.name, name := s.start, value, tokens, sections := parts }), rest)

/-- The reader of a built-in tag. -/
def builtin : Tag → TagReader
  | .branch => branch
  | .compareEqual => compare false
  | .compareUnequal => compare true
  | .loop => loop
  | .cycle => cycle
  | .firstOf => firstOf
  | .block => block
  | .extending => extending
  | .including => including
  | .importing => importing
  | .bind => bind
  | .assign => assign
  | .define => define
  | .autoescape => autoescape
  | .filtering => filtering
  | .spaceless => spaceless
  | .comment => comment
  | .now => now
  | .templatetag => templatetag
  | .widthratio => widthratio

/-- The reader of a registered tag. -/
def ofRef : TagRef → TagReader
  | .builtin t => builtin t
  | .custom t => custom t

end TagReader

/-! ## Nodes -/

namespace Node

/-- Reads the output of an expression, opened at `opening`. -/
def readOutput (opening : Position) : Drafting Node := do
  let (args, close) ← Drafting.content opening .openOutput .closeOutput
  if args.isEmpty then Drafting.refuse opening .emptyOutput
  let e ← Drafting.argumentsOf "\x7b\x7b \x7d\x7d" close args Arguments.expression
  modify fun draft => { draft with seenContent := true }
  pure (.output opening e)

/-- Reads a tag, opened at `opening`. -/
def readTag (top : Bool) (wrap : SectionReader) (opening : Position) : Drafting Node := do
  let draft ← get
  match draft.tokens with
  | [] => Drafting.refuse opening .noTagName
  | start :: rest =>
    match start.name? with
    | none => Drafting.refuse opening .noTagName
    | some name =>
      let tags := (← read).catalog.tags
      if tags.isBanned name then Drafting.refuse start.position (.bannedTag name)
      match tags.find? name with
      | none => Drafting.refuse start.position (.unknownTag name)
      | some ref =>
        set { draft with tokens := rest }
        let (args, close) ← Drafting.content opening .openTag .closeTag
        let (statement, left) ← TagReader.ofRef ref { start, args, close, top, wrap }
        Drafting.argumentsOf name close left (pure ())
        modify fun draft => { draft with seenContent := true }
        pure (.tag name start.position statement)

/-- Reads the next node, given how to read the body of a tag. -/
def readWith (top : Bool) (wrap : SectionReader) : Drafting Node := do
  let draft ← get
  match draft.tokens with
  | [] => pure (.text "")
  | t :: rest =>
    match t.lexeme with
    | .text s =>
      let blank := s.toList.all Text.isBlank
      set { draft with tokens := rest, seenContent := draft.seenContent || !blank }
      pure (.text s)
    | .symbol .openOutput =>
      set { draft with tokens := rest }
      readOutput t.position
    | .symbol .openTag =>
      set { draft with tokens := rest }
      readTag top wrap t.position
    | _ => Drafting.refuse t.position (.unexpected t)

/-- Reads the next node where `room` more tags with a body may nest. -/
def read : (room : Nat) → (top : Bool) → Drafting Node
  | 0, top => readWith top Section.tooDeep
  | room + 1, top => readWith top fun ends opener => do
    Section.upTo (read room false) ends opener ((← get).tokens.length + 1) []

/-- Reads nodes to the end.  The number bounds them. -/
def readAll (room : Nat) : Nat → List Node → Drafting (List Node)
  | 0, acc => pure acc.reverse
  | n + 1, acc => do
    match (← get).tokens with
    | [] => pure acc.reverse
    | _ => readAll room n ((← read room true) :: acc)

end Node

end Stencil
