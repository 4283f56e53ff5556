import Stencil.Proofs.Linking
import Stencil.Proofs.Nesting.Exact
import Stencil.Proofs.Super
import Stencil.Proofs.Writing.Document
import Stencil.Proofs.Writing.Source

/-!
# Showing a variable

The data of the caller come under names, and a template shows the value of one by naming it between
the braces of an output.  The check of names, the words that templates are cut into, the grammar and
the lookup agree on all names but two kinds: keywords are no variables, and the variables that every
render has of its own hide data under their names.
-/

namespace Stencil

open Text Drafting

/-- The source that shows a variable and nothing else. -/
def outputOf (name : String) : String := "\x7b\x7b " ++ name ++ " \x7d\x7d"

/-- What is written for a value where escaping is on. -/
def Value.shown (v : Value) : String := if v.isSafe then v.text else escapeHtml v.text

/-! ## Names as words of the language -/

/-- A name for data is an identifier of the language unless it is one of its keywords. -/
theorem isIdentifier_of_isName {name : String} (h : isName name.toList = true)
    (hkeyword : Keyword.ofSpelling? name = none) : Lexeme.isIdentifier name.toList = true := by
  cases hchars : name.toList with
  | nil =>
    rw [hchars] at h
    cases h
  | cons c w =>
    rw [hchars, isName, Bool.and_eq_true] at h
    have hdigit : isAsciiDigit c = false := Bool.eq_false_iff.mpr fun hdigit => by
      rw [Token.isNameStart_eq_false_of_digit hdigit] at h
      exact Bool.false_ne_true h.1
    have hspelling : String.ofList (c :: w) = name := by rw [← hchars, String.ofList_toList]
    rw [Lexeme.isIdentifier, hspelling, hkeyword, h.1, h.2, List.all_cons, hdigit]
    rfl

variable {name : String}

theorem chars_outputOf (name : String) :
    (outputOf name).toList = [Chunk.tag false [.identifier name]].flatMap Chunk.chars := by
  simp only [outputOf, String.toList_append, List.flatMap_cons, List.flatMap_nil, List.append_nil,
    Chunk.chars, Lexeme.chars, List.cons_append, List.nil_append]
  rfl

/-- The source that shows a variable is cut into its name and the braces. -/
theorem exists_tokenize_outputOf (hname : Lexeme.isIdentifier name.toList = true)
    (template : String) :
    ∃ opening word closing,
      Token.tokenize {} template (outputOf name) = .ok [opening, word, closing] ∧
        opening.lexeme = .symbol .openOutput ∧ word.lexeme = .identifier name ∧
          closing.lexeme = .symbol .closeOutput := by
  have hprintable : Printable [.tag false [.identifier name]] :=
    .tag (List.forall_mem_singleton.mpr hname) nofun .nil
  have hlayout := Token.layout_of_printable hprintable
  have hscan := Token.scanFrom_of_layout hlayout template []
  rw [List.flatMap_map, funext Token.source_piece, ← chars_outputOf] at hscan
  have htokens : Token.tokenize {} template (outputOf name) =
      .ok (Token.scanned template [] ([Chunk.tag false [.identifier name]].map Chunk.piece)) := by
    rw [Token.tokenize, ← Place.behind_nil, hscan]
    exact congrArg Except.ok (hlayout.settle_eq_self (Token.unmarked_pieces _) template [])
  have hlexemes := Token.lexemes_scanned hlayout template []
  generalize Token.scanned template [] _ = ts at htokens hlexemes
  obtain ⟨opening, ts, rfl, hopening, hts⟩ := List.map_eq_cons_iff.mp hlexemes
  obtain ⟨word, ts, rfl, hword, hts⟩ := List.map_eq_cons_iff.mp hts
  obtain ⟨closing, ts, rfl, hclosing, hts⟩ := List.map_eq_cons_iff.mp hts
  obtain rfl := List.map_eq_nil_iff.mp hts
  exact ⟨opening, word, closing, htokens, hopening, hword, hclosing⟩

/-! ## The template that shows a variable -/

section Reading

variable {scope : DraftScope} {opening word closing : Token} {d : Draft}

theorem expression_word (hword : word.lexeme = .identifier name) {env : Surroundings}
    (hlimit : 0 < env.depthLimit) :
    Arguments.expression env [word] = .ok (.path name [] word.position, []) := by
  have hderives : Derives env.filters 2 (.expr .operand (.path name [] word.position)) [word] 0 :=
    .path hword .noSteps
  exact ((limits_expression (hderives.atLevel .disjunction)) [] .nil).1 hlimit

theorem argumentsOf_word (hword : word.lexeme = .identifier name)
    (hlimit : 0 < scope.settings.maxExpressionDepth) (tag : String) (close : Position) (d : Draft) :
    argumentsOf tag close [word] Arguments.expression scope d =
      (.ok (.path name [] word.position), d) := by
  have hdone : arguments close [word]
      (do let e ← Arguments.expression; Arguments.done tag; pure e) scope d =
        (.ok (.path name [] word.position, []), d) := by
    change (Halt.ofExcept ((Arguments.expression >>= fun e => do Arguments.done tag; pure e :
      Arguments Expr) (scope.surroundings close) [word]) : Drafting _) scope d = _
    rw [arguments_bind, expression_word hword hlimit]
    rfl
  unfold argumentsOf
  rw [run_bind, hdone]
  rfl

theorem readWith_outputOf (hopening : opening.lexeme = .symbol .openOutput)
    (hword : word.lexeme = .identifier name) (hclosing : closing.lexeme = .symbol .closeOutput)
    (hlimit : 0 < scope.settings.maxExpressionDepth) (hd : d.tokens = [opening, word, closing])
    (top : Bool) (wrap : SectionReader) :
    Node.readWith top wrap scope d =
      (.ok (.output opening.position (.path name [] word.position)),
        { d with tokens := [], seenContent := true }) := by
  have hcontent : Content .closeOutput [word, closing] [word] closing [] := by
    refine ⟨rfl, List.forall_mem_singleton.mpr ?_, hclosing, ?_⟩
    · rw [Token.closes, hword]
    · rw [Token.closes, hclosing]
      rfl
  unfold Node.readWith
  rw [run_get_bind, hd]
  simp only [hopening]
  change Node.readOutput opening.position scope { d with tokens := [word, closing] } = _
  unfold Node.readOutput
  rw [run_bind, content_eq_ok hcontent]
  change (argumentsOf _ closing.position [word] Arguments.expression >>= _) scope _ = _
  rw [run_bind, argumentsOf_word hword hlimit]
  rfl

/-- What is read from the tokens is an output of the variable. -/
theorem readAll_outputOf (hopening : opening.lexeme = .symbol .openOutput)
    (hword : word.lexeme = .identifier name) (hclosing : closing.lexeme = .symbol .closeOutput)
    (hlimit : 0 < scope.settings.maxExpressionDepth) (hd : d.tokens = [opening, word, closing])
    (room n : Nat) :
    Node.readAll room (n + 2) [] scope d =
      (.ok [.output opening.position (.path name [] word.position)],
        { d with tokens := [], seenContent := true }) := by
  have hread : Node.read room true scope d =
      (.ok (.output opening.position (.path name [] word.position)),
        { d with tokens := [], seenContent := true }) := by
    cases room with
    | zero => exact readWith_outputOf hopening hword hclosing hlimit hd true _
    | succ room => exact readWith_outputOf hopening hword hclosing hlimit hd true _
  rw [Node.readAll, run_get_bind, hd]
  change (Node.read room true >>= fun node => Node.readAll room (n + 1) [node]) scope d = _
  rw [run_bind, hread]
  rfl

end Reading

/-- The template that shows a variable has an output of it and nothing else. -/
structure Template.Shows (t : Template) (name : String) : Prop where
  nodes : ∃ p q, t.nodes = [.output p (.path name [] q)]
  parent : t.parent = none
  options : t.options = {}

theorem exists_compileWith_outputOf {l : Library} (hsettings : l.settings = {})
    (hname : Lexeme.isIdentifier name.toList = true) (link : Library.Linker) (template : String)
    (underway : List String) :
    ∃ t l', Library.compileWith link template (outputOf name) underway l = (.ok t, l') ∧
      t.Shows name := by
  obtain ⟨opening, word, closing, htokens, hopening, hword, hclosing⟩ :=
    exists_tokenize_outputOf hname template
  have htrimming : Token.tokenize l.settings.trimming template (outputOf name) =
      .ok [opening, word, closing] := by rwa [hsettings]
  have hlimit : 0 < l.settings.maxExpressionDepth := by rw [hsettings]; decide
  have hread :
      Node.readAll l.settings.maxNestingDepth ([opening, word, closing].length + 1) []
        ⟨template, l.catalog, l.settings, fun other => link other (some template) underway⟩
        { tokens := [opening, word, closing], library := { l with compiledAny := true } } =
          (.ok [.output opening.position (.path name [] word.position)],
            { tokens := [], seenContent := true, library := { l with compiledAny := true } }) :=
    readAll_outputOf hopening hword hclosing hlimit rfl _ 2
  rw [compileWith_eq, htrimming]
  dsimp only
  rw [hread]
  refine ⟨_, _, rfl, ⟨opening.position, word.position, rfl⟩, rfl, ?_⟩
  change l.settings.renderOptions = {}
  rw [hsettings]
  rfl

/-- The source that shows a variable is compiled. -/
theorem exists_compile_outputOf {l : Library} (hsettings : l.settings = {})
    (hname : Lexeme.isIdentifier name.toList = true) (template : String) :
    ∃ t l', Library.compile template (outputOf name) l = (.ok t, l') ∧ t.Shows name := by
  unfold Library.compile
  rw [keeping_get_bind]
  exact exists_compileWith_outputOf hsettings hname _ template [template]

/-! ## What a render shows -/

/-- The value that a name has when a render begins. -/
def State.initial (name : String) (v : Value) : Value := (State.baseScope.get? name).getD v

theorem lookup_start (set : Option Library) {context : Bindings} (options : RenderOptions)
    (out : Sink) {v : Value} (h : context.get? name = some v) :
    (State.start set context options out).lookup name = State.initial name v := by
  unfold State.lookup State.start State.initial
  dsimp only
  rw [List.findSome?_singleton, h]
  cases State.baseScope.get? name <;> rfl

theorem initial_ne_func {v : Value} (hv : ∀ f, v ≠ .func f) (f : Function) :
    State.initial name v ≠ .func f := by
  unfold State.initial
  cases hbase : State.baseScope.get? name with
  | none => exact hv f
  | some w =>
    obtain ⟨-, rfl⟩ := Prod.mk.inj (List.mem_singleton.mp (Table.mem_of_get? hbase))
    nofun

theorem evalPath_nil {v : Value} (hv : ∀ f, v ≠ .func f) (j : Jumps) :
    evalPath j v [] = pure v := by
  rw [evalPath]
  cases v with
  | func f => exact absurd rfl (hv f)
  | _ => rfl

theorem writeValue_shown (v : Value) {host : Host} {s : State} (hescaping : s.autoescape = true) :
    Render.writeValue v host s = Render.write v.shown host s := by
  unfold Render.writeValue Value.shown
  rw [run_get_bind, hescaping]
  cases v.isSafe <;> rfl

/-- The output of a variable writes its value. -/
theorem exec_output_path (p q : Position) (j : Jumps) (host : Host) {s : State}
    (hv : ∀ f, s.lookup name ≠ .func f) (hescaping : s.autoescape = true) (hout : s.out = .empty) :
    (Node.output p (.path name [] q)).exec j host s =
      (.ok (), { s with out := .text [(s.lookup name).shown] none }) := by
  have heval : (Expr.path name [] q).eval j host s = (.ok (s.lookup name), s) := by
    change Render.located q (evalPath j (s.lookup name) []) host s = _
    rw [evalPath_nil hv]
    rfl
  refine located_of_ok p ?_
  rw [run_bind, heval]
  refine (writeValue_shown _ hescaping).trans ?_
  rw [Render.write, hout]
  rfl

/-- A template that shows a variable writes the value that the variable has at first. -/
theorem exists_execute_shows {t : Template} (ht : t.Shows name) (host : Host)
    (set : Option Library) {context : Bindings} (hnames : checkNames context = .ok ()) {v : Value}
    (hget : context.get? name = some v) (hv : ∀ f, v ≠ .func f) :
    ∃ s, t.execute host set context .empty = (.ok (), s) ∧
      s.out.contents = (State.initial name v).shown := by
  obtain ⟨p, q, hnodes⟩ := ht.nodes
  obtain ⟨fuel, hfuel⟩ : ∃ fuel, jumpDepth = fuel + 1 := ⟨999999999, rfl⟩
  let start := State.start set context t.options .empty
  have hlookup : start.lookup name = State.initial name v := lookup_start set t.options .empty hget
  have hchain : t.chain (.upTo jumpDepth) host start = (.ok [t], start) :=
    ancestry_root _ ht.parent
  have hrun : (Jumps.upTo jumpDepth).run t.nodes host { start with chain := [t] } =
      (.ok (), { start with chain := [t], out := .text [(start.lookup name).shown] none }) := by
    rw [hfuel, hnodes]
    change ((Node.output p (.path name [] q)).exec (.upTo fuel) >>= fun _ => pure ()) host _ = _
    rw [run_bind, exec_output_path p q _ host (hlookup ▸ initial_ne_func hv)
      (congrArg RenderOptions.autoescape ht.options) rfl]
    rfl
  refine ⟨{ start with out := .text [(start.lookup name).shown] none }, ?_, ?_⟩
  · unfold Template.execute Template.render
    rw [hnames]
    change (t.chain (.upTo jumpDepth) >>= _) host start = _
    rw [run_bind, hchain]
    change Render.withChain [t] ((Jumps.upTo jumpDepth).run t.nodes) host start = _
    rw [Render.withChain, Render.within, hrun]
  · rw [hlookup]
    simp [Sink.contents]

/-- A name that the check of the data lets pass shows the value that it has at first, unless it is a
keyword. -/
theorem exists_shown {l : Library} (hsettings : l.settings = {}) {context : Bindings}
    (hnames : checkNames context = .ok ()) {name : String} {v : Value}
    (hget : context.get? name = some v) (hv : ∀ f, v ≠ .func f)
    (hkeyword : Keyword.ofSpelling? name = none) (template : String) (host : Host)
    (set : Option Library) :
    ∃ t l', Library.compile template (outputOf name) l = (.ok t, l') ∧
      ∃ s, t.execute host set context .empty = (.ok (), s) ∧
        s.out.contents = (State.initial name v).shown := by
  have hname : isName name.toList = true :=
    checkNames_eq_ok_iff.mp hnames _ (Table.mem_of_get? hget)
  obtain ⟨t, l', hcompile, ht⟩ :=
    exists_compile_outputOf hsettings (isIdentifier_of_isName hname hkeyword) template
  exact ⟨t, l', hcompile, exists_execute_shows ht host set hnames hget hv⟩

/-- Markup in the data is escaped. -/
theorem exists_shown_markup :
    ∃ t l', Library.compile "page" (outputOf "user") { name := "set" } = (.ok t, l') ∧
      ∃ s, t.execute (.bare fixedMoment) none [("user", .str "<b>")] .empty = (.ok (), s) ∧
        s.out.contents = "&lt;b&gt;" := by
  have hshown : (State.initial "user" (.str "<b>")).shown = "&lt;b&gt;" := by decide +kernel
  have hv : ∀ f, Value.str "<b>" ≠ .func f := nofun
  have hnames : checkNames [("user", .str "<b>")] = .ok () :=
    checkNames_eq_ok_iff.mpr (by decide +kernel)
  rw [← hshown]
  exact exists_shown rfl hnames rfl hv (by decide) "page" _ _

/-- The variable that every render has of its own hides the data under its name. -/
theorem not_shown_block :
    checkNames [("block", .str "x")] = .ok () ∧
      ¬∃ t l', Library.compile "page" (outputOf "block") { name := "set" } = (.ok t, l') ∧
        ∃ s, t.execute (.bare fixedMoment) none [("block", .str "x")] .empty = (.ok (), s) ∧
          s.out.contents = (Value.str "x").shown := by
  have hnames : checkNames [("block", .str "x")] = .ok () :=
    checkNames_eq_ok_iff.mpr (by decide +kernel)
  have hv : ∀ f, Value.str "x" ≠ .func f := nofun
  refine ⟨hnames, ?_⟩
  rintro ⟨t, l', hcompile, s, hexecute, hcontents⟩
  obtain ⟨t', l'', hcompile', ht⟩ := exists_compile_outputOf (l := { name := "set" }) rfl
    (by decide +kernel : Lexeme.isIdentifier "block".toList = true) "page"
  rw [hcompile] at hcompile'
  cases hcompile'
  obtain ⟨s', hexecute', hcontents'⟩ :=
    exists_execute_shows ht (.bare fixedMoment) none hnames rfl hv
  rw [hexecute] at hexecute'
  cases hexecute'
  rw [hcontents] at hcontents'
  exact absurd hcontents' (by decide +kernel)

end Stencil
