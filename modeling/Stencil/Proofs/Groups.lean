import Stencil.Proofs.Reading.Quiet
import Stencil.Proofs.Scanning.Account
import Stencil.Proofs.Scanning.Excerpt
import Stencil.Proofs.Scanning.Unique
import Stencil.Proofs.Twins.Nodes

/-!
# Tags as groups of tokens

The tokens of a source are texts and tags, one after the other. A tag is a delimiter that opens it,
tokens that are neither texts nor delimiters, and a delimiter that closes it. The reader of nodes
stands in front of a text or a whole tag whenever it begins with a node. So there are three places
that it never comes to: where a tag is not closed, where a delimiter is among the arguments of one,
and where a node begins with a token that neither is a text nor opens a tag
(`tokenize_groups_tags`).
-/

namespace Stencil

/-! ## The tokens of a source -/

namespace Token

variable {name : String} {before rest : List Char} {t : Token} {ts us : List Token} {o : Trimming}
  {source : String}

/-- The token can stand inside of a tag: it is neither a text nor a delimiter. -/
def isInner (t : Token) : Bool :=
  match t.lexeme with
  | .text _ => false
  | .symbol s => !s.opens && !s.closes
  | _ => true

/-- The tokens are texts and tags, one after the other. -/
inductive Grouped : List Token → Prop where
  | nil : Grouped []
  | text {t : Token} {ts : List Token} {s : String} (ht : t.lexeme = .text s) (h : Grouped ts) :
      Grouped (t :: ts)
  | tag {opening close : Token} {inner ts : List Token} (hopening : Opening opening.lexeme)
      (hinner : ∀ t ∈ inner, t.isInner = true) (hclosing : Closing close.lexeme)
      (h : Grouped ts) : Grouped (opening :: (inner ++ close :: ts))

theorem isInner_iff : t.isInner = true ↔
    t.text? = none ∧ ¬Opening t.lexeme ∧ ¬Closing t.lexeme := by
  obtain ⟨lexeme, position, trims⟩ := t
  cases lexeme <;> simp [isInner, text?, Opening, Closing]

theorem text?_of_delimiter (h : Opening t.lexeme ∨ Closing t.lexeme) : t.text? = none := by
  obtain ⟨lexeme, position, trims⟩ := t
  cases lexeme with
  | text s => exact (h.elim id id).elim
  | keyword | identifier | string | number | symbol => rfl

/-! ### What is scanned -/

theorem Grouped.ofText_append (h : Grouped ts) (name : String) (p : Place) (w : List Char) :
    Grouped (ofText name p w ++ ts) := by
  unfold ofText
  split
  · exact h
  · exact .text rfl h

/-- What stands in a tag is one delimiter behind other tokens. -/
theorem Tagged.exists_inner {parts : List Part} (h : Tagged rest parts) (name : String)
    (before : List Char) : ∃ inner close, Part.tokens name before parts = inner ++ [close] ∧
      (∀ t ∈ inner, t.isInner = true) ∧ Closing close.lexeme := by
  induction h generalizing before with
  | close _ hclosing => exact ⟨[], _, rfl, List.forall_mem_nil _, hclosing⟩
  | @cons part parts hpart hopening hclosing _ ih =>
    obtain ⟨inner, close, htokens, hinner, hclose⟩ := ih (before ++ part.source)
    have hpart : (part.token name before).isInner = true :=
      isInner_iff.mpr ⟨hpart.text?_eq_none name before, hopening, hclosing⟩
    refine ⟨_ :: inner, close, ?_, List.forall_mem_cons.mpr ⟨hpart, hinner⟩, hclose⟩
    rw [Part.tokens, htokens, List.cons_append]

theorem Piece.Fits.grouped {piece : Piece} (h : piece.Fits rest) (hts : Grouped ts) :
    Grouped (piece.tokens name before rest ++ ts) := by
  cases h with
  | text => exact hts.ofText_append _ _ _
  | comment => exact hts
  | verbatim => exact hts.ofText_append _ _ _
  | tag _ _ hopening hparts =>
    obtain ⟨inner, close, htokens, hinner, hclosing⟩ := hparts.exists_inner name _
    rw [Piece.tokens, htokens, List.cons_append, List.append_assoc]
    exact .tag hopening hinner hclosing hts

theorem Layout.grouped {pieces : List Piece} (h : Layout pieces) (before : List Char) :
    Grouped (scanned name before pieces) := by
  induction pieces generalizing before with
  | nil => exact .nil
  | cons piece pieces ih => exact h.1.grouped (ih h.2 _)

theorem LaysOut.grouped {pieces : List Piece} (h : LaysOut rest pieces) (name : String)
    (before : List Char) : Grouped (scannedIn name rest before pieces) := by
  induction pieces generalizing before with
  | nil => exact .nil
  | cons piece pieces ih => exact h.1.grouped (ih h.2 _)

/-! ### What is left of the texts -/

theorem Grouped.settleIn (h : Grouped ts) (o : Trimming) (behind last : Option Token) :
    Grouped (o.settleIn behind last ts) := by
  induction h generalizing last with
  | nil => exact .nil
  | @text t ts s ht _ ih =>
    rw [Trimming.settleIn, Trimming.settleOne, ht]
    dsimp only
    split
    · exact ih _
    · exact .text rfl (ih _)
  | @tag opening close inner ts hopening hinner hclosing _ ih =>
    have htag : ∀ t ∈ opening :: (inner ++ [close]), t.text? = none := by
      refine List.forall_mem_cons.mpr ⟨text?_of_delimiter (.inl hopening), ?_⟩
      refine List.forall_mem_append.mpr ⟨fun t ht => (isInner_iff.mp (hinner t ht)).1, ?_⟩
      exact List.forall_mem_singleton.mpr (text?_of_delimiter (.inr hclosing))
    have hsettled : o.settleIn behind last (opening :: (inner ++ [close]) ++ ts) =
        opening :: (inner ++ [close]) ++ o.settleIn behind _ ts :=
      Trimming.settleIn_append_of_not_text htag last
    simp only [List.cons_append, List.append_assoc, List.nil_append] at hsettled
    rw [hsettled]
    exact .tag hopening hinner hclosing (ih _)

/-- The tokens of a source are texts and tags, one after the other. -/
theorem grouped_of_tokenize (h : tokenize o name source = .ok ts) : Grouped ts := by
  obtain ⟨scan, hscan, hts⟩ := ok_of_bind h
  cases hts
  have hbegin : scanFrom name (.behind []) source.toList = .ok scan := hscan
  obtain ⟨pieces, hlayout, -, rfl⟩ := layout_of_scanFrom hbegin
  rw [Trimming.settle_eq_settleIn]
  exact (hlayout.grouped []).settleIn o none none

end Token

/-!
## Detours

The reader of nodes provides for two places that it never comes to: a delimiter that is not closed,
and a token that no node begins with. Here it is left open what it does there. A third such place is
added, where the tokens that it is about to hand out as arguments have a text or a delimiter among
them. A reader that never comes to such a place reads the same with all detours. One that does come
to one fails or goes on as the detours say.
-/

/-- What a reader does at places that it should never come to. -/
structure Detours where
  /-- No delimiter closes the one at this position. -/
  unclosed : Position → Symbol → Drafting (List Token × Position)
  /-- A text or a delimiter is among these arguments, behind which the tag is closed at this
  position. -/
  mixed : List Token → Position → Drafting (List Token × Position)
  /-- A node begins with this token, which neither is a text nor opens a tag. -/
  stray : Token → Drafting Node

/-- What the reader of nodes does at these places. -/
def Detours.own : Detours where
  unclosed opening s := Drafting.refuse opening (.unclosedDelimiter s)
  mixed args close := pure (args, close)
  stray t := Drafting.refuse t.position (.unexpected t)

/-- Takes the tokens up to the delimiter that closes the one at `opening`. All arguments come from
here: those of a tag, of the tag that ends a body, and of an output. -/
def Drafting.contentVia (g : Detours) (opening : Position) (openSymbol closeSymbol : Symbol) :
    Drafting (List Token × Position) := do
  let draft ← get
  let inner := draft.tokens.takeWhile fun t => !t.closes
  match draft.tokens.drop inner.length with
  | [] => g.unclosed opening openSymbol
  | close :: rest =>
    match close.lexeme with
    | .symbol found =>
      if found = closeSymbol then
        set { draft with tokens := rest }
        if inner.all Token.isInner then pure (inner, close.position)
        else g.mixed inner close.position
      else refuse close.position (.wrongDelimiter openSymbol closeSymbol found)
    | _ => g.unclosed opening openSymbol

/-- Reads nodes up to an ending tag. -/
def Section.upToVia (g : Detours) (node : Drafting Node) (ends : List String) (opener : Token) :
    Nat → List Node → Drafting Section
  | 0, _ => Drafting.refuse opener.position (.unclosedConstruct opener.value ends)
  | n + 1, acc => do
    let draft ← get
    match draft.tokens with
    | [] => Drafting.refuse opener.position (.unclosedConstruct opener.value ends)
    | t :: rest =>
      match ending? ends (t :: rest) with
      | some (ending, rest) =>
        set { draft with tokens := rest }
        let (args, close) ← Drafting.contentVia g t.position .openTag .closeTag
        pure ⟨acc.reverse, ending, args, close⟩
      | none => upToVia g node ends opener n ((← node) :: acc)

namespace Node

/-- Reads the output of an expression. -/
def readOutputVia (g : Detours) (opening : Position) : Drafting Node := do
  let (args, close) ← Drafting.contentVia g opening .openOutput .closeOutput
  if args.isEmpty then Drafting.refuse opening .emptyOutput
  let e ← Drafting.argumentsOf "\x7b\x7b \x7d\x7d" close args Arguments.expression
  modify fun draft => { draft with seenContent := true }
  pure (.output opening e)

/-- Reads a tag. -/
def readTagVia (g : Detours) (top : Bool) (wrap : SectionReader) (opening : Position) :
    Drafting Node := do
  let draft ← get
  match draft.tokens with
  | [] => Drafting.refuse opening .noTagName
  | start :: rest =>
    match start.name? with
    | none => Drafting.refuse opening .noTagName
    | some name =>
      let tags := (← readThe DraftScope).catalog.tags
      if tags.isBanned name then Drafting.refuse start.position (.bannedTag name)
      match tags.find? name with
      | none => Drafting.refuse start.position (.unknownTag name)
      | some ref =>
        set { draft with tokens := rest }
        let (args, close) ← Drafting.contentVia g opening .openTag .closeTag
        let (statement, left) ← TagReader.ofRef ref { start, args, close, top, wrap }
        Drafting.argumentsOf name close left (pure ())
        modify fun draft => { draft with seenContent := true }
        pure (.tag name start.position statement)

/-- Reads the next node, given how to read the body of a tag. -/
def readWithVia (g : Detours) (top : Bool) (wrap : SectionReader) : Drafting Node := do
  let draft ← get
  match draft.tokens with
  | [] => pure (.text "")
  | t :: rest =>
    match t.lexeme with
    | .text s =>
      let blank := s.toList.all Text.isBlank
      set { draft with tokens := rest, seenContent := draft.seenContent || !blank }
      pure (.text s)
    | .symbol .openOutput =>
      set { draft with tokens := rest }
      readOutputVia g t.position
    | .symbol .openTag =>
      set { draft with tokens := rest }
      readTagVia g top wrap t.position
    | _ => g.stray t

/-- Reads the next node where `room` more tags with a body may nest. -/
def readVia (g : Detours) : (room : Nat) → (top : Bool) → Drafting Node
  | 0, top => readWithVia g top Section.tooDeep
  | room + 1, top => readWithVia g top fun ends opener => do
    Section.upToVia g (readVia g room false) ends opener ((← get).tokens.length + 1) []

/-- Reads nodes to the end. -/
def readAllVia (g : Detours) (room : Nat) : Nat → List Node → Drafting (List Node)
  | 0, acc => pure acc.reverse
  | n + 1, acc => do
    match (← get).tokens with
    | [] => pure acc.reverse
    | _ => readAllVia g room n ((← readVia g room true) :: acc)

end Node

/-! ### The detours of the reader -/

section Own

open Drafting

theorem contentVia_own : contentVia .own = content := by
  funext opening openSymbol closeSymbol
  simp only [contentVia, Detours.own, ite_self]
  rfl

theorem upToVia_own (node : Drafting Node) (ends : List String) (opener : Token) (n : Nat)
    (acc : List Node) :
    Section.upToVia .own node ends opener n acc = Section.upTo node ends opener n acc := by
  induction n generalizing acc with
  | zero => rfl
  | succ n ih =>
    simp only [upTo_succ, ← contentVia_own, ← ih]
    rfl

theorem readWithVia_own (top : Bool) (wrap : SectionReader) :
    Node.readWithVia .own top wrap = Node.readWith top wrap := by
  unfold Node.readWithVia Node.readOutputVia Node.readTagVia
  rw [contentVia_own]
  rfl

theorem readVia_own (room : Nat) (top : Bool) :
    Node.readVia .own room top = Node.read room top := by
  induction room generalizing top with
  | zero => exact readWithVia_own _ _
  | succ room ih =>
    simp only [Node.readVia, Node.read, readWithVia_own, upToVia_own, ih]

/-- With its own detours the reader of nodes is what it is. -/
theorem readAllVia_own (room n : Nat) (acc : List Node) :
    Node.readAllVia .own room n acc = Node.readAll room n acc := by
  induction n generalizing acc with
  | zero => rfl
  | succ n ih =>
    simp only [Node.readAll, ← readVia_own, ← ih]
    rfl

end Own

/-!
## Readers that agree

With different detours the readers do the same as long as texts and whole tags are to come. Each of
them leaves such tokens to the next one, so the detours never matter.
-/

section Agreement

open Token Drafting

variable {scope : DraftScope} {d : Draft} {g g' : Detours} {α β : Type} {t : Token}
  {ts : List Token}

/-- The tokens begin inside of a tag, and behind it there are texts and tags. -/
def Token.InTag (ts : List Token) : Prop :=
  ∃ s inner close rest, Content s ts inner close rest ∧ (∀ t ∈ inner, t.isInner = true) ∧
    Grouped rest

namespace Drafting

/-- Run on the draft `d`, both readers do the same, and if they read something, texts and tags are
left. -/
def AgreeAt (scope : DraftScope) (d : Draft) (m m' : Drafting α) : Prop :=
  m scope d = m' scope d ∧ ∀ a d', m scope d = (.ok a, d') → Grouped d'.tokens

/-- Run where texts and tags are to come, both readers do the same, and if they read something, such
tokens are left. -/
def Agree (scope : DraftScope) (m m' : Drafting α) : Prop :=
  ∀ d, Grouped d.tokens → AgreeAt scope d m m'

end Drafting

/-- Readers of bodies that agree. -/
def SectionReader.Agree (scope : DraftScope) (wrap wrap' : SectionReader) : Prop :=
  ∀ ends opener, Drafting.Agree scope (wrap ends opener) (wrap' ends opener)

/-! ### The inside of a tag -/

theorem not_closes_of_isInner (h : t.isInner = true) : t.closes = false :=
  Bool.eq_false_iff.mpr fun hcloses => (isInner_iff.mp h).2.2 ((closing_iff t).mpr hcloses)

theorem exists_symbol_of_closing {lexeme : Lexeme} (h : Closing lexeme) :
    ∃ s, lexeme = .symbol s := by
  cases lexeme with
  | symbol s => exact ⟨s, rfl⟩
  | text | keyword | identifier | string | number => exact h.elim

/-- Behind the delimiter that opens a tag is its inside. -/
theorem Token.Grouped.inTag (h : Grouped (t :: ts)) (ht : Opening t.lexeme) : InTag ts := by
  cases h with
  | text htext =>
    rw [htext] at ht
    exact ht.elim
  | @tag _ close inner rest _ hinner hclosing hrest =>
    obtain ⟨s, hs⟩ := exists_symbol_of_closing hclosing
    exact ⟨s, inner, close, rest, ⟨rfl, fun t ht => not_closes_of_isInner (hinner t ht), hs,
      (closing_iff close).mp hclosing⟩, hinner, hrest⟩

/-- Behind a token that does not close the tag its inside goes on. -/
theorem Token.InTag.tail (h : InTag (t :: ts)) (ht : t.closes = false) : InTag ts := by
  obtain ⟨s, inner, close, rest, ⟨htokens, hcloses, hs, hclose⟩, hinner, hrest⟩ := h
  cases inner with
  | nil =>
    cases htokens
    rw [ht] at hclose
    cases hclose
  | cons u inner =>
    cases htokens
    exact ⟨s, inner, close, rest, ⟨rfl, (List.forall_mem_cons.mp hcloses).2, hs, hclose⟩,
      (List.forall_mem_cons.mp hinner).2, hrest⟩

theorem Token.Grouped.tail {s : String} (h : Grouped (t :: ts)) (ht : t.lexeme = .text s) :
    Grouped ts := by
  cases h with
  | text _ h => exact h
  | tag hopening =>
    rw [ht] at hopening
    exact hopening.elim

/-- Texts and tags begin with a text or with a delimiter that opens a tag. -/
theorem Token.Grouped.begins (h : Grouped (t :: ts)) :
    (∃ s, t.lexeme = .text s) ∨ t.lexeme = .symbol .openOutput ∨ t.lexeme = .symbol .openTag := by
  cases h with
  | text ht => exact .inl ⟨_, ht⟩
  | tag hopening =>
    obtain ⟨s, hs, hopens⟩ := exists_symbol_of_opening hopening
    cases s with
    | openOutput => exact .inr (.inl hs)
    | openTag => exact .inr (.inr hs)
    | _ => cases hopens

/-! ### Rules -/

section Rules

variable {m m' : Drafting α} {f f' : α → Drafting β}

theorem agreeAt_pure (a : α) (hd : Grouped d.tokens) : AgreeAt scope d (pure a) (pure a) := by
  refine ⟨rfl, ?_⟩
  rintro _ _ ⟨⟩
  exact hd

theorem agree_pure (a : α) : Agree scope (pure a) (pure a) := fun _ hd => agreeAt_pure a hd

theorem agreeAt_refuse (p : Position) (fault : ParseFault) :
    AgreeAt scope d (refuse p fault : Drafting α) (refuse p fault) := ⟨rfl, nofun⟩

theorem agree_refuse (p : Position) (fault : ParseFault) :
    Agree scope (refuse p fault : Drafting α) (refuse p fault) := fun _ _ => agreeAt_refuse p fault

theorem agreeAt_refuse_bind (p : Position) (fault : ParseFault) :
    AgreeAt scope d (refuse p fault >>= f) (refuse p fault >>= f') := ⟨rfl, nofun⟩

theorem agreeAt_bind (hm : AgreeAt scope d m m') (hf : ∀ a, Agree scope (f a) (f' a)) :
    AgreeAt scope d (m >>= f) (m' >>= f') := by
  obtain ⟨hsame, hleft⟩ := hm
  unfold AgreeAt
  rw [run_bind, run_bind, ← hsame]
  rcases hread : m scope d with ⟨_ | a, d'⟩
  · exact ⟨rfl, nofun⟩
  · exact hf a d' (hleft a d' hread)

theorem agree_bind (hm : Agree scope m m') (hf : ∀ a, Agree scope (f a) (f' a)) :
    Agree scope (m >>= f) (m' >>= f') := fun d hd => agreeAt_bind (hm d hd) hf

theorem agree_map {f : α → β} (hm : Agree scope m m') :
    Agree scope (do return f (← m)) (do return f (← m')) :=
  agree_bind hm fun a => agree_pure (f a)

theorem agreeAt_ite {c : Prop} [Decidable c] {n n' : Drafting α} (h : AgreeAt scope d m m')
    (h' : AgreeAt scope d n n') : AgreeAt scope d (if c then m else n) (if c then m' else n') := by
  split
  · exact h
  · exact h'

theorem agree_ite {c : Prop} [Decidable c] {n n' : Drafting α} (h : Agree scope m m')
    (h' : Agree scope n n') : Agree scope (if c then m else n) (if c then m' else n') :=
  fun d hd => agreeAt_ite (h d hd) (h' d hd)

theorem agree_read_bind {f f' : DraftScope → Drafting β} (h : Agree scope (f scope) (f' scope)) :
    Agree scope (read >>= f) (read >>= f') := h

theorem agreeAt_read_bind {f f' : DraftScope → Drafting β}
    (h : AgreeAt scope d (f scope) (f' scope)) : AgreeAt scope d (read >>= f) (read >>= f') := h

theorem agreeAt_get_bind {f f' : Draft → Drafting β} (h : AgreeAt scope d (f d) (f' d)) :
    AgreeAt scope d (get >>= f) (get >>= f') := h

theorem agree_get_bind {f f' : Draft → Drafting β}
    (h : ∀ d, Grouped d.tokens → AgreeAt scope d (f d) (f' d)) :
    Agree scope (get >>= f) (get >>= f') := h

theorem agreeAt_set_bind {d' : Draft} {f f' : PUnit → Drafting β}
    (h : AgreeAt scope d' (f ⟨⟩) (f' ⟨⟩)) :
    AgreeAt scope d (set d' >>= f) (set d' >>= f') := h

/-- A reader that takes no tokens agrees with itself. -/
theorem agree_of_tokens (h : ∀ d, (m scope d).2.tokens = d.tokens) : Agree scope m m := by
  refine fun d hd => ⟨rfl, fun a d' hread => ?_⟩
  have htokens := h d
  rw [hread] at htokens
  exact htokens ▸ hd

end Rules

/-! ### Steps -/

theorem agree_arguments {close : Position} {args : List Token} {r : Arguments α} :
    Agree scope (Drafting.arguments close args r) (Drafting.arguments close args r) := by
  refine agree_read_bind ?_
  generalize r _ args = result
  cases result with
  | ok a => exact agree_pure a
  | error e => exact fun _ _ => ⟨rfl, nofun⟩

theorem agree_argumentsOf {tag : String} {close : Position} {args : List Token} {r : Arguments α} :
    Agree scope (argumentsOf tag close args r) (argumentsOf tag close args r) :=
  agree_map agree_arguments

theorem agree_load (name : String) (t : Token) :
    Agree scope (Drafting.load name t) (Drafting.load name t) := by
  refine agree_read_bind (agree_get_bind fun d hd => ?_)
  generalize (scope.load name).run d.library = out
  obtain ⟨result, library⟩ := out
  refine agreeAt_set_bind ?_
  match result with
  | .ok found => exact agreeAt_pure found hd
  | .error .exhausted => exact ⟨rfl, nofun⟩
  | .error (.error e) =>
    dsimp only
    split <;> exact ⟨rfl, nofun⟩

theorem agree_registerBlock (name : String) (body : Body) (t : Token) :
    Agree scope (registerBlock name body t) (registerBlock name body t) := by
  refine agree_of_tokens fun d => ?_
  unfold registerBlock
  rw [run_get_bind]
  split <;> rfl

theorem agree_registerMacro (m : Macro) (t : Token) :
    Agree scope (registerMacro m t) (registerMacro m t) := by
  refine agree_of_tokens fun d => ?_
  unfold registerMacro
  rw [run_get_bind]
  split <;> rfl

/-- Inside of a tag its arguments are taken up to its end, and no detour is made. -/
theorem agreeAt_content (opening : Position) (openSymbol closeSymbol : Symbol)
    (hd : InTag d.tokens) :
    AgreeAt scope d (contentVia g opening openSymbol closeSymbol)
      (contentVia g' opening openSymbol closeSymbol) := by
  obtain ⟨s, inner, close, rest, hcontent, hinner, hrest⟩ := hd
  have htake : d.tokens.takeWhile (fun t => !t.closes) = inner := by
    rw [hcontent.tokens, takeWhile_of_not_closes hcontent.inner hcontent.closes]
  have hdrop : d.tokens.drop inner.length = close :: rest := by
    rw [hcontent.tokens, List.drop_left]
  have hall : inner.all Token.isInner = true := List.all_eq_true.mpr hinner
  refine agreeAt_get_bind ?_
  simp only [htake, hdrop, hcontent.symbol, hall, if_true]
  split
  · exact agreeAt_set_bind (agreeAt_pure _ hrest)
  · exact agreeAt_refuse _ _

/-!
### Tags

A tag comes to further tokens through its reader of bodies only, so readers of bodies that agree can
be exchanged.
-/

section Tags

variable {s : TagScope} {wrap : SectionReader} (hwrap : s.wrap.Agree scope wrap)

theorem agree_body (part : Section) : Agree scope part.body part.body :=
  agree_map agree_argumentsOf

include hwrap in
theorem agree_bodyUpTo (ending : String) :
    Agree scope (TagReader.bodyUpTo s ending) (TagReader.bodyUpTo { s with wrap } ending) :=
  agree_bind (hwrap _ _) agree_body

include hwrap in
theorem agree_bodies (middle ending : String) :
    Agree scope (TagReader.bodies s middle ending)
      (TagReader.bodies { s with wrap } middle ending) := by
  refine agree_bind (hwrap _ _) fun first => agree_bind (agree_body first) fun body => ?_
  exact agree_ite (agree_map (agree_bodyUpTo hwrap ending)) (agree_pure _)

include hwrap in
theorem agree_branches (n : Nat) (condition : Expr) :
    Agree scope (TagReader.branches s n condition)
      (TagReader.branches { s with wrap } n condition) := by
  induction n generalizing condition with
  | zero => exact agree_refuse _ _
  | succ n ih =>
    refine agree_bind (hwrap _ _) fun part => ?_
    split
    · exact agree_bind agree_argumentsOf fun next => agree_map (ih next)
    · exact agree_bind (agree_body part) fun _ => agree_map (agree_bodyUpTo hwrap _)
    · exact agree_map (agree_body part)

include hwrap in
theorem agree_sections (ends : List String) (n : Nat) :
    Agree scope (TagReader.sections s ends n) (TagReader.sections { s with wrap } ends n) := by
  induction n with
  | zero => exact agree_refuse _ _
  | succ n ih =>
    refine agree_bind (hwrap _ _) fun part => agree_bind (agree_body part) fun body => ?_
    exact agree_ite (agree_pure _) (agree_map ih)

theorem agree_extending : Agree scope (TagReader.extending s) (TagReader.extending s) := by
  refine agree_get_bind fun d hd => ?_
  split
  · split <;> exact agreeAt_refuse_bind _ _
  · split
    · exact agreeAt_refuse_bind _ _
    · refine agreeAt_bind (agree_arguments d hd) fun found => ?_
      dsimp only
      split
      · refine agree_bind (agree_load _ _) fun loaded => ?_
        split
        · exact agree_of_tokens fun _ => rfl
        · exact fun _ _ => agreeAt_refuse_bind _ _
      · exact agree_of_tokens fun _ => rfl

theorem agree_including : Agree scope (TagReader.including s) (TagReader.including s) := by
  refine agree_bind agree_arguments fun found => ?_
  dsimp only
  split
  · refine agree_bind (agree_load _ _) fun loaded => ?_
    split <;> exact agree_of_tokens fun _ => rfl
  · exact agree_of_tokens fun _ => rfl

theorem agree_importing : Agree scope (TagReader.importing s) (TagReader.importing s) := by
  refine agree_bind agree_arguments fun found => agree_bind (agree_load _ _) fun loaded => ?_
  dsimp only
  split
  · exact agree_refuse _ _
  · exact agree_map agree_arguments

include hwrap in
theorem agree_builtin (tag : Tag) :
    Agree scope (TagReader.builtin tag s) (TagReader.builtin tag { s with wrap }) := by
  cases tag with
  | branch =>
    refine agree_bind agree_arguments fun found => agree_get_bind fun d hd => ?_
    exact agreeAt_bind (agree_branches hwrap _ _ d hd) fun _ => agree_pure _
  | compareEqual | compareUnequal | loop =>
    exact agree_bind agree_arguments fun _ => agree_map (agree_bodies hwrap _ _)
  | block =>
    refine agree_bind agree_arguments fun found => agree_bind (hwrap _ _) fun part => ?_
    exact agree_bind agree_argumentsOf fun _ =>
      agree_bind (agree_registerBlock _ _ _) fun _ => agree_pure _
  | extending => exact agree_extending
  | including => exact agree_including
  | importing => exact agree_importing
  | define =>
    refine agree_bind agree_arguments fun found => ?_
    refine agree_bind (agree_bodyUpTo hwrap _) fun body => ?_
    exact agree_ite (agree_bind (agree_registerMacro _ _) fun _ => agree_pure _) (agree_pure _)
  | cycle | firstOf | assign | now | templatetag | widthratio => exact agree_map agree_arguments
  | bind | autoescape | filtering =>
    exact agree_bind agree_arguments fun _ => agree_map (agree_bodyUpTo hwrap _)
  | spaceless | comment => exact agree_map (agree_bodyUpTo hwrap _)

include hwrap in
theorem agree_custom (tag : CustomTag) :
    Agree scope (TagReader.custom tag s) (TagReader.custom tag { s with wrap }) := by
  refine agree_bind agree_arguments fun found => ?_
  dsimp only
  split
  · exact agree_bind (agree_pure _) fun _ => agree_read_bind (agree_pure _)
  · refine agree_get_bind fun d hd => agreeAt_bind (agree_sections hwrap _ _ d hd) fun _ => ?_
    exact agree_read_bind (agree_pure _)

include hwrap in
theorem agree_ofRef (ref : TagRef) :
    Agree scope (TagReader.ofRef ref s) (TagReader.ofRef ref { s with wrap }) := by
  cases ref with
  | builtin tag => exact agree_builtin hwrap tag
  | custom tag => exact agree_custom hwrap tag

end Tags

/-! ### Nodes -/

section Nodes

theorem agree_seen : Agree scope (modify fun d => { d with seenContent := true } : Drafting PUnit)
    (modify fun d => { d with seenContent := true }) := agree_of_tokens fun _ => rfl

theorem agreeAt_output (opening : Position) (hd : InTag d.tokens) :
    AgreeAt scope d (Node.readOutputVia g opening) (Node.readOutputVia g' opening) := by
  refine agreeAt_bind (agreeAt_content opening _ _ hd) fun found => ?_
  refine agree_ite (fun _ _ => agreeAt_refuse_bind _ _) ?_
  exact agree_bind agree_argumentsOf fun _ => agree_bind agree_seen fun _ => agree_pure _

theorem agreeAt_tag {top : Bool} {wrap wrap' : SectionReader} (hwrap : wrap.Agree scope wrap')
    (opening : Position) (hd : InTag d.tokens) :
    AgreeAt scope d (Node.readTagVia g top wrap opening)
      (Node.readTagVia g' top wrap' opening) := by
  refine agreeAt_get_bind ?_
  split
  · exact agreeAt_refuse _ _
  · rename_i start rest htokens
    split
    · exact agreeAt_refuse _ _
    · rename_i name hname
      have hrest : InTag rest := (htokens ▸ hd).tail (not_closes_of_name? hname)
      refine agreeAt_read_bind (agreeAt_ite (agreeAt_refuse_bind _ _) ?_)
      split
      · exact agreeAt_refuse _ _
      · rename_i ref _
        refine agreeAt_set_bind (agreeAt_bind (agreeAt_content _ _ _ hrest) fun found => ?_)
        have htag : Agree scope (TagReader.ofRef ref ⟨start, found.1, found.2, top, wrap⟩)
            (TagReader.ofRef ref ⟨start, found.1, found.2, top, wrap'⟩) := agree_ofRef hwrap ref
        refine agree_bind htag fun _ => agree_bind agree_argumentsOf fun _ => ?_
        exact agree_bind agree_seen fun _ => agree_pure _

/-- How a node is read is said by its first token, a text or a delimiter that opens a tag. -/
theorem agree_with {top : Bool} {wrap wrap' : SectionReader} (hwrap : wrap.Agree scope wrap') :
    Agree scope (Node.readWithVia g top wrap) (Node.readWithVia g' top wrap') := by
  refine agree_get_bind fun d hd => ?_
  split
  · exact agreeAt_pure _ hd
  · rename_i t rest htokens
    rw [htokens] at hd
    obtain ⟨s, ht⟩ | ht | ht := hd.begins
    · simp only [ht]
      exact agreeAt_set_bind (agreeAt_pure _ (hd.tail ht))
    · simp only [ht]
      exact agreeAt_set_bind (agreeAt_output _ (hd.inTag (ht ▸ rfl)))
    · simp only [ht]
      exact agreeAt_set_bind (agreeAt_tag hwrap _ (hd.inTag (ht ▸ rfl)))

/-- A tag that ends a body is taken up to its name, behind which is its inside. -/
theorem inTag_of_ending? {ends : List String} {rest : List Token} {name : Token}
    (h : Grouped ts) (hending : ending? ends ts = some (name, rest)) : InTag rest := by
  unfold ending? at hending
  split at hending
  · cases hending
  · rename_i t ts
    split at hending
    · rename_i hopen
      split at hending
      · rename_i hname
        cases hending
        obtain ⟨found, hname, -⟩ := (Option.any_eq_true _ _).mp hname
        have hopening : Token.Opening t.lexeme := eq_of_beq hopen ▸ rfl
        exact (h.inTag hopening).tail (not_closes_of_name? hname)
      · cases hending
    · cases hending

theorem agree_upToVia {node node' : Drafting Node} (hnode : Agree scope node node')
    (ends : List String) (opener : Token) (n : Nat) (acc : List Node) :
    Agree scope (Section.upToVia g node ends opener n acc)
      (Section.upToVia g' node' ends opener n acc) := by
  induction n generalizing acc with
  | zero => exact agree_refuse _ _
  | succ n ih =>
    refine agree_get_bind fun d hd => ?_
    split
    · exact agreeAt_refuse _ _
    · rename_i t rest htokens
      rw [htokens] at hd
      split
      · rename_i name rest hending
        have hrest : InTag rest := inTag_of_ending? hd hending
        exact agreeAt_set_bind (agreeAt_bind (agreeAt_content _ _ _ hrest) fun _ => agree_pure _)
      · exact agreeAt_bind (hnode d (htokens ▸ hd)) fun _ => ih _

theorem agree_tooDeep : Section.tooDeep.Agree scope Section.tooDeep :=
  fun _ _ => agree_read_bind (agree_refuse _ _)

/-- A node is read in the same way, and behind it there are texts and tags again. -/
theorem agree_node (room : Nat) (top : Bool) :
    Agree scope (Node.readVia g room top) (Node.readVia g' room top) := by
  induction room generalizing top with
  | zero => exact agree_with agree_tooDeep
  | succ room ih =>
    exact agree_with fun ends opener => agree_get_bind fun d hd =>
      agree_upToVia (ih false) ends opener _ [] d hd

/-- All nodes are read in the same way. -/
theorem agree_all (room n : Nat) (acc : List Node) :
    Agree scope (Node.readAllVia g room n acc) (Node.readAllVia g' room n acc) := by
  induction n generalizing acc with
  | zero => exact agree_pure _
  | succ n ih =>
    refine agree_get_bind fun d hd => ?_
    split
    · exact agreeAt_pure _ hd
    · exact agreeAt_bind (agree_node room true d hd) fun _ => ih _

end Nodes

end Agreement

/-! ## Reading the tokens of a source -/

/-- The tokens of a source are texts and tags, one after the other. While nodes are read from them,
it never happens that a tag is not closed, that arguments with a text or a delimiter among them are
handed out, or that a node begins with anything but a text or an opening delimiter: whatever would
be done then, the same is read. -/
theorem tokenize_groups_tags {o : Trimming} {name source : String} {ts : List Token}
    (h : Token.tokenize o name source = .ok ts) :
    Token.Grouped ts ∧
      ∀ (g : Detours) (scope : DraftScope) (library : Library) (room n : Nat),
        Node.readAllVia g room n [] scope { tokens := ts, library } =
          Node.readAll room n [] scope { tokens := ts, library } := by
  have hgrouped := Token.grouped_of_tokenize h
  refine ⟨hgrouped, fun g scope library room n => ?_⟩
  rw [← readAllVia_own]
  exact (agree_all room n [] _ hgrouped).1

/-- The tokens of a source with delimiters in strings, in a verbatim block and in a comment. -/
def quotedTokens : List Token :=
  [⟨.text "a", ⟨"page", 1, 1⟩, false⟩, ⟨.symbol .openOutput, ⟨"page", 1, 3⟩, true⟩,
    ⟨.string "\x7d\x7d", ⟨"page", 1, 7⟩, false⟩, ⟨.symbol .closeOutput, ⟨"page", 1, 12⟩, false⟩,
    ⟨.text "\x7b\x7b ", ⟨"page", 1, 28⟩, false⟩, ⟨.symbol .openTag, ⟨"page", 1, 56⟩, false⟩,
    ⟨.identifier "now", ⟨"page", 1, 59⟩, false⟩, ⟨.string "%\x7d", ⟨"page", 1, 63⟩, false⟩,
    ⟨.symbol .closeTag, ⟨"page", 1, 68⟩, false⟩]

theorem tokenize_groups_tags_quoted :
    Token.tokenize {} "page" ("a \x7b\x7b- \"\x7d\x7d\" \x7d\x7d" ++
        "\x7b% verbatim %\x7d\x7b\x7b \x7b% endverbatim %\x7d\x7b# %\x7d #\x7d" ++
        "\x7b% now \"%\x7d\" %\x7d") = .ok quotedTokens ∧
      Token.Grouped quotedTokens ∧
      ∀ (g : Detours) (scope : DraftScope) (library : Library) (room n : Nat),
        Node.readAllVia g room n [] scope { tokens := quotedTokens, library } =
          Node.readAll room n [] scope { tokens := quotedTokens, library } := by
  have h : Token.tokenize {} "page" ("a \x7b\x7b- \"\x7d\x7d\" \x7d\x7d" ++
      "\x7b% verbatim %\x7d\x7b\x7b \x7b% endverbatim %\x7d\x7b# %\x7d #\x7d" ++
      "\x7b% now \"%\x7d\" %\x7d") = .ok quotedTokens := ok_of_toOption (by decide +kernel)
  exact ⟨h, tokenize_groups_tags h⟩

end Stencil
