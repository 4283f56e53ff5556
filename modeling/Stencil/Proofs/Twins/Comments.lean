import Stencil.Proofs.Twins.Renders
import Stencil.Proofs.Within.Texts

/-!
# Sets that differ in the bodies of comments

A source may lack what stands in the comments of another one. If that notes nothing, then both are
compiled to templates that are alike, as long as tags do not nest too deep in the comments. They do
not where the first source was compiled once: how deep tags nest has nothing to do with the set.
-/

namespace Stencil

open Library Drafting

/-! ## Bodies of comments -/

section Bodies

/-- Somewhere the tokens `body` were read up to the tag `last` as what a comment wraps, with the
tokens `rest` behind that tag. -/
inductive Catalog.Comments (c : Catalog) (o : Settings) (body : List Token) (last : TagTokens)
    (rest : List Token) : Prop
  | intro {scope : DraftScope} {room : Nat} {opener : Token} {d e : Draft} {part : Section}
    (catalog : scope.catalog = c) (settings : scope.settings = o)
    (read : Section.reader room ["endcomment"] opener scope d = (.ok part, e))
    (covers : part.Covers ["endcomment"] d.tokens body last rest) (left : e.tokens = rest)

/-- What stands behind the name of a comment, and what stands there if the comment lacks its body,
in which nothing is noted. -/
inductive Catalog.Empties (c : Catalog) (o : Settings) :
    Tag → List Token → List Token → List Token → Prop
  | comment {close close' : Token} {body rest : List Token} {last last' : TagTokens} :
    c.tags.find? "comment" = some (.builtin .comment) →
    close.lexeme = .symbol .closeTag → close'.lexeme = .symbol .closeTag →
    c.Comments o body last rest → c.Quiet body → last.args = [] →
    last'.start.name? = some "endcomment" → last'.args = [] →
    Catalog.Empties c o .comment (close :: (body ++ last.tokens)) (close' :: last'.tokens) rest

variable {scope : DraftScope} {d e : Draft} {body body' : List Token} {last last' : TagTokens}
  {rest : List Token} {part part' : Section} {place : Position → Prop}

/-- How long a section is shows in the tag that ends it. -/
theorem Section.Covers.body_eq {ends ends' : List String} {ts : List Token}
    (h : part.Covers ends ts body last rest) (h' : part'.Covers ends' ts body' last' rest)
    (hbound : part'.bound = part.bound) : body' = body := by
  have hargs : last'.args = last.args := by
    rw [← h'.args, ← h.args]
    exact congrArg (fun b => b.2.1) hbound
  refine (List.append_inj' (h'.tokens.symm.trans h.tokens) ?_).1
  simp only [TagTokens.tokens, hargs, List.length_append, List.length_cons]

/-- A body that was read once is read again, and nothing is noted, unless tags nest too deep. -/
theorem read_body (h : scope.catalog.Comments scope.settings body last rest)
    (hquiet : scope.catalog.Quiet body) (hd : d.tokens = body ++ (last.tokens ++ rest))
    (hplace : ∀ t ∈ d.tokens, place t.position)
    (hload : ∀ other l h, ((scope.load other).run l).1 = .error h → ¬h.Cramped place) (room : Nat)
    (opener : Token) :
    (∃ part e, Section.reader room ["endcomment"] opener scope d = (.ok part, e) ∧
        part.args = last.args ∧ e.tokens = rest ∧ d.Same e) ∨
      ∃ h e, Section.reader room ["endcomment"] opener scope d = (.error h, e) ∧
        h.Cramped place := by
  obtain @⟨scope₀, room₀, opener₀, d₀, e₀, part₀, hcatalog, hsettings, hread, hcovers, rfl⟩ := h
  let g : Rereading := ⟨place, scope₀, scope, True, hcatalog.symm, hsettings.symm, hload⟩
  have htokens : d.tokens = d₀.tokens := hd.trans hcovers.tokens.symm
  have hlevel : d₀.Level g.place d := ⟨htokens, htokens ▸ hplace⟩
  obtain ⟨body₁, last₁, hcovers₁, -, hagain⟩ := @covers_of_upTo g [] d₀ d e₀ _ _ _ opener₀ opener
    _ [] [] (fun _ => uses_node (.inr trivial) false) _ hlevel hread
  rw [reader_eq, htokens]
  generalize hrun : Section.upTo (Node.read room false) _ opener _ [] scope d = run at hagain ⊢
  cases hagain with
  | @ok part e hbound he =>
    refine .inl ⟨part, e, rfl, ?_, he, ?_⟩
    · exact (congrArg (fun b => b.2.1) hbound).trans hcovers.args
    · obtain ⟨body₂, last₂, hcovers₂, hsame, -⟩ := @covers_of_upTo (.alone scope) [] d d e _ _ _
        opener opener _ [] [] (fun _ => uses_alone room false) _ ⟨rfl, fun _ _ => trivial⟩ hrun
      rw [he, htokens] at hcovers₂
      obtain rfl := hcovers.body_eq hcovers₂ hbound
      exact hsame hquiet
  | cramped _ hh => exact .inr ⟨_, _, rfl, hh⟩
  | noted hloud _ =>
    obtain rfl := hcovers.body_eq hcovers₁ rfl
    exact absurd (hcatalog.symm ▸ hquiet) hloud

end Bodies

/-! ## Comments -/

section Comments

variable {scope : DraftScope} {d d' : Draft} {t : TagTokens} {top : Bool} {name : String}
  {rest : List Token} {part : Section}

/-- What is read of a comment behind its body. -/
def closeComment (name : String) (t : TagTokens) (part : Section) : Drafting Node := do
  argumentsOf part.ending.value part.close part.args (pure ())
  argumentsOf name t.close.position t.args (pure ())
  modify fun draft => { draft with seenContent := true }
  pure (.tag name t.start.position .nothing)

theorem readTag_comment {wrap : SectionReader} {p : Position} (hname : t.start.name? = some name)
    (hcomment : scope.catalog.tags.find? name = some (.builtin .comment))
    (hallowed : scope.catalog.tags.isBanned name = false) :
    Node.readTag top wrap p scope { d with tokens := t.start :: (t.args ++ t.close :: rest) } =
      (wrap ["endcomment"] t.start >>= closeComment name t) scope { d with tokens := rest } := by
  rw [readTag_builtin hname hcomment hallowed]
  simp only [TagReader.builtin, TagReader.comment, TagReader.bodyUpTo, Section.body, bind_assoc,
    pure_bind]
  rfl

/-- A tag that is banned is refused. -/
theorem readWith_refused {wrap : SectionReader} (hname : t.start.name? = some name)
    (h : scope.catalog.tags.isBanned name = true) (hd : d.tokens = t.tokens ++ rest) :
    ∃ q fault e, Node.readWith top wrap scope d = (.error (.error (.atPosition q fault)), e) ∧
      e.library = d.library := by
  rw [readWith_tag hd]
  unfold Node.readTag
  rw [run_get_bind]
  simp only [hname]
  change ∃ q fault e, (if scope.catalog.tags.isBanned name = true then _ else _ : Drafting Node)
    scope _ = _ ∧ _
  rw [if_pos h]
  exact ⟨_, _, _, rfl, rfl⟩

/-- A comment is read where its body is. -/
theorem readWith_comment {wrap : SectionReader} {e : Draft} (hname : t.start.name? = some name)
    (hcomment : scope.catalog.tags.find? name = some (.builtin .comment))
    (hallowed : scope.catalog.tags.isBanned name = false) (ht : t.args = [])
    (hd : d.tokens = t.tokens ++ rest) (hpart : part.args = [])
    (h : wrap ["endcomment"] t.start scope { d with tokens := rest } = (.ok part, e)) :
    Node.readWith top wrap scope d =
      (.ok (.tag name t.start.position .nothing), { e with seenContent := true }) := by
  rw [readWith_tag hd, readTag_comment hname hcomment hallowed, run_bind, h]
  unfold closeComment
  dsimp only
  rw [ht, hpart]
  rfl

/-- A comment is not read where its body is not. -/
theorem readWith_comment_error {wrap : SectionReader} {h : Halt} {e : Draft}
    (hname : t.start.name? = some name)
    (hcomment : scope.catalog.tags.find? name = some (.builtin .comment))
    (hallowed : scope.catalog.tags.isBanned name = false) (hd : d.tokens = t.tokens ++ rest)
    (hbody : wrap ["endcomment"] t.start scope { d with tokens := rest } = (.error h, e)) :
    Node.readWith top wrap scope d = (.error h, e) := by
  rw [readWith_tag hd, readTag_comment hname hcomment hallowed, run_bind, hbody]

end Comments

/-!
## Where errors of loading stand

While a template is being compiled it is not compiled again, so no error of what it loads stands in
it.
-/

section Elsewhere

variable {name : String}

/-- All may be said, but reading does not fail in the template `name`. -/
def Vocabulary.elsewhere (name : String) : Vocabulary where
  unread p := p.template ≠ name

theorem wide_elsewhere (name : String) : (Vocabulary.elsewhere name).Wide :=
  ⟨fun _ => trivial, fun _ => trivial, trivial, nofun⟩

theorem whole_le_elsewhere (name : String) : Vocabulary.whole.Le (.elsewhere name) :=
  ⟨id, id, id, id, id, id⟩

theorem not_cramped_of_unread {h : Halt} (hh : h.Unread (.elsewhere name)) :
    ¬h.Cramped (·.template = name) := by
  rintro ⟨p, n, hp, rfl⟩
  exact hh hp

/-- What is compiled from a source with another name does not fail in the template `name`. -/
theorem unread_of_compileWith {link : Linker} {path : String} {underway : List String}
    (hpath : path ≠ name) (source : String) (l : Library)
    (hlink : ∀ other referrer l, Ends (fun _ => True) (Halt.Unread (.elsewhere name))
      (link other referrer underway l).1) :
    Ends (fun _ => True) (Halt.Unread (.elsewhere name))
      (compileWith link path source underway l).1 := by
  rw [compileWith_eq]
  split <;> rename_i hread
  · obtain ⟨p, fault, rfl, hp, -⟩ := Token.standsIn_of_tokenize_error hread
    exact hp.trans_ne hpath
  · rename_i tokens
    have hspots : (Vocabulary.elsewhere name).Spots tokens := fun t ht =>
      ⟨trivial, (Token.standsIn_of_tokenize hread t ht).1.trans_ne hpath⟩
    have hscope : DraftScope.Within (.elsewhere name) (fun _ => True)
        ⟨path, l.catalog, l.settings, fun other => link other (some path) underway⟩ := by
      refine ⟨.inl fun statement => statement.within_whole.mono (whole_le_elsewhere name),
        fun other l' _ => ⟨trivial, ?_⟩⟩
      exact (hlink other (some path) l').imp fun found _ t _ _ =>
        t.within_whole.mono (whole_le_elsewhere name)
    obtain ⟨-, hresult⟩ := abides_all (wide_elsewhere name) hscope l.settings.maxNestingDepth
      (tokens.length + 1) (List.forall_mem_nil _)
      { tokens, library := { l with compiledAny := true } } ⟨hspots, nofun, nofun, nofun, trivial⟩
    dsimp only
    generalize Node.readAll _ _ _ _ _ = out at hresult ⊢
    obtain ⟨result | nodes, draft⟩ := out
    · exact hresult
    · trivial

/-- What is loaded while the template `name` is being compiled does not fail in it. -/
theorem unread_of_link {underway : List String} (hname : name ∈ underway) (fuel : Nat)
    (other : String) (referrer : Option String) (l : Library) :
    Ends (fun _ => True) (Halt.Unread (.elsewhere name))
      (link fuel other referrer underway l).1 := by
  induction fuel generalizing other referrer underway l with
  | zero => trivial
  | succ fuel ih =>
    rw [link_succ]
    split
    · trivial
    · split
      · exact unread_of_open? ‹_›
      · rename_i path source hopen
        split
        · trivial
        · have hpath : path ≠ name := fun h => ‹path ∉ underway› (h ▸ hname)
          have hcompiled := unread_of_compileWith hpath source l
            fun other referrer l => ih (List.mem_cons_of_mem path hname) other referrer l
          split <;> rename_i heq <;> rw [heq] at hcompiled
          · exact hcompiled
          · trivial

/-- A template that was compiled was read from its tokens. -/
theorem exists_readAll_of_compileWith {link : Linker} {source : String} {underway : List String}
    {l : Library} {t : Template} (h : (compileWith link name source underway l).1 = .ok t) :
    ∃ tokens load a nodes, Token.tokenize l.settings.trimming name source = .ok tokens ∧
      (Node.readAll l.settings.maxNestingDepth (tokens.length + 1) []
        ⟨name, l.catalog, l.settings, load⟩ { tokens, library := a }).1 = .ok nodes := by
  rw [compileWith_eq] at h
  split at h
  · cases h
  · rename_i tokens hread
    refine ⟨tokens, fun other => link other (some name) underway, { l with compiledAny := true },
      ?_⟩
    dsimp only at h
    generalize Node.readAll _ _ _ _ _ = out at h ⊢
    obtain ⟨_ | nodes, d⟩ := out
    · cases h
    · exact ⟨nodes, hread, rfl⟩

/-- Where a source was compiled once, tags do not nest too deep in it. -/
theorem not_cramped_of_compiles {source : String} {l l₀ : Library} {t : Template}
    {underway : List String} (hcompiles : (compile name source l₀).1 = .ok t)
    (hcatalog : l₀.catalog = l.catalog) (hsettings : l₀.settings = l.settings)
    (hname : name ∈ underway) (fuel : Nat) {h : Halt}
    (hh : (compileWith (link fuel) name source underway l).1 = .error h) :
    ¬h.Cramped (·.template = name) := by
  unfold compile at hcompiles
  rw [keeping_get_bind] at hcompiles
  obtain ⟨tokens, load, a, nodes, hread, hok⟩ := exists_readAll_of_compileWith hcompiles
  rw [hsettings] at hread
  rw [hsettings, hcatalog] at hok
  rw [compileWith_eq, hread] at hh
  let g : Rereading := ⟨(·.template = name), ⟨name, l.catalog, l.settings, load⟩,
    ⟨name, l.catalog, l.settings, fun other => link fuel other (some name) underway⟩, False, rfl,
    rfl, fun other l _ herror => not_cramped_of_unread
      ((unread_of_link hname fuel other (some name) l).of_eq_error herror)⟩
  have hlevel : Draft.Level g.place { tokens, library := a }
      { tokens, library := { l with compiledAny := true } } :=
    ⟨rfl, fun t ht => (Token.standsIn_of_tokenize hread t ht).1⟩
  have huses : Uses g [] (Node.readAll l.settings.maxNestingDepth (tokens.length + 1) [])
      (Node.readAll l.settings.maxNestingDepth (tokens.length + 1) []) fun _ => () :=
    uses_all _ _ [] []
  obtain ⟨_, -, -, hagain⟩ := huses _ _ hlevel nodes hok
  dsimp only [g] at hagain hh
  generalize Node.readAll _ _ [] _ { tokens, library := { l with compiledAny := true } } = out
    at hh hagain
  cases hagain with
  | ok => cases hh
  | cramped hless => exact hless.elim
  | noted _ hnot =>
    cases hh
    exact hnot

end Elsewhere

/-! ## Sets -/

section Sets

/-- The likeness by which all but positions is equal. -/
def Likeness.unplaced : Likeness :=
  { Likeness.same with
    position := fun _ _ => True
    error := Error.SameKind }

/-- The second source is the first one where comments in which nothing is noted lack their bodies.
The first one was compiled somewhere. -/
structure Uncommented (c : Catalog) (o : Settings) (name source source' : String) : Prop where
  compiled : ∃ l t, l.catalog = c ∧ l.settings = o ∧ (compile name source l).1 = .ok t
  tokens : ∃ ts ts', Token.tokenize o.trimming name source = .ok ts ∧
    Token.tokenize o.trimming name source' = .ok ts' ∧ Recast { void := c.Empties o } ts ts'

/-- Loaders that open the same sources at the same paths, but for the bodies of comments. -/
structure Loader.Uncomments (c : Catalog) (o : Settings) (disk disk' : Disk)
    (loader loader' : Loader) : Prop where
  resolve : ∀ referrer name, loader.resolve referrer name = loader'.resolve referrer name
  held : loader.held = loader'.held
  opens : ∀ path, EndAlike Error.SameKind
    (fun source source' => source = source' ∨ Uncommented c o path source source')
    (loader.open? disk path) (loader'.open? disk' path)

/-- The set `l'` opens what the set `l` opens, but for the bodies of comments, and it keeps
templates that are alike. -/
structure Library.Uncomments (l l' : Library) : Prop where
  settings : l.settings = l'.settings
  catalog : l.catalog = l'.catalog
  uniform : l.catalog.Uniform
  globals : l.globals = l'.globals
  loaders : List.Forall₂ (Loader.Uncomments l.catalog l.settings l.disk l'.disk) l.loaders
    l'.loaders
  cache : ∀ path, Option.Rel (Template.Twins Likeness.unplaced.widest) (l.cache.get? path)
    (l'.cache.get? path)

variable {l l' : Library} {name base source source' : String}

/-! ### Likeness -/

theorem reflexive_unplaced : Likeness.unplaced.Reflexive where
  name _ := trivial
  position _ := trivial
  error _ := rfl
  located _ he := (isLoader_located _ _).trans (he.trans (isLoader_located _ _).symm)
  inFilter _ _ he := (isLoader_inFilter _ _ _).trans (he.trans (isLoader_inFilter _ _ _).symm)
  isLoader := id
  explain _ _ := (isLoader_explain _ _).trans (isLoader_explain _ _).symm
  included := id
  extended := id

theorem placeless_unplaced : Likeness.unplaced.widest.Placeless where
  toFolds := Likeness.unplaced.widest_folds
  name _ := trivial
  position _ _ := trivial
  literal h := by
    cases Likeness.unplaced.widest_unfolds.expr h <;> rfl

/-! ### Reading -/

/-- How one source is read in two sets under the name `base`. -/
def Twinning.copying (base : String) : Twinning where
  likeness := Likeness.unplaced.widest
  base := base
  name _ := True
  library := Library.Uncomments
  settings h := h.settings
  counts h _ _ _ _ := { h with }
  lost _ := False

/-- How a source is read under the name `base`, and one where comments lack their bodies. -/
def Twinning.emptying (c : Catalog) (o : Settings) (base : String) : Twinning :=
  { Twinning.copying base with
    void := fun tag part part' rest =>
      c.Empties o tag part part' rest ∧ ∀ t ∈ part ++ rest, t.position.template = base
    lost := fun h => h.Cramped (·.template = base) }

/-- Where the first source stands at places, what it has to lack stands there as well. -/
theorem Recast.placed {r : Rewording} {place : Position → Prop} {ts ts' : List Token}
    (h : Recast r ts ts') (hplace : ∀ t ∈ ts, place t.position) :
    Recast { r with
      void := fun tag part part' rest =>
        r.void tag part part' rest ∧ ∀ t ∈ part ++ rest, place t.position } ts ts' := by
  induction h with
  | same h => exact .same h
  | text s ht ht' _ ih => exact .text s ht ht' (ih (List.forall_mem_cons.mp hplace).2)
  | tag s hs ho ho' hinner hcloses hc hsame _ ih =>
    refine .tag s hs ho ho' hinner hcloses hc hsame (ih fun t ht => hplace t ?_)
    exact List.mem_cons_of_mem _ (List.mem_append_right _ (List.mem_cons_of_mem _ ht))
  | spot ho ho' hn hn' hargs hcloses hcloses' hc hsame _ ih =>
    refine .spot ho ho' hn hn' hargs hcloses hcloses' hc hsame (ih fun t ht => hplace t ?_)
    exact List.mem_cons_of_mem _ (List.mem_cons_of_mem _
      (List.mem_append_right _ (List.mem_cons_of_mem _ ht)))
  | void ho ho' hn hn' hpart _ ih =>
    have hbehind := (List.forall_mem_cons.mp (List.forall_mem_cons.mp hplace).2).2
    exact .void ho ho' hn hn' ⟨hpart, hbehind⟩ (ih (List.forall_mem_append.mp hbehind).2)

section Voids

variable {scope scope' : DraftScope} {d d' : Draft} {t t' last last' : TagTokens}
  {body rest rest' : List Token} {g : Twinning} (hscope : scope.Alike g scope')
  (ht : t.start.name? = some "comment") (ht' : t'.start.name? = some "comment")
include hscope ht ht'

/-- Where comments are banned, both sources cannot be read beyond them. -/
theorem twinsAt_comment_refused (hd : d.tokens = t.tokens ++ rest)
    (hd' : d'.tokens = t'.tokens ++ rest')
    (hbanned : scope.catalog.tags.isBanned "comment" = true) (room : Nat) (top : Bool) :
    TwinsAt g scope scope' d d' (Node.read room top) (Node.read room top)
      (Node.Congruent g.likeness) := by
  obtain ⟨wrap, hwrap⟩ : ∃ wrap, Node.read room top = Node.readWith top wrap := by
    cases room <;> exact ⟨_, rfl⟩
  obtain ⟨q, fault, e, hleft, he⟩ := @readWith_refused scope d t top _ _ wrap ht hbanned hd
  obtain ⟨q', fault', e', hright, he'⟩ :=
    @readWith_refused scope' d' t' top _ _ wrap ht' (hscope.catalog ▸ hbanned) hd'
  intro hl
  rw [hwrap, hleft, hright]
  refine .error (.error rfl) ?_
  rw [he, he']
  exact hl

/-- A comment and one without its body are read alike, unless tags nest too deep in the body. -/
theorem twinsAt_comment (hL : g.likeness.Placeless)
    (hlost : ∀ h, h.Cramped (·.template = base) → g.lost h)
    (hallowed : scope.catalog.tags.isBanned "comment" = false)
    (hcomment : scope.catalog.tags.find? "comment" = some (.builtin .comment))
    (hargs : t.args = []) (hargs' : t'.args = []) (hlast : last.args = [])
    (hlast' : last'.args = []) (hending : last'.start.name? = some "endcomment")
    (hcomments : scope.catalog.Comments scope.settings body last rest)
    (hquiet : scope.catalog.Quiet body)
    (hplace : ∀ t ∈ body ++ (last.tokens ++ rest), t.position.template = base)
    (hload : ∀ other l h, ((scope.load other).run l).1 = .error h → ¬h.Cramped (·.template = base))
    (hd : d.Alike g (fun _ _ => Recast g.toRewording rest rest') d')
    (htokens : d.tokens = t.tokens ++ (body ++ (last.tokens ++ rest)))
    (htokens' : d'.tokens = t'.tokens ++ (last'.tokens ++ rest')) (room : Nat) (top : Bool) :
    TwinsAt g scope scope' d d' (Node.read room top) (Node.read room top)
      (Node.Congruent g.likeness) := by
  intro hl
  have hallowed' := hscope.catalog ▸ hallowed
  have hcomment' := hscope.catalog ▸ hcomment
  cases room with
  | zero =>
    have hleft := @readWith_comment_error scope d t top _ _ Section.tooDeep _ _ ht hcomment hallowed
      htokens rfl
    have hright := @readWith_comment_error scope' d' t' top _ _ Section.tooDeep _ _ ht' hcomment'
      hallowed' htokens' rfl
    unfold Node.read
    rw [hleft, hright]
    exact .error (.error rfl) hl
  | succ room =>
    have hread' : Section.reader room ["endcomment"] t'.start scope'
        { d' with tokens := last'.tokens ++ rest' } = (.ok ⟨[], last'.start, last'.args,
          last'.close.position⟩, { d' with tokens := rest' }) := by
      rw [reader_eq]
      exact upTo_of_ending _ _ rfl (by rw [hending]; rfl)
    have hright :=
      @readWith_comment scope' d' t' top _ _ _ _ _ ht' hcomment' hallowed' hargs' htokens' hlast'
        hread'
    rw [read_succ, hright]
    rcases @read_body scope { d with tokens := body ++ (last.tokens ++ rest) } body last rest
        (·.template = base) hcomments hquiet rfl hplace hload room t.start with
      ⟨part, e, hread, hpart, he, hsame⟩ | ⟨h, e, hread, hcramped⟩
    · have hleft := @readWith_comment scope d t top _ _ _ (Section.reader room) _ ht hcomment
        hallowed hargs htokens (hpart.trans hlast) hread
      have hbehind : e.tokens ⊆ d.tokens := by
        rw [htokens, he, ← List.append_assoc, ← List.append_assoc]
        exact List.subset_append_right _ _
      rw [hleft]
      exact .ok (.tag _ (hL.position _ _) .nothing)
        { tokens := he ▸ hd.tokens
          names := fun s hs => hd.names s (quoted_subset hbehind hs)
          seenContent := rfl
          parent := hsame.parent ▸ hd.parent
          blocks := hsame.blocks ▸ hd.blocks
          macros := hsame.macros ▸ hd.macros
          library := hsame.library ▸ hd.library }
    · have hleft := @readWith_comment_error scope d t top _ _ (Section.reader room) _ _ ht hcomment
        hallowed htokens hread
      rw [hleft]
      exact .lost (hlost h hcramped)

end Voids

/-- The tags that lack their bodies are comments, and these are read alike. -/
theorem voidsTwin_emptying {scope scope' : DraftScope}
    (hscope : scope.Alike (.emptying scope.catalog scope.settings base) scope')
    (hload : ∀ other l h, ((scope.load other).run l).1 = .error h →
      ¬h.Cramped (·.template = base)) :
    (Twinning.emptying scope.catalog scope.settings base).VoidsTwin scope scope' := by
  rintro room top _ o o' n n' _ _ rest rest' d d' ho ho' hn hn' ⟨hempties, hplace⟩ htokens htokens'
    hd
  cases hempties with
  | @comment close close' body _ last last' href hclose hclose' hcomments hquiet hargs hending
      hargs' =>
    rw [List.cons_append, List.append_assoc] at hplace htokens
    have hnamed {u : Token} (hu : u.lexeme = .identifier "comment") : u.name? = some "comment" := by
      unfold Token.name?
      rw [hu]
    let t : TagTokens := ⟨o, n, [], close, ho, List.forall_mem_nil _, hclose⟩
    let t' : TagTokens := ⟨o', n', [], close', ho', List.forall_mem_nil _, hclose'⟩
    by_cases hbanned : scope.catalog.tags.isBanned "comment" = true
    · exact @twinsAt_comment_refused scope scope' d d' t t' _ _ _ hscope (hnamed hn) (hnamed hn')
        htokens htokens' hbanned room top
    · exact @twinsAt_comment base scope scope' d d' t t' _ _ _ _ _ _ hscope (hnamed hn) (hnamed hn')
        placeless_unplaced (fun _ => id) (Bool.eq_false_iff.mpr hbanned) href rfl rfl hargs hargs'
        hending hcomments hquiet (List.forall_mem_cons.mp hplace).2 hload hd htokens htokens' room
        top

/-! ### Loading -/

/-- The second source is the first one, perhaps without the bodies of comments. -/
def Library.Sources (l : Library) (name source source' : String) : Prop :=
  source = source' ∨ Uncommented l.catalog l.settings name source source'

/-- Run on the sets `l` and `l'`, of which the second one lacks bodies of comments, `m` and `m'` end
alike and leave such sets. -/
def Library.UncommentsAt {α : Type} (l l' : Library) (m m' : Keeping Library α) (A : α → α → Prop) :
    Prop :=
  EndAlike (Halt.Alike Error.SameKind) A (m l).1 (m' l').1 ∧ (m l).2.Uncomments (m' l').2

theorem cached?_uncommented (hl : l.Uncomments l') (referrer : Option String) (name : String) :
    Option.Rel (Template.Twins Likeness.unplaced.widest) (l.cached? referrer name)
      (l'.cached? referrer name) := by
  have hcache := hl.cache
  have hloaders := hl.loaders
  unfold cached?
  generalize l.loaders = loaders at hloaders
  generalize l'.loaders = loaders' at hloaders
  induction hloaders with
  | nil => exact .none
  | @cons loader loader' _ _ hloader _ ih =>
    have hfound := hcache (loader.resolve referrer name)
    rw [List.findSome?_cons, List.findSome?_cons, ← hloader.resolve referrer name]
    generalize l.cache.get? _ = found at hfound ⊢
    generalize l'.cache.get? _ = found' at hfound ⊢
    cases hfound with
    | none => exact ih
    | some ht => exact .some ht

theorem open?_uncommented (hl : l.Uncomments l') (referrer : Option String) (name : String) :
    EndAlike Error.SameKind (fun o o' => o.1 = o'.1 ∧ l.Sources o.1 o.2 o'.2)
      (l.open? referrer name) (l'.open? referrer name) := by
  have hgo {loaders loaders' : List Loader} {failure failure' : Except Error (String × String)}
      (hloaders : List.Forall₂ (Loader.Uncomments l.catalog l.settings l.disk l'.disk) loaders
        loaders')
      (hfailure : EndAlike Error.SameKind (fun o o' => o.1 = o'.1 ∧ l.Sources o.1 o.2 o'.2) failure
        failure') :
      EndAlike Error.SameKind (fun o o' => o.1 = o'.1 ∧ l.Sources o.1 o.2 o'.2)
        (open?.go l referrer name failure loaders)
        (open?.go l' referrer name failure' loaders') := by
    induction hloaders generalizing failure failure' with
    | nil => exact hfailure
    | @cons loader loader' _ _ hloader _ ih =>
      have hopens := hloader.opens (loader.resolve referrer name)
      unfold open?.go
      dsimp only
      rw [← hloader.resolve referrer name]
      generalize loader.open? l.disk _ = found at hopens ⊢
      generalize loader'.open? l'.disk _ = found' at hopens ⊢
      cases hopens with
      | ok hsource => exact .ok ⟨rfl, hsource⟩
      | error he => exact ih (.error he)
  exact hgo hl.loaders (.error rfl)

theorem linkDepth_uncommented (hl : l.Uncomments l') : l.linkDepth = l'.linkDepth := by
  have hloaders := hl.loaders
  unfold linkDepth
  generalize l.loaders = loaders at hloaders
  generalize l'.loaders = loaders' at hloaders
  generalize 10000 = depth
  induction hloaders generalizing depth with
  | nil => rfl
  | cons hloader _ ih =>
    rw [List.foldl_cons, List.foldl_cons, hloader.held]
    exact ih _

/-- While a source is compiled, so is the one without bodies of comments. -/
theorem compileWith_uncommented (hl : l.Uncomments l') {fuel : Nat} {underway : List String}
    (hname : name ∈ underway) (hsource : l.Sources name source source')
    (hlink : ∀ other referrer l l', l.Uncomments l' →
      UncommentsAt l l' (link fuel other referrer underway) (link fuel other referrer underway)
        (Option.Rel (Template.Twins Likeness.unplaced.widest))) :
    UncommentsAt l l' (compileWith (link fuel) name source underway)
      (compileWith (link fuel) name source' underway)
      (Template.Twins Likeness.unplaced.widest) := by
  have hload (other : String) (_ : True) (a a' : Library) (ha : a.Uncomments a') :=
    hlink other (some name) a a' ha
  rcases hsource with rfl | huncommented
  · let g := Twinning.copying name
    have htokens : EndAlike Error.SameKind (Recast g.toRewording)
        (Token.tokenize l.settings.trimming name source)
        (Token.tokenize l'.settings.trimming name source) := by
      rw [hl.settings]
      cases Token.tokenize l'.settings.trimming name source with
      | ok ts => exact .ok (.same (List.forall₂_same.mpr fun _ _ => rfl))
      | error e => exact .error rfl
    rcases @twins_compileWith g source source (link fuel) (link fuel) underway underway l l'
        placeless_unplaced hl ⟨rfl, rfl, hl.catalog, hl.settings, hl.uniform, hload⟩
        (fun _ _ _ _ _ hs => hs.args.elim)
        (fun _ _ _ _ _ _ _ _ _ _ _ _ _ _ _ _ _ h => h.elim) htokens
        (fun _ _ _ _ => trivial) with ⟨hend, hleft⟩ | ⟨_, hlost, _⟩
    · exact ⟨hend.imp fun _ _ ht => ht.twins placeless_unplaced, hleft⟩
    · exact hlost.elim
  · let g := Twinning.emptying l.catalog l.settings name
    obtain ⟨⟨l₀, t, hcatalog, hsettings, hcompiles⟩, ts, ts', hts, hts', hrecast⟩ := huncommented
    have htokens : EndAlike Error.SameKind (Recast g.toRewording)
        (Token.tokenize l.settings.trimming name source)
        (Token.tokenize l'.settings.trimming name source') := by
      rw [← hl.settings, hts, hts']
      exact .ok (@Recast.placed _ (·.template = name) _ _ hrecast fun t ht =>
        (Token.standsIn_of_tokenize hts t ht).1)
    let scope (l : Library) : DraftScope :=
      ⟨name, l.catalog, l.settings, fun other => link fuel other (some name) underway⟩
    have hscope : (scope l).Alike g (scope l') :=
      ⟨rfl, rfl, hl.catalog, hl.settings, hl.uniform, hload⟩
    have hvoids : g.VoidsTwin (scope l) (scope l') :=
      @voidsTwin_emptying name (scope l) (scope l') hscope fun other a h hh =>
        not_cramped_of_unread ((unread_of_link hname fuel other (some name) a).of_eq_error hh)
    rcases @twins_compileWith g source source' (link fuel) (link fuel) underway underway l l'
        placeless_unplaced hl hscope (fun _ _ _ _ _ hs => hs.args.elim)
        hvoids htokens
        (fun _ _ _ _ => trivial) with ⟨hend, hleft⟩ | ⟨h, hlost, hh⟩
    · exact ⟨hend.imp fun _ _ ht => ht.twins placeless_unplaced, hleft⟩
    · exact absurd hlost (not_cramped_of_compiles hcompiles hcatalog hsettings hname fuel hh)

/-- A template that is kept in both sets. -/
theorem uncomments_insert (hl : l.Uncomments l') (path : String) {t t' : Template}
    (ht : t.Twins Likeness.unplaced.widest t') :
    Library.Uncomments { l with cache := l.cache.insert path t }
      { l' with cache := l'.cache.insert path t' } :=
  { hl with
    cache := fun other => by
      show Option.Rel _ ((l.cache.insert path t).get? other) ((l'.cache.insert path t').get? other)
      by_cases hother : other = path
      · rw [hother, Table.get?_insert_self, Table.get?_insert_self]
        exact .some ht
      · rw [Table.get?_insert_of_ne _ hother, Table.get?_insert_of_ne _ hother]
        exact hl.cache other }

theorem link_uncommented (fuel : Nat) (name : String) (referrer : Option String)
    (underway : List String) (hl : l.Uncomments l') :
    UncommentsAt l l' (link fuel name referrer underway) (link fuel name referrer underway)
      (Option.Rel (Template.Twins Likeness.unplaced.widest)) := by
  induction fuel generalizing name referrer underway l l' with
  | zero => exact ⟨.error .exhausted, hl⟩
  | succ fuel ih =>
    have hknown : Option.Rel (Template.Twins Likeness.unplaced.widest)
        (if l.settings.debug then none else l.cached? referrer name)
        (if l'.settings.debug then none else l'.cached? referrer name) := by
      rw [hl.settings]
      split
      · exact .none
      · exact cached?_uncommented hl referrer name
    have hopen := open?_uncommented hl referrer name
    unfold UncommentsAt
    rw [link_succ, link_succ]
    generalize (if l.settings.debug then none else l.cached? referrer name) = known at hknown ⊢
    generalize (if l'.settings.debug then none else l'.cached? referrer name) = known' at hknown ⊢
    cases hknown with
    | some ht => exact ⟨.ok (.some ht), hl⟩
    | none =>
      dsimp only
      generalize l.open? referrer name = opened at hopen ⊢
      generalize l'.open? referrer name = opened' at hopen ⊢
      cases hopen with
      | error he => exact ⟨.error (.error he), hl⟩
      | @ok o o' ho =>
        obtain ⟨path, source⟩ := o
        obtain ⟨_, source'⟩ := o'
        obtain ⟨rfl, hsource⟩ := ho
        dsimp only
        split
        · exact ⟨.ok .none, hl⟩
        · obtain ⟨hend, hleft⟩ := compileWith_uncommented hl (List.mem_cons_self) hsource
            fun other referrer _ _ ha => ih other referrer (path :: underway) ha
          generalize compileWith (link fuel) path source (path :: underway) l = out at hend hleft ⊢
          generalize compileWith (link fuel) path source' (path :: underway) l' = out'
            at hend hleft ⊢
          obtain ⟨result, a⟩ := out
          obtain ⟨result', a'⟩ := out'
          cases hend with
          | error hh => exact ⟨.error hh, hleft⟩
          | ok ht =>
            refine ⟨.ok (.some ht), ?_⟩
            dsimp only at hleft ⊢
            rw [hl.settings]
            split
            · exact hleft
            · exact uncomments_insert hleft path ht

theorem compile_uncommented (hl : l.Uncomments l') (hsource : l.Sources name source source') :
    UncommentsAt l l' (compile name source) (compile name source')
      (Template.Twins Likeness.unplaced.widest) := by
  unfold compile UncommentsAt
  rw [keeping_get_bind, keeping_get_bind, ← linkDepth_uncommented hl]
  exact compileWith_uncommented hl (List.mem_singleton_self name) hsource
    fun other referrer _ _ ha => link_uncommented _ other referrer [name] ha

theorem load_uncommented (hl : l.Uncomments l') (referrer : Option String) (name : String) :
    UncommentsAt l l' (Library.load referrer name) (Library.load referrer name)
      (Template.Twins Likeness.unplaced.widest) := by
  obtain ⟨hend, hleft⟩ := link_uncommented l.linkDepth name referrer [] hl
  unfold Library.load UncommentsAt
  rw [keeping_get_bind, keeping_get_bind, ← linkDepth_uncommented hl, keeping_bind, keeping_bind]
  generalize link l.linkDepth name referrer [] l = out at hend hleft ⊢
  generalize link l.linkDepth name referrer [] l' = out' at hend hleft ⊢
  obtain ⟨result, a⟩ := out
  obtain ⟨result', a'⟩ := out'
  cases hend with
  | error hh => exact ⟨.error hh, hleft⟩
  | ok hfound =>
    cases hfound with
    | none => exact ⟨.error (.error rfl), hleft⟩
    | some ht => exact ⟨.ok ht, hleft⟩

theorem fromFile_uncommented (hl : l.Uncomments l') (name : String) :
    UncommentsAt l l' (fromFile name) (fromFile name)
      (Template.Twins Likeness.unplaced.widest) := by
  have hopen := open?_uncommented hl none name
  unfold UncommentsAt
  rw [fromFile_eq, fromFile_eq]
  generalize l.open? none name = opened at hopen ⊢
  generalize l'.open? none name = opened' at hopen ⊢
  cases hopen with
  | error he => exact ⟨.error (.error he), hl⟩
  | @ok o o' ho =>
    obtain ⟨path, source⟩ := o
    obtain ⟨_, source'⟩ := o'
    obtain ⟨rfl, hsource⟩ := ho
    exact compile_uncommented hl hsource

end Sets

end Stencil
