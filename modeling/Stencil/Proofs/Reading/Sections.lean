import Stencil.Proofs.Reading.Quiet

/-!
# Sections that are read again

Nodes are read up to the tag that ends their section. Where they were read once they are read again
from the same tokens, so a section uses up the tokens of its nodes and that tag. Since each node and
each section uses up a token, the bounds on their number have no part in what is read.
-/

namespace Stencil

open Drafting

variable {g : Rereading} {before : List Token} {d d' e e' : Draft} {α β γ δ : Type} {v : α → γ}
  {w : β → δ}

/-! ## Sections -/

/-- The tokens of one tag. -/
structure TagTokens where
  opening : Token
  start : Token
  args : List Token
  close : Token
  opens : opening.lexeme = .symbol .openTag
  inside : ∀ t ∈ args, t.closes = false
  closes : close.lexeme = .symbol .closeTag

namespace TagTokens

/-- All tokens of the tag. -/
def tokens (t : TagTokens) : List Token := t.opening :: t.start :: t.args ++ [t.close]

theorem content (t : TagTokens) (rest : List Token) :
    Content .closeTag (t.args ++ t.close :: rest) t.args t.close rest where
  tokens := rfl
  inner := t.inside
  symbol := t.closes
  closes := by
    unfold Token.closes
    rw [t.closes]
    rfl

theorem tokens_append (t : TagTokens) (rest : List Token) :
    t.tokens ++ rest = t.opening :: t.start :: (t.args ++ t.close :: rest) := by
  simp [tokens]

end TagTokens

section TagTokens

variable {scope : DraftScope} {t : TagTokens} {top : Bool} {wrap : SectionReader}
  {rest : List Token}

theorem readWith_tag (hd : d.tokens = t.tokens ++ rest) :
    Node.readWith top wrap scope d = Node.readTag top wrap t.opening.position scope
      { d with tokens := t.start :: (t.args ++ t.close :: rest) } := by
  unfold Node.readWith
  rw [run_get_bind, hd, t.tokens_append]
  simp only [t.opens]
  rfl

/-- What is read of a built-in tag behind what its reader reads. -/
def closeTag (name : String) (t : TagTokens) (found : Statement × List Token) : Drafting Node := do
  argumentsOf name t.close.position found.2 (pure ())
  modify fun draft => { draft with seenContent := true }
  pure (.tag name t.start.position found.1)

theorem readTag_builtin {p : Position} {name : String} {tag : Tag}
    (hname : t.start.name? = some name)
    (hfind : scope.catalog.tags.find? name = some (.builtin tag))
    (hallowed : scope.catalog.tags.isBanned name = false) :
    Node.readTag top wrap p scope { d with tokens := t.start :: (t.args ++ t.close :: rest) } =
      (TagReader.builtin tag ⟨t.start, t.args, t.close.position, top, wrap⟩ >>= closeTag name t)
        scope { d with tokens := rest } := by
  unfold Node.readTag
  rw [run_get_bind]
  simp only [hname]
  change (if scope.catalog.tags.isBanned name = true then _ else _ : Drafting Node) scope
    { d with tokens := t.start :: (t.args ++ t.close :: rest) } = _
  simp only [hallowed, hfind]
  rw [if_neg Bool.false_ne_true]
  change (content p .openTag .closeTag >>= fun found => _ : Drafting Node) scope
    { d with tokens := t.args ++ t.close :: rest } = _
  rw [run_bind, content_eq_ok (t.content rest)]
  rfl

end TagTokens

/-- The section was read from the tokens of its nodes, `body`, and of the tag `last`. -/
structure Section.Covers (part : Section) (ends : List String) (ts body : List Token)
    (last : TagTokens) (rest : List Token) : Prop where
  tokens : ts = body ++ (last.tokens ++ rest)
  named : last.start.name?.any ends.contains = true
  ending : part.ending = last.start
  args : part.args = last.args
  close : part.close = last.close.position

/-- The section was read from the tokens of its nodes and of the tag that ends it, and `r` is how it
ends where these are read again. -/
def Rereading.Covers (g : Rereading) (before : List Token) (ends : List String) (d e : Draft)
    (part : Section) (r : Except Halt Section × Draft) : Prop :=
  ∃ body last, part.Covers ends d.tokens body last e.tokens ∧
    (g.scope.catalog.Quiet (before ++ body) → d.Same e) ∧
    g.Again (fun part' => part'.bound = part.bound) (¬g.scope.catalog.Quiet (before ++ body))
      e.tokens r

/-- The tag that ends a body, and what stands behind its name. -/
def ending? (ends : List String) : List Token → Option (Token × List Token)
  | [] => none
  | t :: rest =>
    match t.isSymbol .openTag, rest with
    | true, name :: rest => if name.name?.any ends.contains then some (name, rest) else none
    | _, _ => none

theorem upTo_succ (node : Drafting Node) (ends : List String) (opener : Token) (n : Nat)
    (acc : List Node) :
    Section.upTo node ends opener (n + 1) acc = (do
      let draft ← get
      match draft.tokens with
      | [] => refuse opener.position (.unclosedConstruct opener.value ends)
      | t :: rest =>
        match ending? ends (t :: rest) with
        | some (ending, rest) =>
          set { draft with tokens := rest }
          let (args, close) ← content t.position .openTag .closeTag
          pure ⟨acc.reverse, ending, args, close⟩
        | none => Section.upTo node ends opener n ((← node) :: acc)) := rfl

section Sections

variable {node node' : Drafting Node} {ends : List String} {opener opener' : Token}
  {part : Section} {acc acc' : List Node} {r : Except Halt Section × Draft}

theorem upTo_of_ending {scope : DraftScope} (n : Nat) (acc : List Node) {last : TagTokens}
    {rest : List Token} (hd : d.tokens = last.tokens ++ rest)
    (hnamed : last.start.name?.any ends.contains = true) :
    Section.upTo node ends opener (n + 1) acc scope d =
      (.ok ⟨acc.reverse, last.start, last.args, last.close.position⟩,
        { d with tokens := rest }) := by
  have hopening : last.opening.isSymbol .openTag = true := by
    unfold Token.isSymbol
    rw [last.opens]
    rfl
  unfold Section.upTo
  rw [run_get_bind, hd, last.tokens_append]
  simp only [hopening, hnamed, if_true]
  change (content _ _ _ >>= fun found =>
    pure (⟨acc.reverse, last.start, found.1, found.2⟩ : Section)) scope
      { d with tokens := last.args ++ last.close :: rest } = _
  rw [run_bind, content_eq_ok (last.content rest)]
  rfl

/-- The tag that ends a section is read. -/
theorem covers_of_content {t start : Token} {rest : List Token}
    (ht : t.lexeme = .symbol .openTag) (hstart : start.name?.any ends.contains = true)
    (htokens : d.tokens = t :: start :: rest)
    (h : (content t.position .openTag .closeTag >>= fun found =>
      pure (⟨acc.reverse, start, found.1, found.2⟩ : Section)) g.scope { d with tokens := rest } =
        (.ok part, e)) :
    g.Covers before ends d e part ((content t.position .openTag .closeTag >>= fun found =>
      pure (⟨acc'.reverse, start, found.1, found.2⟩ : Section)) g.scope'
        { d' with tokens := rest }) := by
  rw [run_bind] at h
  cases hfound : content t.position .openTag .closeTag g.scope { d with tokens := rest } with
  | mk result d'' =>
    rw [hfound] at h
    cases result with
    | error e => cases h
    | ok found =>
      obtain ⟨args, close, left, hcontent, rfl, rfl⟩ := content_of_eq_ok hfound
      cases h
      refine ⟨[], ⟨t, start, args, close, ht, hcontent.inner, hcontent.symbol⟩,
        ⟨?_, hstart, rfl, rfl, rfl⟩, fun _ => ⟨rfl, rfl, rfl, rfl⟩, ?_⟩
      · rw [htokens, List.nil_append, TagTokens.tokens_append]
        exact congrArg (t :: start :: ·) hcontent.tokens
      · have hagain : content t.position .openTag .closeTag g.scope' { d' with tokens := rest } =
            (.ok (args, close.position), { d' with tokens := left }) := content_eq_ok hcontent
        rw [run_bind, hagain]
        exact .ok rfl rfl

/-- A section that goes on behind the tokens `used` starts with these. -/
theorem covers_append {used : List Token} (htokens : d.tokens = used ++ e.tokens)
    (hsame : g.scope.catalog.Quiet (before ++ used) → d.Same e)
    (h : g.Covers (before ++ used) ends e e' part r) : g.Covers before ends d e' part r := by
  obtain ⟨body, last, hcovers, hsame', hagain⟩ := h
  refine ⟨used ++ body, last, { hcovers with tokens := ?_ }, fun hquiet => ?_, ?_⟩
  · rw [htokens, hcovers.tokens, List.append_assoc]
  · rw [← List.append_assoc] at hquiet
    exact (hsame hquiet.of_append).trans (hsame' hquiet)
  · rwa [← List.append_assoc]

/-- The second reading may fail at a node already. -/
theorem Rereading.Covers.failed {A : Node → Prop} {rest : List Token} {halt : Halt}
    (h : g.Covers before ends d e part r)
    (hnode : g.Again A (¬g.scope.catalog.Quiet before) rest (.error halt, d')) :
    g.Covers before ends d e part (.error halt, d') := by
  obtain ⟨body, last, hcovers, hsame, -⟩ := h
  refine ⟨body, last, hcovers, hsame, ?_⟩
  cases hnode with
  | cramped hless hh => exact .cramped hless hh
  | noted hnoted hh => exact .noted (not_quiet_append hnoted body) hh

/-- What is read as a section is the tokens of its nodes and the tag that ends it. -/
theorem covers_of_upTo (hnode : ∀ before, Uses g before node node' fun _ => ()) {n : Nat}
    (hd : d.Level g.place d')
    (h : Section.upTo node ends opener n acc g.scope d = (.ok part, e)) :
    g.Covers before ends d e part (Section.upTo node' ends opener' n acc' g.scope' d') := by
  induction n generalizing acc acc' before d d' with
  | zero => cases h
  | succ n ih =>
    have hnext (h : (node >>= fun m => Section.upTo node ends opener n (m :: acc)) g.scope d =
        (.ok part, e)) : g.Covers before ends d e part
          ((node' >>= fun m => Section.upTo node' ends opener' n (m :: acc')) g.scope' d') := by
      rw [run_bind] at h
      cases hm : (node g.scope d).1 with
      | error halt =>
        rw [hm] at h
        cases h
      | ok m =>
        rw [hm] at h
        obtain ⟨used, htokens, hsame, hagain⟩ := hnode before d d' hd m hm
        refine covers_append htokens hsame ?_
        rw [run_bind]
        generalize node' g.scope' d' = out at hagain ⊢
        obtain ⟨halt | m', e'⟩ := out
        · have hself : (node g.scope d).2.Level g.place (node g.scope d).2 :=
            hd.of_used _ htokens rfl
          have hleft : g.Covers (before ++ used) ends (node g.scope d).2 e part
              (Section.upTo node' ends opener' n [] g.scope' (node g.scope d).2) := ih hself h
          exact hleft.failed hagain
        · cases hagain with
          | ok _ he' => exact ih (hd.of_used _ htokens he') h
    unfold Section.upTo at h ⊢
    rw [run_get_bind] at h ⊢
    rw [hd.tokens]
    cases htokens : d.tokens with
    | nil =>
      simp only [htokens] at h
      cases h
    | cons t tail =>
      simp only [htokens] at h ⊢
      cases ht : t.isSymbol .openTag with
      | false =>
        simp only [ht] at h ⊢
        exact hnext h
      | true =>
        cases tail with
        | nil =>
          simp only [ht] at h ⊢
          exact hnext h
        | cons start rest =>
          simp only [ht] at h ⊢
          cases hstart : start.name?.any ends.contains with
          | false =>
            rw [hstart] at h
            exact hnext h
          | true =>
            rw [hstart] at h
            exact covers_of_content (eq_of_beq ht) hstart htokens h

end Sections

/-! ## Nodes -/

section Nodes

theorem uses_upTo {node node' : Drafting Node}
    (hnode : ∀ before, Uses g before node node' fun _ => ()) (ends : List String) (opener : Token)
    (n : Nat) (acc acc' : List Node) :
    Uses g before (Section.upTo node ends opener n acc) (Section.upTo node' ends opener n acc')
      Section.bound := by
  intro d d' hd part h
  cases hread : Section.upTo node ends opener n acc g.scope d with
  | mk result e =>
    rw [hread] at h
    cases h
    obtain ⟨body, last, hcovers, hsame, hagain⟩ :=
      @covers_of_upTo g before _ _ _ _ _ _ _ opener _ acc acc' hnode n hd hread
    have hpart : before ++ body <:+: before ++ (body ++ last.tokens) := by
      rw [← List.append_assoc]
      exact (List.prefix_append _ _).isInfix
    refine ⟨body ++ last.tokens, ?_, fun hquiet => hsame (hquiet.of_infix hpart),
      hagain.noted_imp fun hloud hquiet => hloud (hquiet.of_infix hpart)⟩
    rw [hcovers.tokens, List.append_assoc]

theorem uses_output (opening : Position) :
    Uses g before (Node.readOutput opening) (Node.readOutput opening) fun _ => () := by
  refine fun d d' hd => usesAt_content_bind hd fun inner close rest hcontent => ?_
  have hrest : Draft.Level g.place { d with tokens := rest } { d' with tokens := rest } :=
    hd.of_used (inner ++ [close]) (by rw [hcontent.tokens, List.append_assoc]; rfl) rfl
  refine usesAt_ite (fun _ => uses_refuse_bind _ _ _ _ _ _ hrest) fun _ => ?_
  refine uses_same_bind uses_argumentsOf (fun e _ => ?_) _ _ hrest
  exact uses_bind uses_modify_seen fun _ _ _ _ => uses_pure rfl

/-- Bodies are read with the same bounds, as far as there is room. -/
def SectionReader.Uses (g : Rereading) (wrap wrap' : SectionReader) : Prop :=
  ∀ before ends opener, g.place opener.position →
    Drafting.Uses g before (wrap ends opener) (wrap' ends opener) Section.bound

/-- A tag that is read in quiet tokens notes nothing. -/
theorem uses_tag {top : Bool} {wrap wrap' : SectionReader} (hwrap : wrap.Uses g wrap')
    {opening : Token} (hopening : opening.lexeme = .symbol .openTag) (p : Position) :
    Uses g (before ++ [opening]) (Node.readTag top wrap p) (Node.readTag top wrap' p)
      fun _ => () := by
  refine uses_get_bind fun d d' hd => ?_
  rw [hd.tokens]
  cases htokens : d.tokens with
  | nil => exact uses_refuse _ _ _ d d' hd
  | cons start rest =>
    dsimp only
    split
    · exact uses_refuse _ _ _ d d' hd
    · rename_i name hname
      refine usesAt_read_bind ?_
      rw [g.catalog]
      refine usesAt_ite (fun _ => uses_refuse_bind _ _ _ _ d d' hd) fun _ => ?_
      cases href : g.scope.catalog.tags.find? name with
      | none => exact uses_refuse _ _ _ d d' hd
      | some ref =>
        refine usesAt_set_bind [start] htokens (fun _ => ⟨rfl, rfl, rfl, rfl⟩) ?_
        have hrest : Draft.Level g.place { d with tokens := rest } { d' with tokens := rest } :=
          hd.of_used [start] htokens rfl
        refine usesAt_content_bind hrest fun inner close left hcontent => ?_
        have htag (hquiet : g.scope.catalog.Quiet
            (before ++ [opening] ++ [start] ++ (inner ++ [close]))) (tag : Tag)
            (hbuiltin : ref = .builtin tag) : tag.notes = false := by
          refine hquiet.tag name tag ?_ (hbuiltin ▸ href)
          refine ⟨before.map Token.lexeme, (inner ++ [close]).map Token.lexeme, ?_⟩
          simp only [List.map_append, List.map_cons, List.map_nil, hopening,
            Arguments.lexeme_of_name? hname, List.append_assoc, List.cons_append, List.nil_append]
        have hargs (hquiet : g.scope.catalog.Quiet
            (before ++ [opening] ++ [start] ++ (inner ++ [close]))) :
            Lexeme.keyword .kwExport ∉ inner.map Token.lexeme := fun hmem =>
          hquiet.exported (by simp [List.mem_map.mp hmem])
        have hlater (hquiet : g.scope.catalog.Quiet
            (before ++ [opening] ++ [start] ++ (inner ++ [close])))
            (hbuiltin : ref = .builtin .including) : IncludesLater inner :=
          hquiet.included opening start name inner close ⟨before, [], by simp⟩ hopening hname
            (hbuiltin ▸ href) hcontent.inner hcontent.closes
        have hstart : g.place start.position :=
          hd.placed start (htokens ▸ List.mem_cons_self)
        have hbodies : TagScope.Uses g ⟨start, inner, close.position, top, wrap⟩ wrap' :=
          fun before ends => hwrap before ends start hstart
        refine uses_bind (uses_ofRef hbodies htag hlater hargs) (fun found found' _ h => ?_) _ _
          (hrest.of_used (inner ++ [close])
            (by rw [hcontent.tokens, List.append_assoc]; rfl) rfl)
        rw [show found'.2 = found.2 from h]
        refine uses_same_bind uses_argumentsOf fun _ _ => ?_
        exact uses_bind uses_modify_seen fun _ _ _ _ => uses_pure rfl

theorem uses_with {top : Bool} {wrap wrap' : SectionReader} (hwrap : wrap.Uses g wrap') :
    Uses g before (Node.readWith top wrap) (Node.readWith top wrap') fun _ => () := by
  refine uses_get_bind fun d d' hd => ?_
  rw [hd.tokens]
  cases htokens : d.tokens with
  | nil => exact usesAt_pure rfl hd
  | cons t rest =>
    have hrest {seen seen' : Bool} : Draft.Level g.place
        { d with tokens := rest, seenContent := seen }
        { d' with tokens := rest, seenContent := seen' } := hd.of_used [t] htokens rfl
    dsimp only
    split
    · exact usesAt_set_bind [t] htokens (fun _ => ⟨rfl, rfl, rfl, rfl⟩) (usesAt_pure rfl hrest)
    · exact usesAt_set_bind [t] htokens (fun _ => ⟨rfl, rfl, rfl, rfl⟩) (uses_output _ _ _ hrest)
    · rename_i ht
      exact usesAt_set_bind [t] htokens (fun _ => ⟨rfl, rfl, rfl, rfl⟩)
        (uses_tag hwrap ht _ _ _ hrest)
    · exact uses_refuse _ _ _ d d' hd

theorem uses_tooDeep (wrap : SectionReader) : Section.tooDeep.Uses g wrap :=
  fun _ _ _ _ _ _ _ _ h => nomatch h

/-- The reader of what a tag wraps, in which `room` more tags may nest. -/
def Section.reader (room : Nat) : SectionReader := fun ends opener => do
  Section.upTo (Node.read room false) ends opener ((← get).tokens.length + 1) []

theorem read_succ (room : Nat) (top : Bool) :
    Node.read (room + 1) top = Node.readWith top (Section.reader room) := rfl

theorem reader_eq (room : Nat) (ends : List String) (opener : Token) (scope : DraftScope)
    (d : Draft) :
    Section.reader room ends opener scope d =
      Section.upTo (Node.read room false) ends opener (d.tokens.length + 1) [] scope d := rfl

/-- A node that is read in quiet tokens notes and loads nothing. It is read again where as many tags
may nest. -/
theorem uses_node {room room' : Nat} (hroom : room ≤ room' ∨ g.less) (top : Bool) :
    Uses g before (Node.read room top) (Node.read room' top) fun _ => () := by
  induction room generalizing room' before top with
  | zero => cases room' <;> exact uses_with (uses_tooDeep _)
  | succ room ih =>
    have hbody {room' : Nat} (hroom : room ≤ room' ∨ g.less) :
        (Section.reader room).Uses g (Section.reader room') := by
      refine fun before ends opener _ => uses_get_bind fun d d' hd => ?_
      rw [hd.tokens]
      exact uses_upTo (fun _ => ih hroom false) ends opener _ _ _ d d' hd
    cases room' with
    | succ room' => exact uses_with (hbody (hroom.imp_left Nat.le_of_succ_le_succ))
    | zero =>
      have hless : g.less := hroom.resolve_left (Nat.not_succ_le_zero room)
      refine uses_with fun before ends opener hopener d d' hd => ?_
      exact (hbody (.inl (Nat.le_refl room)) before ends opener hopener d d' hd).cramped hless rfl
        ⟨opener.position, _, hopener, rfl⟩

/-- Nodes that are read to the end are read again to the end. -/
theorem uses_all (room n : Nat) (acc acc' : List Node) :
    Uses g before (Node.readAll room n acc) (Node.readAll room n acc') fun _ => () := by
  induction n generalizing acc acc' before with
  | zero => exact uses_pure rfl
  | succ n ih =>
    refine uses_get_bind fun d d' hd => ?_
    rw [hd.tokens]
    cases d.tokens with
    | nil => exact usesAt_pure rfl hd
    | cons t rest =>
      exact usesAt_bind hd (uses_node (.inl (Nat.le_refl room)) true d d' hd) fun m m' used _ =>
        ih (m :: acc) (m' :: acc')

end Nodes

/-!
## Bounds on what is read

Sections and branches are read with a bound on their number, which is more than the tokens that are
left. Since each of them uses up tokens, any such bound will do.
-/

section Bounds

variable {scope : DraftScope}

/-- The same place once more, where nothing is loaded. -/
def Rereading.alone (scope : DraftScope) : Rereading where
  place _ := True
  scope := scope
  scope' := { scope with load := fun _ => pure none }
  less := False
  catalog := rfl
  settings := rfl
  load _ _ _ h := nomatch h

theorem suffix_of_uses (before : List Token) {m m' : Drafting α} {a : α}
    (h : Uses (.alone scope) before m m' v)
    (ha : (m scope d).1 = .ok a) : (m scope d).2.tokens <:+ d.tokens := by
  obtain ⟨used, htokens, -⟩ := h d d ⟨rfl, fun _ _ => trivial⟩ a ha
  exact ⟨used, htokens.symm⟩

/-- A node uses up a token. -/
def Drafting.Shrinks (scope : DraftScope) (node : Drafting Node) : Prop :=
  ∀ d n, d.tokens ≠ [] → (node scope d).1 = .ok n →
    (node scope d).2.tokens.length < d.tokens.length

/-- A section uses up a token. -/
def SectionReader.Shrinks (scope : DraftScope) (wrap : SectionReader) : Prop :=
  ∀ ends opener d part, (wrap ends opener scope d).1 = .ok part →
    (wrap ends opener scope d).2.tokens.length < d.tokens.length

theorem shrinks_with {top : Bool} {wrap : SectionReader} (hwrap : wrap.Uses (.alone scope) wrap) :
    Drafting.Shrinks scope (Node.readWith top wrap) := by
  intro d n hne h
  cases htokens : d.tokens with
  | nil => exact absurd htokens hne
  | cons t rest =>
    have hlt {e : Draft} (he : e.tokens <:+ rest) : e.tokens.length < (t :: rest).length :=
      Nat.lt_succ_of_le he.length_le
    unfold Node.readWith at h ⊢
    rw [run_get_bind, htokens] at h ⊢
    dsimp only at h ⊢
    cases ht : t.lexeme with
    | text s => exact hlt (List.suffix_refl rest)
    | symbol s =>
      simp only [ht] at h ⊢
      cases s with
      | openOutput =>
        change (Node.readOutput t.position scope { d with tokens := rest }).1 = .ok n at h
        exact hlt (suffix_of_uses [] (uses_output t.position) h)
      | openTag =>
        change (Node.readTag top wrap t.position scope { d with tokens := rest }).1 = .ok n at h
        exact hlt (suffix_of_uses ([] ++ [t]) (uses_tag hwrap ht t.position) h)
      | _ => cases h
    | _ =>
      simp only [ht] at h
      cases h

theorem uses_alone (room : Nat) (top : Bool) :
    Uses (.alone scope) before (Node.read room top) (Node.read room top) fun _ => () :=
  uses_node (.inl (Nat.le_refl room)) top

theorem shrinks_tooDeep : Section.tooDeep.Shrinks scope := fun _ _ _ _ h => nomatch h

theorem shrinks_reader (room : Nat) : (Section.reader room).Shrinks scope := by
  intro ends opener d part h
  rw [reader_eq] at h ⊢
  cases hread :
      Section.upTo (Node.read room false) ends opener (d.tokens.length + 1) [] scope d with
  | mk result e =>
    rw [hread] at h
    cases h
    obtain ⟨body, last, hcovers, -⟩ := @covers_of_upTo (.alone scope) [] _ _ _ _ _ _ _ opener _ []
      [] (fun _ => uses_alone room false) _ ⟨rfl, fun _ _ => trivial⟩ hread
    rw [hcovers.tokens]
    simp only [List.length_append, TagTokens.tokens, List.length_cons]
    omega

theorem shrinks_node (room : Nat) (top : Bool) : Drafting.Shrinks scope (Node.read room top) := by
  cases room with
  | zero => exact shrinks_with (uses_tooDeep _)
  | succ room =>
    refine shrinks_with fun before ends opener _ => uses_get_bind fun d d' hd => ?_
    rw [hd.tokens]
    exact uses_upTo (fun _ => uses_alone room false) ends opener _ _ _ d d' hd

/-- What is read up to an ending tag does not depend on the bound. -/
theorem upTo_bound {node : Drafting Node} (hnode : node.Shrinks scope) (ends : List String)
    (opener : Token) {n n' : Nat} {acc : List Node} {d : Draft} (hn : d.tokens.length < n)
    (hn' : d.tokens.length < n') :
    Section.upTo node ends opener n acc scope d = Section.upTo node ends opener n' acc scope d := by
  induction n generalizing n' acc d with
  | zero => exact absurd hn (Nat.not_lt_zero _)
  | succ n ih =>
    obtain ⟨n', rfl⟩ := Nat.exists_eq_succ_of_ne_zero (Nat.ne_zero_of_lt hn')
    have hnext (hne : d.tokens ≠ []) :
        (node >>= fun m => Section.upTo node ends opener n (m :: acc)) scope d =
          (node >>= fun m => Section.upTo node ends opener n' (m :: acc)) scope d := by
      rw [run_bind, run_bind]
      cases hm : (node scope d).1 with
      | error halt => rfl
      | ok m =>
        have hlt := hnode d m hne hm
        exact ih (by omega) (by omega)
    rw [upTo_succ, upTo_succ, run_get_bind, run_get_bind]
    cases htokens : d.tokens with
    | nil => rfl
    | cons t rest =>
      dsimp only
      cases ending? ends (t :: rest) with
      | some found => rfl
      | none => exact hnext (htokens ▸ List.cons_ne_nil t rest)

/-- The nodes that are read to the end do not depend on the bound. -/
theorem readAll_bound (room : Nat) {n n' : Nat} {acc : List Node} {d : Draft}
    (hn : d.tokens.length < n) (hn' : d.tokens.length < n') :
    Node.readAll room n acc scope d = Node.readAll room n' acc scope d := by
  induction n generalizing n' acc d with
  | zero => exact absurd hn (Nat.not_lt_zero _)
  | succ n ih =>
    obtain ⟨n', rfl⟩ := Nat.exists_eq_succ_of_ne_zero (Nat.ne_zero_of_lt hn')
    unfold Node.readAll
    rw [run_get_bind, run_get_bind]
    cases htokens : d.tokens with
    | nil => rfl
    | cons t rest =>
      dsimp only
      rw [run_bind, run_bind]
      cases hm : (Node.read room true scope d).1 with
      | error halt => rfl
      | ok m =>
        have hlt := shrinks_node room true d m (htokens ▸ List.cons_ne_nil t rest) hm
        exact ih (by omega) (by omega)

/-- The branches of a tag do not depend on the bound. -/
theorem branches_bound {s : TagScope} (hwrap : s.wrap.Shrinks scope) {n n' : Nat}
    {condition : Expr} {d : Draft} (hn : d.tokens.length < n) (hn' : d.tokens.length < n') :
    TagReader.branches s n condition scope d = TagReader.branches s n' condition scope d := by
  induction n generalizing n' condition d with
  | zero => exact absurd hn (Nat.not_lt_zero _)
  | succ n ih =>
    obtain ⟨n', rfl⟩ := Nat.exists_eq_succ_of_ne_zero (Nat.ne_zero_of_lt hn')
    unfold TagReader.branches
    rw [run_bind, run_bind]
    cases hpart : (s.wrap ["elif", "else", "endif"] s.start scope d).1 with
    | error halt => rfl
    | ok part =>
      have hlt := hwrap _ _ d part hpart
      dsimp only
      generalize part.ending.value = word
      split
      · obtain ⟨result, hargs⟩ := argumentsOf_run scope "elif" part.close part.args
          Arguments.expression
        rw [run_bind, run_bind, hargs]
        cases result with
        | error halt => rfl
        | ok next =>
          have hmore : TagReader.branches s n next scope
                (s.wrap ["elif", "else", "endif"] s.start scope d).2 =
              TagReader.branches s n' next scope
                (s.wrap ["elif", "else", "endif"] s.start scope d).2 := ih (by omega) (by omega)
          dsimp only
          rw [run_bind, run_bind, hmore]
      · rfl
      · rfl

theorem body_run (scope : DraftScope) (part : Section) :
    ∃ result, ∀ d, part.body scope d = (result, d) := by
  obtain ⟨result, hargs⟩ := argumentsOf_run scope part.ending.value part.close part.args (pure ())
  unfold Section.body
  cases result with
  | error halt => exact ⟨.error halt, fun d => by rw [run_bind, hargs]⟩
  | ok _ => exact ⟨.ok part.nodes, fun d => by rw [run_bind, hargs]; rfl⟩

/-- The sections of a tag of the host do not depend on the bound. -/
theorem sections_bound {s : TagScope} (hwrap : s.wrap.Shrinks scope) (ends : List String)
    {n n' : Nat} {d : Draft} (hn : d.tokens.length < n) (hn' : d.tokens.length < n') :
    TagReader.sections s ends n scope d = TagReader.sections s ends n' scope d := by
  induction n generalizing n' d with
  | zero => exact absurd hn (Nat.not_lt_zero _)
  | succ n ih =>
    obtain ⟨n', rfl⟩ := Nat.exists_eq_succ_of_ne_zero (Nat.ne_zero_of_lt hn')
    unfold TagReader.sections
    rw [run_bind, run_bind]
    cases hpart : (s.wrap ends s.start scope d).1 with
    | error halt => rfl
    | ok part =>
      have hlt := hwrap _ _ d part hpart
      obtain ⟨result, hbody⟩ := body_run scope part
      have hmore : TagReader.sections s ends n scope (s.wrap ends s.start scope d).2 =
          TagReader.sections s ends n' scope (s.wrap ends s.start scope d).2 :=
            ih (by omega) (by omega)
      dsimp only
      rw [run_bind, run_bind, hbody]
      cases result with
      | error halt => rfl
      | ok body =>
        dsimp only
        split
        · rfl
        · rw [run_bind, run_bind, hmore]

end Bounds

end Stencil
