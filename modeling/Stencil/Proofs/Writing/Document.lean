import Stencil.Proofs.Writing.Tags

/-!
# Reading documents back

A document is read back part by part. How deep its tags may nest is limited: a document within the
limit is read as it was written, with its blocks and exported macros noted, and any other one is
refused for its nesting and for nothing else.
-/

namespace Stencil

open Drafting

variable {scope : DraftScope} {style : Style} {k : Nat} {d : Draft} {name : String}
  {args ls : List Lexeme} {ts : List Token} {n : Node} {body : List Node}

/-! ## Tags -/

theorem tagTokens_of_written (hopen : ∀ x ∈ args, x.Open)
    (h : ts.map Token.lexeme = writtenTag name args) :
    ∃ t : TagTokens, ts = t.tokens ∧ t.start.lexeme = .identifier name ∧
      t.args.map Token.lexeme = args := by
  obtain ⟨opening, ts, rfl, hopening, h⟩ := List.map_eq_cons_iff.mp h
  obtain ⟨start, ts, rfl, hstart, h⟩ := List.map_eq_cons_iff.mp h
  obtain ⟨inner, last, rfl, hinner, h⟩ := List.map_eq_append_iff.mp h
  obtain ⟨close, ts, rfl, hclose, h⟩ := List.map_eq_cons_iff.mp h
  rw [List.map_eq_nil_iff.mp h]
  have hinside : ∀ t ∈ inner, t.closes = false := fun t ht =>
    Token.closes_eq_false (hopen _ (hinner ▸ List.mem_map_of_mem ht))
  exact ⟨⟨opening, start, inner, close, hopening, hinside, hclose⟩, rfl, hstart, hinner⟩

theorem recovers_tag {t : Tag} {p : Position} {statement : Statement} {wrap : SectionReader}
    (hfind : scope.catalog.tags.find? t.name = some (.builtin t))
    (hallowed : scope.catalog.tags.isBanned t.name = false)
    (hwrap : wrap.Recovers scope style k) (hs : statement.RecoverableAt scope style k t)
    (top : Bool) :
    Recovers scope (statement.written style)
      (DeepAmong scope.settings.maxNestingDepth ((Node.tag t.name p statement).parts k))
      ((Node.tag t.name p statement).parts k) (Node.readWith top wrap)
      (Node.tag t.name p statement).Alike := by
  obtain ⟨args, ls, hwritten, hopen, hread⟩ := hs
  rw [hwritten]
  intro d ts rest hd hts hfree
  obtain ⟨front, back, rfl, hfront, hback⟩ := List.map_eq_append_iff.mp hts
  obtain ⟨tag, rfl, hstart, hargs⟩ := tagTokens_of_written hopen hfront
  rw [List.append_assoc] at hd
  have hname : tag.start.name? = some t.name := by
    unfold Token.name?
    rw [hstart]
  rw [readWith_tag hd, readTag_builtin hname hfind hallowed]
  have hclose := recovers_bind_end (hread ⟨tag.start, tag.args, tag.close.position, top, wrap⟩ p
    hwrap hargs) (f := closeTag t.name tag) (B := (Node.tag t.name p statement).Alike)
    fun found hfound => by
      obtain ⟨statement', left⟩ := found
      obtain ⟨hleft, hstatement⟩ := hfound
      obtain rfl : left = [] := hleft
      refine recovers_argumentsOf_bind List.map_nil
        (takes_pure (A := fun _ => True) trivial) fun _ _ => ?_
      refine recovers_modify_bind (fun d => ⟨rfl, rfl, rfl, rfl⟩) (fun d => rfl)
        (recovers_pure ?_)
      unfold Node.Alike Node.unplaced
      rw [hstatement]
  obtain ⟨hdeep, hflat⟩ := hclose { d with tokens := back ++ rest } back rest rfl hback
    ⟨hfree.blocks, hfree.macros⟩
  refine ⟨hdeep, fun hnot => ?_⟩
  obtain ⟨found, d', hfound, halike, hd', hgrown⟩ := hflat hnot
  exact ⟨found, d', hfound, halike, hd', hgrown.parent, hgrown.library, hgrown.blocks,
    hgrown.macros⟩

/-! ## Bodies -/

/-- What is written first of a part tells tags from other parts, and names the tag. -/
theorem written_starts (style : Style) (hn : n.Plain scope.catalog) :
    (∃ x rest, n.written style = x :: rest ∧ x ≠ .symbol .openTag) ∨
      ∃ (t : Tag) (rest : List Lexeme),
        n.written style = .symbol .openTag :: .identifier t.name :: rest := by
  cases hn with
  | text s => exact .inl ⟨_, _, rfl, nofun⟩
  | output he => exact .inl ⟨_, _, rfl, by decide⟩
  | @tag t p s hfind hallowed hs =>
    refine .inr ⟨t, ?_⟩
    cases hs with
    | @branch branches otherwise hne =>
      cases branches with
      | nil => exact absurd rfl hne
      | cons b rest => exact ⟨_, rfl⟩
    | _ => exact ⟨_, rfl⟩

/-- A part of a body is not taken for the tag that ends the body. -/
theorem upTo_of_written {node : Drafting Node} {ends : List String} {opener : Token}
    {rest : List Token} (hn : n.Plain scope.catalog) (hends : ∀ t : Tag, t.name ∉ ends)
    (hd : d.tokens = ts ++ rest) (hts : ts.map Token.lexeme = n.written style) (m : Nat)
    (acc : List Node) :
    Section.upTo node ends opener (m + 1) acc scope d =
      (node >>= fun n' => Section.upTo node ends opener m (n' :: acc)) scope d := by
  rw [Section.upTo, run_get_bind, hd]
  obtain ⟨x, rest', hwritten, hx⟩ | ⟨t, rest', hwritten⟩ := written_starts style hn
  · rw [hwritten] at hts
    obtain ⟨first, ts, rfl, hfirst, -⟩ := List.map_eq_cons_iff.mp hts
    have hopening : first.isSymbol .openTag = false := by
      unfold Token.isSymbol
      rw [hfirst, beq_eq_false_iff_ne]
      exact hx
    simp only [List.cons_append, hopening]
  · rw [hwritten] at hts
    obtain ⟨first, ts, rfl, hfirst, hts⟩ := List.map_eq_cons_iff.mp hts
    obtain ⟨second, ts, rfl, hsecond, -⟩ := List.map_eq_cons_iff.mp hts
    have hopening : first.isSymbol .openTag = true := by
      unfold Token.isSymbol
      rw [hfirst, beq_self_eq_true]
    have hname : second.name?.any ends.contains = false := by
      unfold Token.name?
      rw [hsecond]
      simpa using hends t
    simp only [List.cons_append, hopening, hname]
    rfl

/-- What is read up to the end of a body, behind what was read before. -/
structure Section.Ended (part : Section) (acc : List Node) (body : List Node) (name : String)
    (args : List Lexeme) : Prop where
  nodes : unplacedNodes part.nodes = unplacedNodes (acc.reverse ++ body)
  ending : part.ending.lexeme = .identifier name
  args : part.args.map Token.lexeme = args

theorem recovers_upTo {node : Drafting Node} {ends : List String}
    (hplain : ∀ n ∈ body, n.Plain scope.catalog)
    (hnodes : ∀ n ∈ body, Recovers scope (n.written style)
      (DeepAmong scope.settings.maxNestingDepth (n.parts k)) (n.parts k) node n.Alike)
    (hends : ∀ t : Tag, t.name ∉ ends) (hname : name ∈ ends) (hopen : ∀ x ∈ args, x.Open)
    (opener : Token) (m : Nat) (hm : body.length < m) (acc : List Node) :
    Recovers scope (writtenNodes style body ++ writtenTag name args)
      (DeepAmong scope.settings.maxNestingDepth (partsOf k body)) (partsOf k body)
      (Section.upTo node ends opener m acc) fun part => part.Ended acc body name args := by
  obtain ⟨m, rfl⟩ : ∃ m', m = m' + 1 := ⟨m - 1, by omega⟩
  induction body generalizing m acc with
  | nil =>
    intro d ts rest hd hts hfree
    obtain ⟨last, rfl, hstart, hargs⟩ := tagTokens_of_written hopen hts
    have hnamed : last.start.name?.any ends.contains = true := by
      unfold Token.name?
      rw [hstart]
      simpa using hname
    refine ⟨fun h => absurd h deepAmong_nil, fun _ => ?_⟩
    refine ⟨_, _, upTo_of_ending m acc hd hnamed, ⟨?_, hstart, hargs⟩, rfl, .of_same ?_⟩
    · rw [List.append_nil]
    · exact ⟨rfl, rfl, rfl, rfl⟩
  | cons n body ih =>
    simp only [List.forall_mem_cons] at hplain hnodes
    obtain ⟨m, rfl⟩ : ∃ m', m = m' + 1 := ⟨m - 1, by simp at hm; omega⟩
    rw [writtenNodes, partsOf, List.append_assoc]
    have hended (n' : Node) (hn' : n.Alike n') (part : Section)
        (hpart : part.Ended (n' :: acc) body name args) : part.Ended acc (n :: body) name args := by
      refine ⟨hpart.nodes.trans ?_, hpart.ending, hpart.args⟩
      simp only [unplacedNodes_eq, List.map_append, List.map_cons, List.reverse_cons,
        List.append_assoc, List.nil_append, List.cons_append, Node.Alike] at hn' ⊢
      rw [hn']
    have hread := recovers_bind hnodes.1 fun n' hn' =>
      (ih hplain.2 hnodes.2 (n' :: acc) m (Nat.lt_of_succ_lt_succ hm)).imp (hended n' hn')
    intro d ts rest hd hts hfree
    obtain ⟨front, back, rfl, hfront, -⟩ := List.map_eq_append_iff.mp hts
    rw [List.append_assoc] at hd
    rw [upTo_of_written hplain.1 hends hd hfront]
    rw [← List.append_assoc] at hd
    obtain ⟨hdeep, hflat⟩ := hread d (front ++ back) rest hd hts hfree
    rw [← deepAmong_append] at hdeep hflat
    exact ⟨hdeep, hflat⟩

/-- A part is written with one lexeme at least. -/
theorem length_le_writtenNodes (style : Style) (hplain : ∀ n ∈ body, n.Plain scope.catalog) :
    body.length ≤ (writtenNodes style body).length := by
  induction body with
  | nil => exact Nat.zero_le _
  | cons n body ih =>
    simp only [List.forall_mem_cons] at hplain
    have hbody := ih hplain.2
    have hn : 1 ≤ (n.written style).length := by
      obtain ⟨x, rest, hwritten, -⟩ | ⟨t, rest, hwritten⟩ := written_starts style hplain.1
      all_goals
        rw [hwritten]
        simp
    simp only [writtenNodes, List.length_cons, List.length_append]
    omega

/-- A reader of bodies reads parts with the room that is left inside of the tag. -/
theorem recovers_section (room : Nat) (hroom : k + (room + 1) = scope.settings.maxNestingDepth) :
    SectionReader.Recovers scope style k (fun ends opener => do
      Section.upTo (Node.read room false) ends opener ((← get).tokens.length + 1) []) := by
  intro body hbody ends opener name args hends hname hopen
  have hlevel : ¬ scope.settings.maxNestingDepth ≤ k := by omega
  have hnodes : ∀ n ∈ body, Recovers scope (n.written style)
      (DeepAmong scope.settings.maxNestingDepth (n.parts (k + 1))) (n.parts (k + 1))
      (Node.read room false) n.Alike := fun n hn => hbody.recoverable n hn room false (by omega)
  refine recovers_get_bind fun d hd => ?_
  have hlength := length_le_writtenNodes style hbody.plain
  rw [List.length_append] at hd
  refine ((recovers_upTo hbody.plain hnodes hends hname hopen opener _ (by omega) []).congr
    ?_ rfl rfl).imp fun part hpart => ⟨hpart.nodes, hpart.ending, hpart.args⟩
  unfold DraftScope.TooDeep
  rw [or_iff_right hlevel]

/-- Without room for a body a tag nests too deep. -/
theorem recovers_tooDeep (hk : k = scope.settings.maxNestingDepth) :
    SectionReader.Recovers scope style k Section.tooDeep := by
  intro body _ ends opener name args _ _ _ d ts rest _ _ _
  exact ⟨fun _ => ⟨opener.position, d, rfl⟩, fun hnot => absurd (.inl (Nat.le_of_eq hk.symm)) hnot⟩

/-! ## Parts -/

/-- A node is read with the reader of bodies that belongs to the room that is left. -/
theorem recoverableAt_of_with {n : Node} (h : ∀ wrap : SectionReader,
      wrap.Recovers scope style k → ∀ top, Recovers scope (n.written style)
        (DeepAmong scope.settings.maxNestingDepth (n.parts k)) (n.parts k)
        (Node.readWith top wrap) n.Alike) :
    n.RecoverableAt scope style k := by
  intro room top hroom
  cases room with
  | zero => exact h _ (recovers_tooDeep hroom) top
  | succ room => exact h _ (recovers_section room hroom) top

/-- A part without parts in it is neither too deep nor noted. -/
theorem recovers_leaf {m : Drafting Node} (hparts : n.parts k = [(k, n)]) (htag : n.isTag = false)
    (hblock : n.block? = none) (hexport : n.export? = none)
    (h : Recovers scope ls False [] m n.Alike) :
    Recovers scope ls (DeepAmong scope.settings.maxNestingDepth (n.parts k)) (n.parts k) m
      n.Alike := by
  refine h.congr ?_ ?_ ?_
  · rw [hparts, false_iff]
    rintro ⟨q, hq, hdeep, -⟩
    rw [List.mem_singleton.mp hq, htag] at hdeep
    cases hdeep
  · simp [hparts, blocksAmong, hblock]
  · simp [hparts, exportsAmong, hexport]

theorem recoverable_text (s : String) : (Node.text s).RecoverableAt scope style k := by
  refine recoverableAt_of_with fun wrap _ top => recovers_leaf rfl rfl rfl rfl ?_
  intro d ts rest hd hts _
  obtain ⟨t, ts, rfl, ht, hnil⟩ := List.map_eq_cons_iff.mp hts
  rw [List.map_eq_nil_iff.mp hnil] at hd
  have hread : Node.readWith top wrap scope d = (.ok (.text s),
      { d with tokens := rest, seenContent := d.seenContent || !s.toList.all Text.isBlank }) := by
    unfold Node.readWith
    rw [run_get_bind, hd]
    simp only [List.cons_append, List.nil_append, ht]
    rfl
  exact ⟨False.elim, fun _ => ⟨_, _, hread, rfl, rfl, .of_same ⟨rfl, rfl, rfl, rfl⟩⟩⟩

theorem recoverable_output {p : Position} {e : Expr} (he : e.Plain scope.catalog.filters)
    (hdepth : e.depth < scope.settings.maxExpressionDepth) :
    (Node.output p e).RecoverableAt scope style k := by
  refine recoverableAt_of_with fun wrap _ top => recovers_leaf rfl rfl rfl rfl ?_
  intro d ts rest hd hts _
  obtain ⟨opening, ts, rfl, hopening, hts⟩ := List.map_eq_cons_iff.mp hts
  obtain ⟨inner, last, rfl, hinner, hlast⟩ := List.map_eq_append_iff.mp hts
  obtain ⟨close, ts, rfl, hclose, hnil⟩ := List.map_eq_cons_iff.mp hlast
  rw [List.map_eq_nil_iff.mp hnil] at hd
  have hcontent : Content .closeOutput (inner ++ close :: rest) inner close rest := by
    refine ⟨rfl, fun t ht => ?_, hclose, ?_⟩
    · exact Token.closes_eq_false (open_written e _ _ (hinner ▸ List.mem_map_of_mem ht))
    · unfold Token.closes
      rw [hclose]
      rfl
  have hne : inner.isEmpty = false := by
    obtain ⟨x, ls, hbare, -⟩ := begins_bare he
    have hlevel : ¬ e.level < .disjunction := Nat.not_lt_zero _
    unfold Expr.written bracketed at hinner
    rw [if_neg hlevel, hbare] at hinner
    obtain ⟨t, ts, rfl, -⟩ := List.map_eq_cons_iff.mp hinner
    rfl
  obtain ⟨e', he', hread⟩ : ∃ e', e.Alike e' ∧ ∀ d, argumentsOf "\x7b\x7b \x7d\x7d"
      close.position inner Arguments.expression scope d = (.ok e', d) :=
    argumentsOf_of_takes ((takes_expression he hdepth).mono (F := noLexeme) fun _ => False.elim)
      hinner
  have hnode : Node.readWith top wrap scope d = (.ok (.output opening.position e'),
      { d with tokens := rest, seenContent := true }) := by
    unfold Node.readWith
    rw [run_get_bind, hd]
    simp only [List.cons_append, List.append_assoc, List.nil_append, hopening]
    change Node.readOutput opening.position scope { d with tokens := inner ++ close :: rest } = _
    unfold Node.readOutput
    rw [run_bind, content_eq_ok hcontent]
    simp only [hne]
    rw [if_neg Bool.false_ne_true, run_bind, hread]
    rfl
  refine ⟨False.elim, fun _ => ⟨_, _, hnode, ?_, rfl, .of_same ⟨rfl, rfl, rfl, rfl⟩⟩⟩
  unfold Node.Alike Node.unplaced
  rw [he']

theorem recoverable_tag {t : Tag} {p : Position} {statement : Statement}
    (hfind : scope.catalog.tags.find? t.name = some (.builtin t))
    (hallowed : scope.catalog.tags.isBanned t.name = false)
    (hs : statement.RecoverableAt scope style k t) :
    (Node.tag t.name p statement).RecoverableAt scope style k :=
  recoverableAt_of_with fun _ hwrap top => recovers_tag hfind hallowed hwrap hs top

/-! ## Plain documents -/

/-- No expression of the parts nests too deep. -/
def Shallow (limit : Nat) (parts : List (Nat × Node)) : Prop := ∀ q ∈ parts, q.2.depth < limit

theorem Shallow.left {limit : Nat} {parts parts' : List (Nat × Node)}
    (h : Shallow limit (parts ++ parts')) : Shallow limit parts :=
  fun q hq => h q (List.mem_append_left _ hq)

theorem Shallow.right {limit : Nat} {parts parts' : List (Nat × Node)}
    (h : Shallow limit (parts ++ parts')) : Shallow limit parts' :=
  fun q hq => h q (List.mem_append_right _ hq)

theorem Shallow.own {limit : Nat} {name : String} {p : Position} {statement : Statement}
    (h : Shallow limit ((Node.tag name p statement).parts k)) :
    (Node.tag name p statement).depth < limit :=
  h (k, Node.tag name p statement) (List.mem_append_right _ List.mem_cons_self)

theorem Shallow.node {limit : Nat} (h : Shallow limit (partsOf k body)) (hn : n ∈ body) :
    Shallow limit (n.parts k) := by
  induction body with
  | nil => cases hn
  | cons n' body ih =>
    rcases List.mem_cons.mp hn with rfl | hn
    · exact h.left
    · exact ih h.right hn

theorem Shallow.optional {limit : Nat} {otherwise : Option (List Node)}
    (h : Shallow limit (partsOfOptional k otherwise)) (hbody : body ∈ otherwise) :
    Shallow limit (partsOf k body) := by
  cases hbody
  exact h

theorem Shallow.branch {limit : Nat} {branches : List (Expr × List Node)} {b : Expr × List Node}
    (h : Shallow limit (partsOfBranches k branches)) (hb : b ∈ branches) :
    Shallow limit (partsOf k b.2) := by
  induction branches with
  | nil => cases hb
  | cons b' branches ih =>
    rcases List.mem_cons.mp hb with rfl | hb
    · exact h.left
    · exact ih h.right hb

theorem lt_of_foldr_max_lt {α : Type} {l : List α} {f : α → Nat} {limit : Nat}
    (h : (l.map f).foldr max 0 < limit) : ∀ a ∈ l, f a < limit := by
  induction l with
  | nil => exact nofun
  | cons a l ih =>
    rw [List.map_cons, List.foldr_cons, Nat.max_lt] at h
    exact List.forall_mem_cons.mpr ⟨h.1, ih h.2⟩

mutual

theorem Node.Plain.recoverable {n : Node} :
    n.Plain scope.catalog → ∀ k, Shallow scope.settings.maxExpressionDepth (n.parts k) →
      n.RecoverableAt scope style k
  | .text s => fun _ _ => recoverable_text s
  | .output he => fun _ hdepth => recoverable_output he (hdepth _ List.mem_cons_self)
  | .tag (p := p) hfind hallowed hs => fun k hdepth =>
    recoverable_tag hfind hallowed (hs.recoverable k p hdepth)

theorem Statement.Plain.recoverable {t : Tag} {s : Statement} :
    s.Plain scope.catalog t → ∀ k p,
      Shallow scope.settings.maxExpressionDepth ((Node.tag t.name p s).parts k) →
        s.RecoverableAt scope style k t
  | .branch hne hconditions hbodies hotherwise => fun k _ hdepth =>
    recoverable_branch hne hconditions (lt_of_foldr_max_lt hdepth.own)
      (fun b hb => ⟨hbodies b hb, fun n hn =>
        (hbodies b hb n hn).recoverable (k + 1) ((hdepth.left.left.branch hb).node hn)⟩)
      fun body hmem => ⟨hotherwise body hmem, fun n hn =>
        (hotherwise body hmem n hn).recoverable (k + 1) ((hdepth.left.right.optional hmem).node hn)⟩
  | .loop hsource hbody hempty => fun k _ hdepth =>
    recoverable_loop hsource hdepth.own
      ⟨hbody, fun n hn => (hbody n hn).recoverable (k + 1) (hdepth.left.left.node hn)⟩
      fun body hmem => ⟨hempty body hmem, fun n hn =>
        (hempty body hmem n hn).recoverable (k + 1) ((hdepth.left.right.optional hmem).node hn)⟩
  | .bind hne hbindings hbody => fun k _ hdepth =>
    recoverable_bind ⟨hbody, fun n hn => (hbody n hn).recoverable (k + 1) (hdepth.left.node hn)⟩
      hne hbindings (lt_of_foldr_max_lt hdepth.own)
  | .escaping hbody => fun k _ hdepth =>
    recoverable_escaping ⟨hbody, fun n hn => (hbody n hn).recoverable (k + 1) (hdepth.left.node hn)⟩
  | .filtering hne hfilters hbody => fun k _ hdepth =>
    recoverable_filtering
      ⟨hbody, fun n hn => (hbody n hn).recoverable (k + 1) (hdepth.left.node hn)⟩ hne hfilters
      hdepth.own
  | .spaceless hbody => fun k _ hdepth =>
    recoverable_spaceless
      ⟨hbody, fun n hn => (hbody n hn).recoverable (k + 1) (hdepth.left.node hn)⟩
  | .block hbody => fun k _ hdepth =>
    recoverable_block ⟨hbody, fun n hn => (hbody n hn).recoverable (k + 1) (hdepth.left.node hn)⟩
  | .define hparams hbody => fun k _ hdepth => by
    refine recoverable_define hparams (fun p hp e he => ?_)
      ⟨hbody, fun n hn => (hbody n hn).recoverable (k + 1) (hdepth.left.node hn)⟩
    have hdefault := lt_of_foldr_max_lt hdepth.own p hp
    rw [Option.mem_def.mp he] at hdefault
    exact hdefault

end

/-! ## Whole documents -/

theorem readAll_end (scope : DraftScope) (m : Nat) (acc : List Node) {d : Draft}
    (hd : d.tokens = []) :
    Node.readAll scope.settings.maxNestingDepth (m + 1) acc scope d = (.ok acc.reverse, d) := by
  rw [Node.readAll, run_get_bind, hd]
  rfl

theorem readAll_step (scope : DraftScope) (m : Nat) (acc : List Node) {d : Draft}
    (hd : d.tokens ≠ []) :
    Node.readAll scope.settings.maxNestingDepth (m + 1) acc scope d =
      (Node.read scope.settings.maxNestingDepth true >>= fun n =>
        Node.readAll scope.settings.maxNestingDepth m (n :: acc)) scope d := by
  obtain ⟨t, rest, htokens⟩ := List.exists_cons_of_ne_nil hd
  rw [Node.readAll, run_get_bind, htokens]

/-- All parts of a document are read to its end. -/
theorem readAll_of_recoverable {nodes : List Node} (hplain : ∀ n ∈ nodes, n.Plain scope.catalog)
    (hnodes : ∀ n ∈ nodes, n.RecoverableAt scope style 0) (m : Nat) (hm : nodes.length < m)
    (acc : List Node) (d : Draft) (hd : d.tokens.map Token.lexeme = writtenNodes style nodes)
    (hfree : d.Open (partsOf 0 nodes)) :
    let read := Node.readAll scope.settings.maxNestingDepth m acc scope d
    (DeepAmong scope.settings.maxNestingDepth (partsOf 0 nodes) → ∃ p,
      read.1 = .error (.error (.atPosition p (.tooNested scope.settings.maxNestingDepth)))) ∧
    (¬ DeepAmong scope.settings.maxNestingDepth (partsOf 0 nodes) → ∃ found,
      read.1 = .ok found ∧ unplacedNodes found = unplacedNodes (acc.reverse ++ nodes) ∧
        d.Grown (partsOf 0 nodes) read.2) := by
  obtain ⟨m, rfl⟩ : ∃ m', m = m' + 1 := ⟨m - 1, by omega⟩
  induction nodes generalizing m acc d with
  | nil =>
    have hread := readAll_end scope m acc (List.map_eq_nil_iff.mp hd)
    intro read
    refine ⟨fun h => absurd h deepAmong_nil, fun _ => ⟨acc.reverse, congrArg _ hread, ?_, ?_⟩⟩
    · rw [List.append_nil]
    · rw [show read.2 = d from congrArg Prod.snd hread]
      exact .of_same (.refl d)
  | cons n nodes ih =>
    obtain ⟨m, rfl⟩ : ∃ m', m = m' + 1 := ⟨m - 1, by simp at hm; omega⟩
    simp only [List.forall_mem_cons] at hplain hnodes
    obtain ⟨front, back, htokens, hfront, hback⟩ := List.map_eq_append_iff.mp hd
    have hne : d.tokens ≠ [] := by
      intro hnil
      have hlength := length_le_writtenNodes style (List.forall_mem_singleton.mpr hplain.1)
      rw [hnil] at htokens
      obtain ⟨rfl, -⟩ := List.append_eq_nil_iff.mp htokens.symm
      simp only [writtenNodes, ← hfront] at hlength
      cases hlength
    obtain ⟨hdeep, hflat⟩ := hnodes.1 scope.settings.maxNestingDepth true (Nat.zero_add _) d front
      back htokens hfront hfree.left
    rw [readAll_step scope (m + 1) acc hne, run_bind, partsOf, deepAmong_append]
    by_cases h : DeepAmong scope.settings.maxNestingDepth (n.parts 0)
    · obtain ⟨p, d', hnode⟩ := hdeep h
      rw [hnode]
      exact ⟨fun _ => ⟨p, rfl⟩, fun hnot => absurd (.inl h) hnot⟩
    · obtain ⟨n', d', hnode, hn', hd', hgrown⟩ := hflat h
      rw [hnode]
      obtain ⟨hdeep', hflat'⟩ := ih hplain.2 hnodes.2 (n' :: acc) d' (hd' ▸ hback)
        (hfree.right hgrown) m (Nat.lt_of_succ_lt_succ hm)
      refine ⟨fun hor => hdeep' (hor.resolve_left h), fun hnot => ?_⟩
      obtain ⟨found, hfound, halike, hgrown'⟩ := hflat' fun h' => hnot (.inr h')
      refine ⟨found, hfound, halike.trans ?_, hgrown.trans hgrown'⟩
      simp only [unplacedNodes_eq, List.map_append, List.map_cons, List.reverse_cons,
        List.append_assoc, List.nil_append, List.cons_append, Node.Alike] at hn' ⊢
      rw [hn']

/-- The draft with which the reading of a document starts. -/
def Draft.start (tokens : List Token) (library : Library) : Draft := { tokens, library }

/-- The scope with other limits for the nesting of tags and of expressions. -/
def DraftScope.limited (scope : DraftScope) (nesting depth : Nat) : DraftScope :=
  { scope with
    settings := { scope.settings with maxNestingDepth := nesting, maxExpressionDepth := depth } }

/-- A document is read back from the way it is written, and its blocks are noted, if each of its
tags stands in fewer other tags than may nest. If one of them stands in more, the document is
refused for that. -/
theorem document_written (style : Style) (scope : DraftScope) (nodes : List Node)
    (hplain : ∀ n ∈ nodes, n.Plain scope.catalog)
    (hblocks : (blocksAmong (partsOf 0 nodes)).keys.Nodup)
    (hmacros : (exportsAmong (partsOf 0 nodes)).keys.Nodup) :
    ∃ depth, ∀ limit ≥ depth, ∀ nesting ts library, ts.map Token.lexeme = writtenNodes style nodes →
      let read := Node.readAll nesting (ts.length + 1) [] (scope.limited nesting limit)
        (.start ts library)
      ((∀ part ∈ partsOf 0 nodes, part.2.isTag = true → part.1 < nesting) → ∃ nodes',
        read.1 = .ok nodes' ∧ unplacedNodes nodes' = unplacedNodes nodes ∧
          read.2.blocks.change unplacedNodes =
            (blocksAmong (partsOf 0 nodes)).change unplacedNodes) ∧
      ((∃ part ∈ partsOf 0 nodes, part.2.isTag = true ∧ nesting ≤ part.1) → ∃ p,
        read.1 = .error (.error (.atPosition p (.tooNested nesting)))) := by
  refine ⟨((partsOf 0 nodes).map fun q => q.2.depth).foldr max 0 + 1,
    fun limit hlimit nesting ts library hts => ?_⟩
  have hshallow : Shallow limit (partsOf 0 nodes) := lt_of_foldr_max_lt hlimit
  have hplain : ∀ n ∈ nodes, n.Plain (scope.limited nesting limit).catalog := hplain
  have hnodes : ∀ n ∈ nodes, n.RecoverableAt (scope.limited nesting limit) style 0 :=
    fun n hn => (hplain n hn).recoverable 0 (hshallow.node hn)
  have hlength : nodes.length < ts.length + 1 := by
    have h := length_le_writtenNodes style hplain
    rw [← hts, List.length_map] at h
    omega
  obtain ⟨hdeep, hflat⟩ := readAll_of_recoverable hplain hnodes (ts.length + 1) hlength []
    (.start ts library) hts ⟨hblocks, hmacros⟩
  refine ⟨fun hwithin => ?_, hdeep⟩
  have hlevel : ¬ DeepAmong nesting (partsOf 0 nodes) := by
    rintro ⟨part, hpart, htag, hlevel⟩
    exact absurd (hwithin part hpart htag) (Nat.not_lt.mpr hlevel)
  obtain ⟨found, hfound, halike, hgrown⟩ := hflat hlevel
  exact ⟨found, hfound, halike, hgrown.blocks⟩

/-- Only the end of the block `row` repeats its name. -/
private def rowStyle : Style := { namesEnd := (· == "row") }

private def rowScope : DraftScope where
  name := "rows"
  catalog := .builtin
  settings := {}
  load _ := pure none

/-- A loop in a block, with another block where there is nothing to loop over. -/
private def rows : List Node :=
  [.tag Tag.block.name default (.block "table" [.text "<table>",
      .tag Tag.loop.name default (.loop "i" (some "row") (.path "rows" [] default) true false
        [.output default (.path "row" [.call []] default)]
        (some [.tag Tag.block.name default (.block "row" [])]))]),
    .tag Tag.define.name default (.define
      ⟨"cell", [("x", none), ("wide", some (.literal (.bool true)))], [], true⟩)]

private theorem plain_builtin {t : Tag} {p : Position} {s : Statement}
    (hs : s.Plain rowScope.catalog t) : Node.Plain rowScope.catalog (.tag t.name p s) :=
  .tag (by cases t <;> rfl) rfl hs

private theorem plain_rows : ∀ n ∈ rows, n.Plain rowScope.catalog := by
  have hpath (name : String) : Expr.Plain rowScope.catalog.filters (.path name [] default) :=
    .path (List.forall_mem_nil _)
  have hcall : Expr.Plain rowScope.catalog.filters (.path "row" [.call []] default) :=
    .path (List.forall_mem_singleton.mpr (.call (List.forall_mem_nil _)))
  have hloop : Statement.Plain rowScope.catalog .loop
      (.loop "i" (some "row") (.path "rows" [] default) true false
        [.output default (.path "row" [.call []] default)]
        (some [.tag Tag.block.name default (.block "row" [])])) := by
    refine .loop (hpath "rows") (List.forall_mem_singleton.mpr (.output hcall)) ?_
    rintro _ ⟨⟩
    exact List.forall_mem_singleton.mpr (plain_builtin (.block (List.forall_mem_nil _)))
  have hparams : Parameters.Plain rowScope.catalog.filters
      [("x", none), ("wide", some (.literal (.bool true)))] := by
    refine ⟨by decide, by decide, ?_⟩
    simp only [List.forall_mem_cons]
    have hnone (e : Expr) (he : e ∈ none) : e.Plain rowScope.catalog.filters :=
      absurd he (Option.not_mem_none e)
    refine ⟨hnone, ?_, List.forall_mem_nil _⟩
    rintro _ ⟨⟩
    exact .literal (.bool true)
  have htable : ∀ n ∈ [Node.text "<table>", .tag Tag.loop.name default _],
      Node.Plain rowScope.catalog n :=
    List.forall_mem_cons.mpr
      ⟨.text "<table>", List.forall_mem_singleton.mpr (plain_builtin hloop)⟩
  exact List.forall_mem_cons.mpr ⟨plain_builtin (.block htable),
    List.forall_mem_singleton.mpr (plain_builtin (.define hparams (List.forall_mem_nil _)))⟩

private def rowLexemes : List Lexeme :=
  [.symbol .openTag, .identifier "block", .identifier "table", .symbol .closeTag, .text "<table>",
    .symbol .openTag, .identifier "for", .identifier "i", .symbol .comma, .identifier "row",
    .keyword .kwIn, .identifier "rows", .identifier "reversed", .symbol .closeTag,
    .symbol .openOutput, .identifier "row", .symbol .openParen, .symbol .closeParen,
    .symbol .closeOutput, .symbol .openTag, .identifier "empty", .symbol .closeTag,
    .symbol .openTag, .identifier "block", .identifier "row", .symbol .closeTag, .symbol .openTag,
    .identifier "endblock", .identifier "row", .symbol .closeTag, .symbol .openTag,
    .identifier "endfor", .symbol .closeTag, .symbol .openTag, .identifier "endblock",
    .symbol .closeTag, .symbol .openTag, .identifier "macro", .identifier "cell",
    .symbol .openParen, .identifier "x", .symbol .comma, .identifier "wide", .symbol .equal,
    .keyword .kwTrue, .symbol .closeParen, .keyword .kwExport, .symbol .closeTag,
    .symbol .openTag, .identifier "endmacro", .symbol .closeTag]

/-- Three tags nest in the rows, so they are read within that limit and refused below it. -/
theorem document_written_rows :
    ∃ depth, ∀ limit ≥ depth, ∀ (ts : List Token) (library : Library),
      ts.map Token.lexeme = rowLexemes →
        (∃ nodes', (Node.readAll 3 (ts.length + 1) [] (rowScope.limited 3 limit)
            (.start ts library)).1 = .ok nodes' ∧ unplacedNodes nodes' = unplacedNodes rows) ∧
          ∃ p, (Node.readAll 2 (ts.length + 1) [] (rowScope.limited 2 limit)
            (.start ts library)).1 = .error (.error (.atPosition p (.tooNested 2))) := by
  obtain ⟨depth, h⟩ := document_written rowStyle rowScope rows plain_rows (by decide) (by decide)
  have hwritten : writtenNodes rowStyle rows = rowLexemes := by decide +kernel
  refine ⟨depth, fun limit hlimit ts library hts => ⟨?_, ?_⟩⟩
  · obtain ⟨nodes', hread, halike, -⟩ :=
      (h limit hlimit 3 ts library (hts.trans hwritten.symm)).1 (by decide +kernel)
    exact ⟨nodes', hread, halike⟩
  · exact (h limit hlimit 2 ts library (hts.trans hwritten.symm)).2 (by decide +kernel)

end Stencil
