import Stencil.Proofs.Writing.Heads

/-!
# Reading tags back

A tag takes its arguments, and then bodies up to the tags that end them. All bodies of a tag stand
in one more tag than the tag itself, however many there are.
-/

namespace Stencil

open Drafting

variable {scope : DraftScope} {style : Style} {k : Nat} {s : TagScope} {α β : Type}
  {A : α → Prop} {B : β → Prop} {ls ls' args : List Lexeme} {deep deep' : Prop}
  {parts parts' : List (Nat × Node)}

/-! ## Endings -/

/-- The names that end a body or part it from the next one. -/
def endings : List String :=
  ["elif", "else", "endif", "empty", "endfor", "endwith", "endautoescape", "endfilter",
    "endspaceless", "endblock", "endmacro"]

/-- No tag is called like what ends a body. -/
theorem Tag.name_not_mem {ends : List String} (h : ∀ name ∈ ends, name ∈ endings) (t : Tag) :
    t.name ∉ ends := by
  have hname : t.name ∉ endings := by
    cases t <;> decide
  exact fun ht => hname (h _ ht)

/-! ## Bodies -/

/-- The nodes are the same up to positions. -/
def Node.Alike (n n' : Node) : Prop := n'.unplaced = n.unplaced

/-- A part of a document that stands in `k` tags is read back. -/
def Node.RecoverableAt (scope : DraftScope) (style : Style) (k : Nat) (n : Node) : Prop :=
  ∀ room top, k + room = scope.settings.maxNestingDepth →
    Recovers scope (n.written style) (DeepAmong scope.settings.maxNestingDepth (n.parts k))
      (n.parts k) (Node.read room top) n.Alike

/-- A body in which plain parts stand that are read back. -/
structure RecoverableBody (scope : DraftScope) (style : Style) (k : Nat) (body : List Node) :
    Prop where
  plain : ∀ n ∈ body, n.Plain scope.catalog
  recoverable : ∀ n ∈ body, n.RecoverableAt scope style k

/-- A tag that stands in `k` others, or one of the parts in it, is too deep. -/
def DraftScope.TooDeep (scope : DraftScope) (k : Nat) (parts : List (Nat × Node)) : Prop :=
  scope.settings.maxNestingDepth ≤ k ∨ DeepAmong scope.settings.maxNestingDepth parts

/-- The section was read from the way the body and the tag behind it are written. -/
structure Section.Recovered (part : Section) (body : List Node) (name : String)
    (args : List Lexeme) : Prop where
  nodes : unplacedNodes part.nodes = unplacedNodes body
  ending : part.ending.lexeme = .identifier name
  args : part.args.map Token.lexeme = args

/-- What is read as the body of a tag that stands in `k` others is the body that was written. -/
def SectionReader.Recovers (scope : DraftScope) (style : Style) (k : Nat) (wrap : SectionReader) :
    Prop :=
  ∀ body, RecoverableBody scope style (k + 1) body → ∀ ends opener name args,
    (∀ t : Tag, t.name ∉ ends) → name ∈ ends → (∀ x ∈ args, x.Open) →
      Drafting.Recovers scope (writtenNodes style body ++ writtenTag name args)
        (scope.TooDeep k (partsOf (k + 1) body)) (partsOf (k + 1) body) (wrap ends opener)
        fun part => part.Recovered body name args

theorem Section.Recovered.value {part : Section} {body : List Node} {name : String}
    (h : part.Recovered body name args) : part.ending.value = name := by
  unfold Token.value
  rw [h.ending]
  rfl

/-! ## Rules -/

theorem recovers_arguments_bind {r : Arguments α} {f : α × List Token → Drafting β}
    (hargs : s.args.map Token.lexeme = args)
    (hr : r.Takes (scope.surroundings s.close) args noLexeme A)
    (hf : ∀ a, A a → Recovers scope ls deep parts (f (a, [])) B) :
    Recovers scope ls deep parts (TagReader.arguments s r >>= f) B := by
  obtain ⟨a, ha, hread⟩ := arguments_of_takes hr hargs
  exact recovers_ok_bind hread (hf a ha)

theorem recovers_argumentsOf_bind {tag : String} {close : Position} {ts : List Token}
    {r : Arguments α} {f : α → Drafting β} (hargs : ts.map Token.lexeme = args)
    (hr : r.Takes (scope.surroundings close) args noLexeme A)
    (hf : ∀ a, A a → Recovers scope ls deep parts (f a) B) :
    Recovers scope ls deep parts (argumentsOf tag close ts r >>= f) B := by
  obtain ⟨a, ha, hread⟩ := argumentsOf_of_takes hr hargs
  exact recovers_ok_bind hread (hf a ha)

theorem recovers_body_bind {body : List Node} {part : Section} {name : String}
    {f : Body → Drafting β} (hpart : part.Recovered body name [])
    (hf : ∀ body', unplacedNodes body' = unplacedNodes body →
      Recovers scope ls deep parts (f body') B) :
    Recovers scope ls deep parts (part.body >>= f) B := by
  unfold Section.body
  rw [bind_assoc]
  refine recovers_argumentsOf_bind hpart.args (takes_pure (A := fun _ => True) trivial)
    fun _ _ => ?_
  rw [pure_bind]
  exact hf part.nodes hpart.nodes

theorem recovers_section_body {body : List Node} {part : Section} {name : String}
    (hpart : part.Recovered body name []) :
    Recovers scope [] False [] part.body fun body' => unplacedNodes body' = unplacedNodes body := by
  rw [← bind_pure part.body]
  exact recovers_body_bind hpart fun body' hbody' => recovers_pure hbody'

section Bodies

variable {body : List Node} (hwrap : s.wrap.Recovers scope style k)
  (hbody : RecoverableBody scope style (k + 1) body)
include hwrap hbody

theorem recovers_section_bind {ends : List String} {name : String} {f : Section → Drafting β}
    (hends : ∀ name ∈ ends, name ∈ endings) (hname : name ∈ ends) (hopen : ∀ x ∈ args, x.Open)
    (hf : ∀ part, part.Recovered body name args →
      Recovers scope ls (scope.TooDeep k parts) parts (f part) B) :
    Recovers scope (writtenNodes style body ++ (writtenTag name args ++ ls))
      (scope.TooDeep k (partsOf (k + 1) body ++ parts)) (partsOf (k + 1) body ++ parts)
      (s.wrap ends s.start >>= f) B := by
  rw [← List.append_assoc]
  refine (recovers_bind (hwrap body hbody ends s.start name args (Tag.name_not_mem hends) hname
    hopen) hf).congr ?_ rfl rfl
  unfold DraftScope.TooDeep
  rw [deepAmong_append]
  exact or_or_distrib_left.symm

/-- The last body of a tag. -/
theorem recovers_section_end {ends : List String} {name : String} {f : Section → Drafting β}
    (hends : ∀ name ∈ ends, name ∈ endings) (hname : name ∈ ends) (hopen : ∀ x ∈ args, x.Open)
    (hf : ∀ part, part.Recovered body name args → Recovers scope [] False [] (f part) B) :
    Recovers scope (writtenNodes style body ++ writtenTag name args)
      (scope.TooDeep k (partsOf (k + 1) body)) (partsOf (k + 1) body)
      (s.wrap ends s.start >>= f) B :=
  recovers_bind_end (hwrap body hbody ends s.start name args (Tag.name_not_mem hends) hname
    hopen) hf

theorem recovers_bodyUpTo {ending : String} (hending : ending ∈ endings) :
    Recovers scope (writtenNodes style body ++ writtenTag ending [])
      (scope.TooDeep k (partsOf (k + 1) body)) (partsOf (k + 1) body)
      (TagReader.bodyUpTo s ending) fun body' => unplacedNodes body' = unplacedNodes body := by
  exact recovers_section_end hwrap hbody (List.forall_mem_singleton.mpr hending) List.mem_cons_self
    (List.forall_mem_nil _) fun part hpart => recovers_section_body hpart

theorem recovers_bodies {middle ending : String} {otherwise : Option (List Node)}
    (hends : ∀ name ∈ [middle, ending], name ∈ endings) (hne : ending ≠ middle)
    (hotherwise : ∀ body ∈ otherwise, RecoverableBody scope style (k + 1) body) :
    Recovers scope
      (writtenNodes style body ++ (writtenOptional style middle otherwise ++ writtenTag ending []))
      (scope.TooDeep k (partsOf (k + 1) body ++ partsOfOptional (k + 1) otherwise))
      (partsOf (k + 1) body ++ partsOfOptional (k + 1) otherwise)
      (TagReader.bodies s middle ending) fun found =>
        unplacedNodes found.1 = unplacedNodes body ∧
          unplacedOptional found.2 = unplacedOptional otherwise := by
  cases otherwise with
  | none =>
    rw [partsOfOptional, List.append_nil]
    refine recovers_section_end hwrap hbody hends (List.mem_cons_of_mem _ List.mem_cons_self)
      (List.forall_mem_nil _) fun part hpart => recovers_body_bind hpart fun body' hbody' => ?_
    rw [hpart.value, beq_eq_false_iff_ne.mpr hne, if_neg Bool.false_ne_true]
    exact recovers_pure ⟨hbody', rfl⟩
  | some more =>
    rw [writtenOptional, List.append_assoc]
    refine recovers_section_bind hwrap hbody hends List.mem_cons_self (List.forall_mem_nil _)
      fun part hpart => recovers_body_bind hpart fun body' hbody' => ?_
    rw [hpart.value, beq_self_eq_true, if_pos rfl]
    have hending : ending ∈ endings := hends _ (List.mem_cons_of_mem _ List.mem_cons_self)
    refine recovers_bind_pure (recovers_bodyUpTo hwrap (hotherwise more rfl) hending)
      fun more' hmore' => ⟨hbody', ?_⟩
    rw [unplacedOptional, hmore', unplacedOptional]

end Bodies

/-! ## Conditionals -/

/-- Behind the last branch of a conditional there is a body for all other cases, or none. -/
theorem recovers_last_branch (hwrap : s.wrap.Recovers scope style k)
    {otherwise : Option (List Node)}
    (hotherwise : ∀ body ∈ otherwise, RecoverableBody scope style (k + 1) body) {body : List Node}
    (hbody : RecoverableBody scope style (k + 1) body) (condition : Expr) (n : Nat) :
    Recovers scope
      (writtenNodes style body ++ (writtenOptional style "else" otherwise ++ writtenTag "endif" []))
      (scope.TooDeep k (partsOf (k + 1) body ++ partsOfOptional (k + 1) otherwise))
      (partsOf (k + 1) body ++ partsOfOptional (k + 1) otherwise)
      (TagReader.branches s (n + 1) condition) fun found =>
        unplacedBranches found.1 = unplacedBranches [(condition, body)] ∧
          unplacedOptional found.2 = unplacedOptional otherwise := by
  have hends : ∀ name ∈ ["elif", "else", "endif"], name ∈ endings := by decide
  cases otherwise with
  | none =>
    rw [partsOfOptional, List.append_nil]
    refine recovers_section_end hwrap hbody hends (by decide) (List.forall_mem_nil _)
      fun part hpart => ?_
    simp only [hpart.value]
    refine recovers_bind_pure (recovers_section_body hpart) fun body' hbody' => ⟨?_, rfl⟩
    simp only [unplacedBranches, hbody']
  | some more =>
    rw [writtenOptional, List.append_assoc]
    refine recovers_section_bind hwrap hbody hends (by decide) (List.forall_mem_nil _)
      fun part hpart => ?_
    simp only [hpart.value]
    refine recovers_body_bind hpart fun body' hbody' => ?_
    refine recovers_bind_pure (recovers_bodyUpTo hwrap (hotherwise more rfl) (by decide))
      fun more' hmore' => ⟨?_, ?_⟩
    · simp only [unplacedBranches, hbody']
    · rw [unplacedOptional, hmore', unplacedOptional]

/-- The branches of a conditional are read back, whatever the first condition was read as. -/
theorem recovers_branches (hwrap : s.wrap.Recovers scope style k) {otherwise : Option (List Node)}
    (hotherwise : ∀ body ∈ otherwise, RecoverableBody scope style (k + 1) body)
    {rest : List (Expr × List Node)} {body : List Node}
    (hplain : ∀ b ∈ rest, b.1.Plain scope.catalog.filters)
    (hdepth : ∀ b ∈ rest, b.1.depth < scope.settings.maxExpressionDepth)
    (hbody : RecoverableBody scope style (k + 1) body)
    (hbodies : ∀ b ∈ rest, RecoverableBody scope style (k + 1) b.2) (condition : Expr) (n : Nat)
    (hn : rest.length < n) :
    Recovers scope
      (writtenNodes style body ++ (writtenBranches style "elif" rest ++
        (writtenOptional style "else" otherwise ++ writtenTag "endif" [])))
      (scope.TooDeep k (partsOf (k + 1) body ++
        (partsOfBranches (k + 1) rest ++ partsOfOptional (k + 1) otherwise)))
      (partsOf (k + 1) body ++
        (partsOfBranches (k + 1) rest ++ partsOfOptional (k + 1) otherwise))
      (TagReader.branches s n condition) fun found =>
        unplacedBranches found.1 = unplacedBranches ((condition, body) :: rest) ∧
          unplacedOptional found.2 = unplacedOptional otherwise := by
  have hends : ∀ name ∈ ["elif", "else", "endif"], name ∈ endings := by decide
  induction rest generalizing body condition n with
  | nil =>
    obtain ⟨n, rfl⟩ : ∃ m, n = m + 1 := ⟨n - 1, by omega⟩
    exact recovers_last_branch hwrap hotherwise hbody condition n
  | cons b rest ih =>
    obtain ⟨next, body₁⟩ := b
    simp only [List.forall_mem_cons] at hplain hdepth hbodies
    obtain ⟨n, rfl⟩ : ∃ m, n = m + 1 := ⟨n - 1, by omega⟩
    rw [writtenBranches, partsOfBranches]
    simp only [List.append_assoc]
    refine recovers_section_bind hwrap hbody hends (by decide) (open_written next _)
      fun part hpart => ?_
    simp only [hpart.value]
    refine recovers_argumentsOf_bind hpart.args ((takes_expression hplain.1 hdepth.1).mono
      fun _ => False.elim) fun next' hnext' => ?_
    refine recovers_bind_pure (ih hplain.2 hdepth.2 hbodies.1 hbodies.2 next' n
      (Nat.lt_of_succ_lt_succ hn)) fun found hfound => ⟨?_, hfound.2⟩
    simp only [unplacedBranches] at hfound ⊢
    rw [hfound.1, hpart.nodes, hnext']

/-! ## Statements -/

/-- What was read is the statement, and nothing is left of its arguments. -/
def Statement.Read (statement : Statement) (found : Statement × List Token) : Prop :=
  found.2 = [] ∧ found.1.unplaced = statement.unplaced

/-- The statement of a tag that stands in `k` others is read back. -/
def Statement.RecoverableAt (scope : DraftScope) (style : Style) (k : Nat) (t : Tag)
    (statement : Statement) : Prop :=
  ∃ args ls, statement.written style = writtenTag t.name args ++ ls ∧ (∀ x ∈ args, x.Open) ∧
    ∀ s p, SectionReader.Recovers scope style k s.wrap → s.args.map Token.lexeme = args →
      Recovers scope ls
        (DeepAmong scope.settings.maxNestingDepth ((Node.tag t.name p statement).parts k))
        ((Node.tag t.name p statement).parts k) (TagReader.builtin t s) statement.Read

theorem tooDeep_tag (k : Nat) (name : String) (p : Position) (statement : Statement) :
    scope.TooDeep k (statement.parts (k + 1)) ↔
      DeepAmong scope.settings.maxNestingDepth ((Node.tag name p statement).parts k) :=
  deepAmong_tag.symm

/-- A tag that is neither a block nor an exported macro is not noted itself. -/
theorem recovers_unnoted {name : String} {p : Position} {statement : Statement} {m : Drafting α}
    (h : Recovers scope ls (scope.TooDeep k (statement.parts (k + 1))) (statement.parts (k + 1)) m
      A)
    (hblock : (Node.tag name p statement).block? = none)
    (hexport : (Node.tag name p statement).export? = none) :
    Recovers scope ls
      (DeepAmong scope.settings.maxNestingDepth ((Node.tag name p statement).parts k))
      ((Node.tag name p statement).parts k) m A := by
  refine h.congr (tooDeep_tag k name p statement) ?_ ?_
  · rw [blocksAmong_tag, hblock]
    exact (List.append_nil _).symm
  · rw [exportsAmong_tag, hexport]
    exact (List.append_nil _).symm

theorem length_le_writtenBranches (style : Style) (name : String)
    (branches : List (Expr × List Node)) :
    branches.length ≤ (writtenBranches style name branches).length := by
  induction branches generalizing name with
  | nil => exact Nat.zero_le _
  | cons b rest ih =>
    have hrest := ih "elif"
    simp only [writtenBranches, writtenTag, List.length_cons, List.length_append]
    omega

theorem recoverable_branch {branches : List (Expr × List Node)} {otherwise : Option (List Node)}
    (hne : branches ≠ []) (hplain : ∀ b ∈ branches, b.1.Plain scope.catalog.filters)
    (hdepth : ∀ b ∈ branches, b.1.depth < scope.settings.maxExpressionDepth)
    (hbodies : ∀ b ∈ branches, RecoverableBody scope style (k + 1) b.2)
    (hotherwise : ∀ body ∈ otherwise, RecoverableBody scope style (k + 1) body) :
    Statement.RecoverableAt scope style k .branch (.branch branches otherwise) := by
  cases branches with
  | nil => exact absurd rfl hne
  | cons b rest =>
    obtain ⟨condition, body⟩ := b
    simp only [List.forall_mem_cons] at hplain hdepth hbodies
    refine ⟨_, _, List.append_assoc _ _ _, open_written condition _, fun s p hwrap hargs => ?_⟩
    refine recovers_unnoted ?_ rfl rfl
    refine recovers_arguments_bind hargs ((takes_expression hplain.1 hdepth.1).mono
      fun _ => False.elim) fun condition' hcondition' => ?_
    refine recovers_get_bind fun d hd => ?_
    have hlength := length_le_writtenBranches style "elif" rest
    simp only [List.length_append] at hd
    rw [Statement.parts, partsOfBranches, List.append_assoc, List.append_assoc]
    refine recovers_bind_pure (recovers_branches hwrap hotherwise hplain.2 hdepth.2 hbodies.1
      hbodies.2 condition' (d.tokens.length + 1) (by omega)) fun found hfound => ⟨rfl, ?_⟩
    simp only [Statement.unplaced, unplacedBranches] at hfound ⊢
    rw [hfound.1, hfound.2, hcondition']

theorem recoverable_loop {first : String} {second : Option String} {source : Expr}
    {reversed sorted : Bool} {body : List Node} {empty : Option (List Node)}
    (hplain : source.Plain scope.catalog.filters)
    (hdepth : source.depth < scope.settings.maxExpressionDepth)
    (hbody : RecoverableBody scope style (k + 1) body)
    (hempty : ∀ body ∈ empty, RecoverableBody scope style (k + 1) body) :
    Statement.RecoverableAt scope style k .loop
      (.loop first second source reversed sorted body empty) := by
  refine ⟨_, _, rfl, ?_, fun s p hwrap hargs => recovers_unnoted ?_ rfl rfl⟩
  · have hsource := open_written source .disjunction
    have hwords (written : Bool) (word : String) :
        ∀ x ∈ writtenIf written (.identifier word), x.Open := by
      cases written
      · exact List.forall_mem_nil _
      · exact List.forall_mem_singleton.mpr trivial
    unfold writtenLoop
    simp only [List.forall_mem_cons, List.forall_mem_append]
    refine ⟨trivial, ?_, trivial, hsource, hwords _ _, hwords _ _⟩
    cases second with
    | none => exact List.forall_mem_nil _
    | some name => exact List.forall_mem_cons.mpr ⟨rfl, List.forall_mem_singleton.mpr trivial⟩
  · refine recovers_arguments_bind hargs (A := fun found => found.1 = first ∧ found.2.1 = second ∧
      source.Alike found.2.2.1 ∧ found.2.2.2 = (reversed, sorted)) ?_ fun found hfound => ?_
    · refine takes_identifier_bind fun t => ?_
      cases second with
      | none =>
        refine takes_symbol?_bind_none (by decide) ?_
        exact takes_loopSource_bind hplain hdepth fun source' hsource' =>
          takes_pure ⟨rfl, rfl, hsource', rfl⟩
      | some name =>
        refine takes_symbol?_bind fun _ => takes_identifier_bind fun _ => ?_
        exact takes_loopSource_bind hplain hdepth fun source' hsource' =>
          takes_pure ⟨rfl, rfl, hsource', rfl⟩
    · obtain ⟨first', second', source', reversed', sorted'⟩ := found
      obtain ⟨rfl, rfl, hsource, hwords⟩ := hfound
      cases hwords
      have hends : ∀ name ∈ ["empty", "endfor"], name ∈ endings := by decide
      refine recovers_bind_pure (recovers_bodies hwrap hbody hends (by decide) hempty)
        fun found hfound => ⟨rfl, ?_⟩
      change Statement.loop first' second' source'.unplaced reversed sorted (unplacedNodes found.1)
        (unplacedOptional found.2) = _
      rw [hfound.1, hfound.2, hsource]
      rfl

section Bodies

variable {body : List Node} (hbody : RecoverableBody scope style (k + 1) body)
include hbody

theorem recoverable_bind {bindings : List (String × Expr)} (hne : bindings ≠ [])
    (hplain : ∀ b ∈ bindings, b.2.Plain scope.catalog.filters)
    (hdepth : ∀ b ∈ bindings, b.2.depth < scope.settings.maxExpressionDepth) :
    Statement.RecoverableAt scope style k .bind (.bind bindings body) := by
  refine ⟨_, _, rfl, open_bindings style bindings, fun s p hwrap hargs => ?_⟩
  refine recovers_unnoted ?_ rfl rfl
  refine recovers_arguments_bind hargs (takes_with style hne hplain hdepth) fun found hfound => ?_
  refine recovers_bind_pure (recovers_bodyUpTo hwrap hbody (by decide))
    fun body' hbody' => ⟨rfl, ?_⟩
  change Statement.bind (unplacedBindings found) (unplacedNodes body') = _
  rw [hfound, hbody']
  rfl

theorem recoverable_escaping {enabled : Bool} :
    Statement.RecoverableAt scope style k .autoescape (.escaping enabled body) := by
  refine ⟨_, _, rfl, List.forall_mem_singleton.mpr trivial, fun s p hwrap hargs => ?_⟩
  refine recovers_unnoted ?_ rfl rfl
  refine recovers_arguments_bind hargs (A := (· = enabled)) ?_ fun found hfound => ?_
  · refine takes_identifier_bind fun t => ?_
    cases enabled <;> exact takes_pure rfl
  · refine recovers_bind_pure (recovers_bodyUpTo hwrap hbody (by decide))
      fun body' hbody' => ⟨rfl, ?_⟩
    change Statement.escaping found (unplacedNodes body') = _
    rw [hfound, hbody']
    rfl

theorem recoverable_filtering {filters : List FilterCall} (hne : filters ≠ [])
    (hplain : ∀ f ∈ filters, f.Plain scope.catalog.filters)
    (hdepth : depthFilters filters < scope.settings.maxExpressionDepth) :
    Statement.RecoverableAt scope style k .filtering (.filtering filters body) := by
  refine ⟨_, _, rfl, open_chain filters, fun s p hwrap hargs => ?_⟩
  refine recovers_unnoted ?_ rfl rfl
  refine recovers_arguments_bind hargs (takes_filterChain hne hplain (Nat.le_of_lt hdepth))
    fun found hfound => ?_
  refine recovers_bind_pure (recovers_bodyUpTo hwrap hbody (by decide))
    fun body' hbody' => ⟨rfl, ?_⟩
  change Statement.filtering (unplacedFilters found) (unplacedNodes body') = _
  rw [hfound, hbody']
  rfl

theorem recoverable_spaceless :
    Statement.RecoverableAt scope style k .spaceless (.spaceless body) := by
  refine ⟨[], _, rfl, List.forall_mem_nil _, fun s p hwrap hargs => recovers_unnoted ?_ rfl rfl⟩
  refine recovers_bind_pure (recovers_bodyUpTo hwrap hbody (by decide)) fun body' hbody' => ⟨?_, ?_⟩
  · exact List.map_eq_nil_iff.mp hargs
  · change Statement.spaceless (unplacedNodes body') = _
    rw [hbody']
    rfl

end Bodies

/-! ### Blocks and macros -/

/-- A block is noted under its name. -/
theorem recovers_registerBlock {name : String} {body body' : List Node}
    (hblock : blocksAmong parts = [(name, body)]) (hexport : exportsAmong parts = [])
    (hbody : unplacedNodes body' = unplacedNodes body) (t : Token) :
    Recovers scope [] False parts (registerBlock name body' t) fun _ => True := by
  intro d ts rest hd hts hopen
  refine ⟨False.elim, fun _ => ?_⟩
  rw [List.map_eq_nil_iff.mp hts] at hd
  have hnames := hopen.blocks
  rw [hblock] at hnames
  have hfree : d.blocks.has name = false := Table.has_eq_false_of_nodup hnames
  refine ⟨⟨⟩, { d with blocks := d.blocks.insert name body' }, ?_, trivial, hd, rfl, rfl, ?_, ?_⟩
  · unfold registerBlock
    rw [run_get_bind, hfree]
    rfl
  · rw [hblock]
    exact Table.change_insert_of_not_has _ hfree hbody
  · rw [hexport]
    exact congrArg _ (List.append_nil _).symm

/-- An exported macro is noted under its name. -/
theorem recovers_registerMacro {m m' : Macro} (hblock : blocksAmong parts = [])
    (hexport : exportsAmong parts = [(m.name, m)]) (hm : m'.unplaced = m.unplaced)
    (hname : m'.name = m.name) (t : Token) :
    Recovers scope [] False parts (registerMacro m' t) fun _ => True := by
  intro d ts rest hd hts hopen
  refine ⟨False.elim, fun _ => ?_⟩
  rw [List.map_eq_nil_iff.mp hts] at hd
  have hnames := hopen.macros
  rw [hexport, ← hname] at hnames
  have hfree : d.macros.has m'.name = false := Table.has_eq_false_of_nodup hnames
  refine ⟨⟨⟩, { d with macros := d.macros.insert m'.name m' }, ?_, trivial, hd, rfl, rfl, ?_, ?_⟩
  · unfold registerMacro
    rw [run_get_bind, hfree]
    rfl
  · rw [hblock]
    exact congrArg _ (List.append_nil _).symm
  · rw [hexport, ← hname]
    exact Table.change_insert_of_not_has _ hfree hm

theorem recoverable_block {name : String} {body : List Node}
    (hbody : RecoverableBody scope style (k + 1) body) :
    Statement.RecoverableAt scope style k .block (.block name body) := by
  have hends : ∀ name ∈ ["endblock"], name ∈ endings := by decide
  have hopen := open_writtenIf (x := .identifier name) trivial (style.namesEnd name)
  refine ⟨_, _, rfl, List.forall_mem_singleton.mpr trivial, fun s p hwrap hargs => ?_⟩
  refine recovers_arguments_bind hargs (A := fun found => found.1 = name) ?_ fun found hfound => ?_
  · rw [← bind_pure Arguments.identifier]
    exact takes_identifier_bind fun t => takes_pure rfl
  · obtain ⟨name', t⟩ := found
    obtain rfl : name' = name := hfound
    refine (recovers_bind_noted (hwrap body hbody ["endblock"] s.start "endblock" _
      (Tag.name_not_mem hends) List.mem_cons_self hopen) fun part hpart => ?_).congr
        (tooDeep_tag k _ p (.block name' body)) rfl rfl
    refine recovers_argumentsOf_bind hpart.args (takes_endName _ _) fun _ _ => ?_
    refine recovers_bind_end (recovers_registerBlock (by rfl) (by rfl) hpart.nodes _)
      fun _ _ => recovers_pure ⟨rfl, ?_⟩
    change Statement.block name' (unplacedNodes part.nodes) = _
    rw [hpart.nodes]
    rfl

theorem recoverable_define {name : String} {params : List (String × Option Expr)}
    {body : List Node} {exported : Bool} (hparams : Parameters.Plain scope.catalog.filters params)
    (hdepth : ∀ p ∈ params, ∀ e ∈ p.2, e.depth < scope.settings.maxExpressionDepth)
    (hbody : RecoverableBody scope style (k + 1) body) :
    Statement.RecoverableAt scope style k .define (.define ⟨name, params, body, exported⟩) := by
  refine ⟨_, _, rfl, ?_, fun s p hwrap hargs => ?_⟩
  · have hopen := open_parameters params
    have hexport := open_writtenIf (x := .keyword .kwExport) trivial exported
    simp only [List.forall_mem_cons, List.forall_mem_append]
    exact ⟨trivial, rfl, hopen, hexport⟩
  · refine recovers_arguments_bind hargs (takes_define hparams hdepth name exported)
      fun found hfound => ?_
    obtain ⟨name', params', exported'⟩ := found
    obtain ⟨hname, hfound, hexported⟩ := hfound
    obtain rfl : name' = name := hname
    obtain rfl : exported' = exported := hexported
    refine (recovers_bind_noted (recovers_bodyUpTo hwrap hbody (by decide)) fun body' hbody' =>
      ?_).congr (tooDeep_tag k _ p (.define ⟨name', params, body, exported'⟩)) rfl rfl
    have hm : (Statement.define ⟨name', params', body', exported'⟩).unplaced =
        (Statement.define ⟨name', params, body, exported'⟩).unplaced := by
      change Statement.define
        ⟨name', unplacedParameters params', unplacedNodes body', exported'⟩ = _
      rw [hfound, hbody']
      rfl
    cases exported' with
    | true =>
      have hmacro : Macro.unplaced ⟨name', params', body', true⟩ =
          Macro.unplaced ⟨name', params, body, true⟩ := by
        unfold Macro.unplaced
        simp only [hfound, hbody']
      exact recovers_bind_end (recovers_registerMacro (m := ⟨name', params, body, true⟩) rfl rfl
        hmacro rfl _) fun _ _ => recovers_pure ⟨rfl, hm⟩
    | false =>
      exact (recovers_pure (A := Statement.Read _) ⟨rfl, hm⟩).congr Iff.rfl rfl rfl

end Stencil
