import Stencil.Expr.Grammar
import Stencil.Proofs.Reading.Expr
import Stencil.Proofs.Reading.Sections
import Stencil.Proofs.Table
import Stencil.Proofs.Writing.Nodes

/-!
# Readers and the lexemes they take

A reader of arguments takes the tokens that were written for it and leaves those that follow. Where
it stops depends on the next token only, so what is said about a reader is which lexemes it takes
and in front of which lexeme it does so.
-/

namespace Stencil

section Arguments

/-- The first of the tokens, if there is one, is as `F` asks. -/
def Followed (F : Lexeme → Prop) (ts : List Token) : Prop := ∀ t ∈ ts.head?, F t.lexeme

variable {F G : Lexeme → Prop}

theorem Followed.nil : Followed F [] := nofun

theorem Followed.cons {t : Token} (ht : F t.lexeme) (ts : List Token) : Followed F (t :: ts) := by
  rintro _ ⟨⟩
  exact ht

theorem Followed.imp {ts : List Token} (h : Followed F ts) (hF : ∀ x, F x → G x) :
    Followed G ts := fun t ht => hF _ (h t ht)

/-- The first of the lexemes is as `G` asks, and if there is none, then what is as `F` asks is. -/
def Leads (G : Lexeme → Prop) (ls : List Lexeme) (F : Lexeme → Prop) : Prop :=
  match ls with
  | [] => ∀ x, F x → G x
  | x :: _ => G x

theorem Leads.followed {ts rest : List Token} (h : Leads G (ts.map Token.lexeme) F)
    (hrest : Followed F rest) : Followed G (ts ++ rest) := by
  cases ts with
  | nil => exact hrest.imp h
  | cons t ts => exact .cons h _

/-- Every lexeme. -/
def anyLexeme : Lexeme → Prop := fun _ => True

theorem leads_any (ls : List Lexeme) : Leads anyLexeme ls F := by
  cases ls with
  | nil => exact fun _ _ => trivial
  | cons x ls => trivial

namespace Arguments

/-- In front of what is as `F` asks, `r` takes tokens of the given lexemes and gives what `A` holds
for. -/
def Takes {α : Type} (env : Surroundings) (ls : List Lexeme) (F : Lexeme → Prop) (r : Arguments α)
    (A : α → Prop) : Prop :=
  ∀ ts rest, ts.map Token.lexeme = ls → Followed F rest →
    ∃ a, r env (ts ++ rest) = .ok (a, rest) ∧ A a

end Arguments

open Arguments

variable {env : Surroundings} {α β : Type} {A A' : α → Prop} {B : β → Prop} {x y : Lexeme}
  {ls ls' : List Lexeme}

/-! ### Rules -/

theorem takes_pure {a : α} (ha : A a) : Takes env [] F (pure a) A := by
  intro ts rest hts _
  rw [List.map_eq_nil_iff.mp hts]
  exact ⟨a, rfl, ha⟩

theorem takes_bind {r : Arguments α} {f : α → Arguments β} (hr : Takes env ls G r A)
    (hf : ∀ a, A a → Takes env ls' F (f a) B) (hG : Leads G ls' F) :
    Takes env (ls ++ ls') F (r >>= f) B := by
  intro ts rest hts hrest
  obtain ⟨front, back, rfl, rfl, rfl⟩ := List.map_eq_append_iff.mp hts
  obtain ⟨a, hread, ha⟩ := hr front (back ++ rest) rfl (hG.followed hrest)
  obtain ⟨b, hb, hB⟩ := hf a ha back rest rfl hrest
  refine ⟨b, ?_, hB⟩
  rw [List.append_assoc, arguments_bind, hread]
  exact hb

/-- The one lexeme that is taken first. -/
theorem takes_cons_bind {r : Arguments α} {f : α → Arguments β}
    (hr : Takes env [x] anyLexeme r A) (hf : ∀ a, A a → Takes env ls F (f a) B) :
    Takes env (x :: ls) F (r >>= f) B := by
  rw [← List.singleton_append]
  exact takes_bind hr hf (leads_any ls)

theorem Arguments.Takes.imp {r : Arguments α} (h : Takes env ls F r A) (hA : ∀ a, A a → A' a) :
    Takes env ls F r A' := by
  intro ts rest hts hrest
  obtain ⟨a, hread, ha⟩ := h ts rest hts hrest
  exact ⟨a, hread, hA a ha⟩

theorem Arguments.Takes.mono {r : Arguments α} (h : Takes env ls G r A) (hF : ∀ x, F x → G x) :
    Takes env ls F r A := fun ts rest hts hrest => h ts rest hts (hrest.imp hF)

/-- What is done next takes no more tokens. -/
theorem takes_bind_end {r : Arguments α} {f : α → Arguments β} (hr : Takes env ls F r A)
    (hf : ∀ a, A a → Takes env [] F (f a) B) : Takes env ls F (r >>= f) B := by
  rw [← List.append_nil ls]
  exact takes_bind hr hf fun _ hx => hx

theorem takes_bind_pure {r : Arguments α} {f : α → β} (hr : Takes env ls F r A)
    (hf : ∀ a, A a → B (f a)) : Takes env ls F (do return f (← r)) B :=
  takes_bind_end hr fun a ha => takes_pure (hf a ha)

theorem takes_read_bind {f : Surroundings → Arguments β} (h : Takes env ls F (f env) B) :
    Takes env ls F (read >>= f) B := h

/-- The number of tokens that are left bounds what is read from them. -/
theorem takes_left_bind {f : Nat → Arguments β}
    (h : ∀ n, ls.length ≤ n → Takes env ls F (f n) B) : Takes env ls F (left >>= f) B := by
  intro ts rest hts hrest
  refine h (ts ++ rest).length ?_ ts rest hts hrest
  rw [← hts, List.length_map, List.length_append]
  exact Nat.le_add_right _ _

theorem takes_peek_bind {f : Option Token → Arguments β}
    (h : ∀ t, t.lexeme = x → Takes env (x :: ls) F (f (some t)) B) :
    Takes env (x :: ls) F (peek? >>= f) B := by
  intro ts rest hts hrest
  obtain ⟨t, ts', rfl, ht, hts'⟩ := List.map_eq_cons_iff.mp hts
  exact h t ht (t :: ts') rest hts hrest

theorem takes_peekSecond_bind {f : Option Token → Arguments β}
    (h : ∀ t, t.lexeme = y → Takes env (x :: y :: ls) F (f (some t)) B) :
    Takes env (x :: y :: ls) F (peekSecond? >>= f) B := by
  intro ts rest hts hrest
  obtain ⟨t, ts', rfl, ht, hts'⟩ := List.map_eq_cons_iff.mp hts
  obtain ⟨u, ts', rfl, hu, hts''⟩ := List.map_eq_cons_iff.mp hts'
  exact h u hu (t :: u :: ts') rest hts hrest

theorem takes_skip_one {r : Arguments β} (h : Takes env ls F r B) :
    Takes env (x :: ls) F (skip 1 >>= fun _ => r) B := by
  intro ts rest hts hrest
  obtain ⟨t, ts', rfl, -, hts'⟩ := List.map_eq_cons_iff.mp hts
  exact h ts' rest hts' hrest

theorem takes_skip_two {r : Arguments β} (h : Takes env ls F r B) :
    Takes env (x :: y :: ls) F (skip 2 >>= fun _ => r) B := by
  intro ts rest hts hrest
  obtain ⟨t, ts', rfl, -, hts'⟩ := List.map_eq_cons_iff.mp hts
  obtain ⟨u, ts', rfl, -, hts''⟩ := List.map_eq_cons_iff.mp hts'
  exact h ts' rest hts'' hrest

/-! ### Single tokens -/

theorem takes_takeIf {f : Lexeme → Option α} {a : α} (h : f x = some a) :
    Takes env [x] F (takeIf f) fun found => ∃ t, found = some (a, t) := by
  intro ts rest hts _
  obtain ⟨t, ts', rfl, ht, hts'⟩ := List.map_eq_cons_iff.mp hts
  rw [List.map_eq_nil_iff.mp hts']
  refine ⟨some (a, t), ?_, t, rfl⟩
  unfold takeIf
  simp only [List.cons_append, List.nil_append, ht, h]

/-- Nothing is taken in front of what is not asked for. -/
theorem takes_takeIf_none {f : Lexeme → Option α} (h : ∀ x, F x → f x = none) :
    Takes env [] F (takeIf f) (· = none) := by
  intro ts rest hts hrest
  rw [List.map_eq_nil_iff.mp hts]
  refine ⟨none, ?_, rfl⟩
  cases rest with
  | nil => rfl
  | cons t rest =>
    unfold takeIf
    simp only [List.nil_append, h t.lexeme (hrest t rfl)]

/-- What is there is not asked for and stays. -/
theorem takes_takeIf_bind_none {f : Lexeme → Option α} {g : Option (α × Token) → Arguments β}
    (hx : f x = none) (h : Takes env (x :: ls) F (g none) B) :
    Takes env (x :: ls) F (takeIf f >>= g) B := by
  intro ts rest hts hrest
  obtain ⟨b, hb, hB⟩ := h ts rest hts hrest
  obtain ⟨t, ts', rfl, rfl, hts'⟩ := List.map_eq_cons_iff.mp hts
  refine ⟨b, ?_, hB⟩
  rw [List.cons_append, arguments_bind]
  simp only [takeIf, hx]
  exact hb

theorem takes_symbol? (s : Symbol) :
    Takes env [.symbol s] F (symbol? s) fun found => ∃ t, found = some t := by
  refine takes_bind_pure (takes_takeIf (a := ()) (if_pos rfl)) ?_
  rintro _ ⟨t, rfl⟩
  exact ⟨t, rfl⟩

theorem takes_symbol?_none {s : Symbol} (h : ¬ F (.symbol s)) :
    Takes env [] F (symbol? s) (· = none) := by
  refine takes_bind_pure (takes_takeIf_none fun x hx => if_neg ?_) ?_
  · rintro rfl
    exact h hx
  · rintro _ rfl
    rfl

theorem takes_symbol?_bind {s : Symbol} {g : Option Token → Arguments β}
    (h : ∀ t, Takes env ls F (g (some t)) B) :
    Takes env (.symbol s :: ls) F (symbol? s >>= g) B := by
  refine takes_cons_bind (takes_symbol? s) ?_
  rintro _ ⟨t, rfl⟩
  exact h t

theorem takes_symbol?_bind_none {s : Symbol} {g : Option Token → Arguments β}
    (hx : x ≠ .symbol s) (h : Takes env (x :: ls) F (g none) B) :
    Takes env (x :: ls) F (symbol? s >>= g) B := by
  unfold symbol?
  rw [bind_assoc]
  refine takes_takeIf_bind_none (if_neg hx) ?_
  rw [pure_bind]
  exact h

theorem takes_symbol (s : Symbol) : Takes env [.symbol s] F (symbol s) fun _ => True :=
  takes_symbol?_bind fun _ => takes_pure trivial

theorem takes_symbol_bind {s : Symbol} {g : Token → Arguments β}
    (h : ∀ t, Takes env ls F (g t) B) : Takes env (.symbol s :: ls) F (symbol s >>= g) B :=
  takes_cons_bind (takes_symbol s) fun t _ => h t

theorem takes_identifier?_bind {name : String} {g : Option (String × Token) → Arguments β}
    (h : ∀ t, Takes env ls F (g (some (name, t))) B) :
    Takes env (.identifier name :: ls) F (identifier? >>= g) B := by
  refine takes_cons_bind (takes_takeIf rfl) ?_
  rintro _ ⟨t, rfl⟩
  exact h t

end Arguments

/-!
## Readers of drafts and the lexemes they take

A reader of parts of a document takes the tokens that were written for it, and notes the blocks and
the exported macros of these parts. If tags nest too deep it says so. Both are stated together: each
holds of a reader if it holds of the readers it is made of.
-/

section Drafts

open Drafting

/-- Some tag among the parts stands in `n` tags or more. -/
def DeepAmong (n : Nat) (parts : List (Nat × Node)) : Prop :=
  ∃ p ∈ parts, p.2.isTag = true ∧ n ≤ p.1

/-- No block and no exported macro among the parts has a name that is taken. -/
structure Draft.Open (d : Draft) (parts : List (Nat × Node)) : Prop where
  blocks : (d.blocks.keys ++ (blocksAmong parts).keys).Nodup
  macros : (d.macros.keys ++ (exportsAmong parts).keys).Nodup

/-- From `d` to `d'` the blocks and the exported macros among the parts were noted. -/
structure Draft.Grown (d : Draft) (parts : List (Nat × Node)) (d' : Draft) : Prop where
  parent : d'.parent = d.parent
  library : d'.library = d.library
  blocks : d'.blocks.change unplacedNodes = (d.blocks ++ blocksAmong parts).change unplacedNodes
  macros : d'.macros.change Macro.unplaced = (d.macros ++ exportsAmong parts).change Macro.unplaced

/-- What readers of arguments know in a template. -/
def DraftScope.surroundings (scope : DraftScope) (close : Position) : Surroundings where
  filters := scope.catalog.filters
  close
  depthLimit := scope.settings.maxExpressionDepth

/-- Where tokens of the given lexemes are next and the names of the blocks and macros among the
parts are free, `m` takes these tokens, notes the blocks and macros, and gives what `A` holds for.
If the parts are too deep, it refuses them for that instead. -/
def Drafting.Recovers {α : Type} (scope : DraftScope) (ls : List Lexeme) (deep : Prop)
    (parts : List (Nat × Node)) (m : Drafting α) (A : α → Prop) : Prop :=
  ∀ d ts rest, d.tokens = ts ++ rest → ts.map Token.lexeme = ls → d.Open parts →
    (deep → ∃ p d', m scope d =
      (.error (.error (.atPosition p (.tooNested scope.settings.maxNestingDepth))), d')) ∧
    (¬deep → ∃ a d', m scope d = (.ok a, d') ∧ A a ∧ d'.tokens = rest ∧ d.Grown parts d')

variable {scope : DraftScope} {d d' d'' : Draft} {parts parts' : List (Nat × Node)} {n : Nat}
  {ls ls' : List Lexeme} {deep deep' : Prop} {α β : Type} {A A' : α → Prop} {B : β → Prop}

/-! ### Names -/

@[simp] theorem blocksAmong_append (parts parts' : List (Nat × Node)) :
    blocksAmong (parts ++ parts') = blocksAmong parts ++ blocksAmong parts' :=
  List.filterMap_append

@[simp] theorem exportsAmong_append (parts parts' : List (Nat × Node)) :
    exportsAmong (parts ++ parts') = exportsAmong parts ++ exportsAmong parts' :=
  List.filterMap_append

@[simp] theorem deepAmong_append :
    DeepAmong n (parts ++ parts') ↔ DeepAmong n parts ∨ DeepAmong n parts' := by
  unfold DeepAmong
  simp only [List.mem_append, or_and_right, exists_or]

@[simp] theorem deepAmong_nil : ¬ DeepAmong n [] := nofun

theorem blocksAmong_tag (k : Nat) (name : String) (p : Position) (statement : Statement) :
    blocksAmong ((Node.tag name p statement).parts k) =
      blocksAmong (statement.parts (k + 1)) ++ (Node.tag name p statement).block?.toList := by
  unfold Node.parts
  rw [blocksAmong_append]
  cases h : (Node.tag name p statement).block? <;> simp [blocksAmong, h]

theorem exportsAmong_tag (k : Nat) (name : String) (p : Position) (statement : Statement) :
    exportsAmong ((Node.tag name p statement).parts k) =
      exportsAmong (statement.parts (k + 1)) ++ (Node.tag name p statement).export?.toList := by
  unfold Node.parts
  rw [exportsAmong_append]
  cases h : (Node.tag name p statement).export? <;> simp [exportsAmong, h]

/-- A tag is too deep if it stands in too many tags itself or if a part in it does. -/
theorem deepAmong_tag {k : Nat} {name : String} {p : Position} {statement : Statement} :
    DeepAmong n ((Node.tag name p statement).parts k) ↔
      n ≤ k ∨ DeepAmong n (statement.parts (k + 1)) := by
  unfold Node.parts
  rw [deepAmong_append, or_comm]
  refine or_congr_left ⟨?_, fun h => ⟨_, List.mem_singleton_self _, rfl, h⟩⟩
  rintro ⟨q, hq, -, h⟩
  rw [List.mem_singleton.mp hq] at h
  exact h

namespace Draft

theorem Grown.keys_blocks (h : d.Grown parts d') :
    d'.blocks.keys = d.blocks.keys ++ (blocksAmong parts).keys := by
  simpa using congrArg Table.keys h.blocks

theorem Grown.keys_macros (h : d.Grown parts d') :
    d'.macros.keys = d.macros.keys ++ (exportsAmong parts).keys := by
  simpa using congrArg Table.keys h.macros

theorem Grown.of_same (h : d.Same d') : d.Grown [] d' where
  parent := h.parent
  library := h.library
  blocks := by rw [h.blocks]; exact congrArg _ (List.append_nil _).symm
  macros := by rw [h.macros]; exact congrArg _ (List.append_nil _).symm

theorem Grown.trans (h : d.Grown parts d') (h' : d'.Grown parts' d'') :
    d.Grown (parts ++ parts') d'' where
  parent := h'.parent.trans h.parent
  library := h'.library.trans h.library
  blocks := by simp [h'.blocks, h.blocks]
  macros := by simp [h'.macros, h.macros]

theorem Open.left (h : d.Open (parts ++ parts')) : d.Open parts := by
  obtain ⟨hblocks, hmacros⟩ := h
  simp only [blocksAmong_append, exportsAmong_append, Table.keys_append, ← List.append_assoc]
    at hblocks hmacros
  exact ⟨(List.nodup_append.mp hblocks).1, (List.nodup_append.mp hmacros).1⟩

theorem Open.right (h : d.Open (parts ++ parts')) (hgrown : d.Grown parts d') : d'.Open parts' where
  blocks := by simpa [hgrown.keys_blocks] using h.blocks
  macros := by simpa [hgrown.keys_macros] using h.macros

theorem Open.of_same (h : d.Open parts) (hsame : d.Same d') : d'.Open parts := by
  have hopen : d.Open ([] ++ parts) := h
  exact hopen.right (.of_same hsame)

end Draft

/-! ### Rules -/

theorem recovers_pure {a : α} (ha : A a) : Recovers scope [] False [] (pure a) A := by
  intro d ts rest hd hts _
  refine ⟨False.elim, fun _ => ⟨a, d, rfl, ha, ?_, .of_same (.refl d)⟩⟩
  rw [List.map_eq_nil_iff.mp hts] at hd
  exact hd

theorem recovers_bind {m : Drafting α} {f : α → Drafting β}
    (hm : Recovers scope ls deep parts m A)
    (hf : ∀ a, A a → Recovers scope ls' deep' parts' (f a) B) :
    Recovers scope (ls ++ ls') (deep ∨ deep') (parts ++ parts') (m >>= f) B := by
  intro d ts rest hd hts hopen
  obtain ⟨front, back, rfl, hfront, hback⟩ := List.map_eq_append_iff.mp hts
  rw [List.append_assoc] at hd
  obtain ⟨hdeep, hflat⟩ := hm d front (back ++ rest) hd hfront hopen.left
  rw [run_bind]
  by_cases h : deep
  · obtain ⟨p, d', hread⟩ := hdeep h
    rw [hread]
    exact ⟨fun _ => ⟨p, d', rfl⟩, fun hnot => absurd (.inl h) hnot⟩
  · obtain ⟨a, d', hread, ha, hd', hgrown⟩ := hflat h
    obtain ⟨hdeep', hflat'⟩ := hf a ha d' back rest hd' hback (hopen.right hgrown)
    rw [hread]
    refine ⟨fun hor => hdeep' (hor.resolve_left h), fun hnot => ?_⟩
    obtain ⟨b, d'', hread', hb, hd'', hgrown'⟩ := hflat' fun h' => hnot (.inr h')
    exact ⟨b, d'', hread', hb, hd'', hgrown.trans hgrown'⟩

theorem Drafting.Recovers.imp {m : Drafting α} (h : Recovers scope ls deep parts m A)
    (hA : ∀ a, A a → A' a) : Recovers scope ls deep parts m A' := by
  intro d ts rest hd hts hopen
  obtain ⟨hdeep, hflat⟩ := h d ts rest hd hts hopen
  refine ⟨hdeep, fun hnot => ?_⟩
  obtain ⟨a, d', hread, ha, hleft⟩ := hflat hnot
  exact ⟨a, d', hread, hA a ha, hleft⟩

/-- Parts that are no blocks and no exported macros do not count. -/
theorem Drafting.Recovers.congr {m : Drafting α} (h : Recovers scope ls deep parts m A)
    (hdeep : deep ↔ deep') (hblocks : blocksAmong parts = blocksAmong parts')
    (hmacros : exportsAmong parts = exportsAmong parts') :
    Recovers scope ls deep' parts' m A := by
  intro d ts rest hd hts hopen
  have hopen' : d.Open parts := ⟨hblocks ▸ hopen.blocks, hmacros ▸ hopen.macros⟩
  obtain ⟨hrefuses, hflat⟩ := h d ts rest hd hts hopen'
  refine ⟨fun h => hrefuses (hdeep.mpr h), fun hnot => ?_⟩
  obtain ⟨a, d', hread, ha, hd', hgrown⟩ := hflat fun h => hnot (hdeep.mp h)
  exact ⟨a, d', hread, ha, hd', hgrown.parent, hgrown.library, hblocks ▸ hgrown.blocks,
    hmacros ▸ hgrown.macros⟩

/-- What is done next takes no tokens. -/
theorem recovers_bind_noted {m : Drafting α} {f : α → Drafting β}
    (hm : Recovers scope ls deep parts m A)
    (hf : ∀ a, A a → Recovers scope [] False parts' (f a) B) :
    Recovers scope ls deep (parts ++ parts') (m >>= f) B := by
  have h := recovers_bind hm hf
  rw [List.append_nil] at h
  exact h.congr (iff_of_eq (or_false deep)) rfl rfl

/-- What is done next takes no tokens and notes nothing. -/
theorem recovers_bind_end {m : Drafting α} {f : α → Drafting β}
    (hm : Recovers scope ls deep parts m A) (hf : ∀ a, A a → Recovers scope [] False [] (f a) B) :
    Recovers scope ls deep parts (m >>= f) B := by
  have h := recovers_bind_noted hm hf
  rw [List.append_nil] at h
  exact h

theorem recovers_bind_pure {m : Drafting α} {f : α → β} (hm : Recovers scope ls deep parts m A)
    (hf : ∀ a, A a → B (f a)) : Recovers scope ls deep parts (do return f (← m)) B :=
  recovers_bind_end hm fun a ha => recovers_pure (hf a ha)

theorem recovers_ok_bind {m : Drafting α} {f : α → Drafting β} {a : α}
    (hm : ∀ d, m scope d = (.ok a, d)) (hf : Recovers scope ls deep parts (f a) B) :
    Recovers scope ls deep parts (m >>= f) B := by
  intro d ts rest hd hts hopen
  rw [run_bind, hm]
  exact hf d ts rest hd hts hopen

theorem recovers_get_bind {f : Draft → Drafting β}
    (h : ∀ d, ls.length ≤ d.tokens.length → Recovers scope ls deep parts (f d) B) :
    Recovers scope ls deep parts (get >>= f) B := by
  intro d ts rest hd hts hopen
  refine h d ?_ d ts rest hd hts hopen
  rw [hd, ← hts, List.length_map, List.length_append]
  exact Nat.le_add_right _ _

theorem recovers_modify_bind {g : Draft → Draft} {m : Drafting β}
    (hsame : ∀ d : Draft, d.Same (g d)) (htokens : ∀ d : Draft, (g d).tokens = d.tokens)
    (hm : Recovers scope ls deep parts m B) :
    Recovers scope ls deep parts (modify g >>= fun _ => m) B := by
  intro d ts rest hd hts hopen
  obtain ⟨hdeep, hflat⟩ := hm (g d) ts rest ((htokens d).trans hd) hts (hopen.of_same (hsame d))
  refine ⟨hdeep, fun hnot => ?_⟩
  obtain ⟨b, d', hread, hb, hd', hgrown⟩ := hflat hnot
  exact ⟨b, d', hread, hb, hd', (Draft.Grown.of_same (hsame d)).trans hgrown⟩

/-! ### Arguments -/

section Arguments

variable {F : Lexeme → Prop} {close : Position} {ts : List Token}

/-- Arguments that are written for their reader are used up. -/
theorem arguments_of_takes {r : Arguments α} (h : r.Takes (scope.surroundings close) ls F A)
    (hts : ts.map Token.lexeme = ls) :
    ∃ a, A a ∧ ∀ d, Drafting.arguments close ts r scope d = (.ok (a, []), d) := by
  obtain ⟨a, hread, ha⟩ := h ts [] hts .nil
  rw [List.append_nil] at hread
  refine ⟨a, ha, fun d => ?_⟩
  change (Halt.ofExcept (r (scope.surroundings close) ts) : Drafting _) scope d = _
  rw [hread]
  rfl

theorem argumentsOf_of_takes {tag : String} {r : Arguments α}
    (h : r.Takes (scope.surroundings close) ls F A) (hts : ts.map Token.lexeme = ls) :
    ∃ a, A a ∧ ∀ d, argumentsOf tag close ts r scope d = (.ok a, d) := by
  obtain ⟨a, hread, ha⟩ := h ts [] hts .nil
  rw [List.append_nil] at hread
  have hdone (d : Draft) : Drafting.arguments close ts
      (do let a ← r; Arguments.done tag; pure a) scope d = (.ok (a, []), d) := by
    change (Halt.ofExcept ((r >>= fun a => do Arguments.done tag; pure a : Arguments α)
      (scope.surroundings close) ts) : Drafting _) scope d = _
    rw [arguments_bind, hread]
    rfl
  refine ⟨a, ha, fun d => ?_⟩
  unfold argumentsOf
  rw [run_bind, hdone]
  rfl

end Arguments

end Drafts

end Stencil
