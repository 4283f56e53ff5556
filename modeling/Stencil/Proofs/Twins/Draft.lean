import Stencil.Proofs.Reading.Asked
import Stencil.Proofs.Reading.Quotes
import Stencil.Proofs.Reading.Sections
import Stencil.Proofs.Twins.Expr

/-!
# Reading the same template at two places

Two sources can be followed while they are read, as long as their tokens say the same. There may be
spots where they do not, each of them the arguments of a tag, and tags of which nothing has to be
the same behind their names; what is read there is compared on its own. There the first reading may
fail where the second one does not.
-/

namespace Stencil

/-! ## Tags of the host -/

/-- What was read for a tag of the host at two places. -/
structure TagParts.Alike (L : Likeness) (parts parts' : TagParts) : Prop where
  template : parts.template = parts'.template
  name : parts.name.lexeme = parts'.name.lexeme
  value : Option.Rel L.expr parts.value parts'.value
  tokens : SayAlike parts.tokens parts'.tokens
  sections : List.Forall₂ (fun s s' => L.body s.1 s'.1 ∧ s.2.lexeme = s'.2.lexeme) parts.sections
    parts'.sections

/-- The tag looks neither into the expressions and bodies that it is given nor at positions, and no
built-in tag ends its sections. -/
structure CustomTag.Uniform (t : CustomTag) : Prop where
  ends : ∀ tag : Tag, tag.name ∉ t.ends
  build : ∀ L : Likeness, L.Placeless → ∀ parts parts', TagParts.Alike L parts parts' →
    List.Forall₂ (Step.Congruent L) (t.build parts) (t.build parts')

/-- Tags of the host do not look at positions. -/
def Catalog.Uniform (c : Catalog) : Prop :=
  ∀ name t, c.tags.find? name = some (.custom t) → t.Uniform

theorem Catalog.Builtin.uniform {c : Catalog} (hc : c.Builtin) : c.Uniform := by
  intro name t h
  obtain ⟨_, hbuiltin, -⟩ := hc.tags name _ h
  cases hbuiltin

/-! ## Two sources -/

/-- Where two sources need not say the same. -/
structure Rewording where
  /-- Arguments of a tag. -/
  spot : Tag → List Token → List Token → Prop := fun _ _ _ => False
  /-- What stands behind the name of a tag, up to the end of what the tag wraps. The last tokens are
  those behind it in the first source. -/
  void : Tag → List Token → List Token → List Token → Prop := fun _ _ _ _ => False

/-- How two templates are read. -/
structure Twinning extends Rewording where
  /-- What counts as alike in what is read. -/
  likeness : Likeness
  /-- The name of both templates. -/
  base : String
  /-- The names to which the same is loaded. -/
  name : String → Prop
  /-- The sets in which they are read. -/
  library : Library → Library → Prop
  settings : ∀ {l l'}, library l l' → l.settings = l'.settings
  counts : ∀ {l l'}, library l l' → ∀ compiledAny compiledAny' serial serial',
    library { l with compiledAny, serial }
      { l' with compiledAny := compiledAny', serial := serial' }
  /-- How the first reading may fail where the second one does not. -/
  lost : Halt → Prop

/-- Templates that are alike, also for those who import from them or execute them. -/
structure Template.Twins (L : Likeness) (t t' : Template) : Prop where
  template : L.template t t'
  macros : ∀ name, Option.Rel L.callee (t.macro? name) (t'.macro? name)
  options : t.options = t'.options

/-- The tokens of two sources from the start of a node on, which say the same but where they need
not. -/
inductive Recast (r : Rewording) : List Token → List Token → Prop
  | same {ts ts'} : SayAlike ts ts' → Recast r ts ts'
  | text {t t' ts ts'} (s) : t.lexeme = .text s → t'.lexeme = .text s → Recast r ts ts' →
    Recast r (t :: ts) (t' :: ts')
  | tag {o o' inner inner' c c' ts ts'} (s : Symbol) : s.opens = true → o.lexeme = .symbol s →
    o'.lexeme = .symbol s → SayAlike inner inner' → (∀ t ∈ inner, t.closes = false) →
    c.closes = true → c.lexeme = c'.lexeme → Recast r ts ts' →
    Recast r (o :: (inner ++ c :: ts)) (o' :: (inner' ++ c' :: ts'))
  | spot {tag : Tag} {o o' n n' args args' c c' ts ts'} : o.lexeme = .symbol .openTag →
    o'.lexeme = .symbol .openTag → n.lexeme = .identifier tag.name →
    n'.lexeme = .identifier tag.name → r.spot tag args args' → (∀ t ∈ args, t.closes = false) →
    (∀ t ∈ args', t.closes = false) → c.closes = true → c.lexeme = c'.lexeme → Recast r ts ts' →
    Recast r (o :: n :: (args ++ c :: ts)) (o' :: n' :: (args' ++ c' :: ts'))
  | void {tag : Tag} {o o' n n' part part' ts ts'} : o.lexeme = .symbol .openTag →
    o'.lexeme = .symbol .openTag → n.lexeme = .identifier tag.name →
    n'.lexeme = .identifier tag.name → r.void tag part part' ts → Recast r ts ts' →
    Recast r (o :: n :: (part ++ ts)) (o' :: n' :: (part' ++ ts'))

/-- The tokens of two sources from the start of a node on, which say the same but at spots. -/
abbrev Reworded (spot : Tag → List Token → List Token → Prop) : List Token → List Token → Prop :=
  Recast { spot }

/-- The tokens of two sources from within a tag on. What stands in front of the first closing
delimiter is related by `R`, and what stands behind it says the same but where it need not. -/
structure Recast.Within (r : Rewording) (R : List Token → List Token → Prop)
    (ts ts' : List Token) : Prop where
  inner : R (ts.takeWhile fun t => !t.closes) (ts'.takeWhile fun t => !t.closes)
  behind : ts.dropWhile (fun t => !t.closes) = [] ∧ ts'.dropWhile (fun t => !t.closes) = [] ∨
    ∃ c c' rest rest', ts.dropWhile (fun t => !t.closes) = c :: rest ∧
      ts'.dropWhile (fun t => !t.closes) = c' :: rest' ∧ c.lexeme = c'.lexeme ∧
      Recast r rest rest'

/-- How two sources that say the same but where they need not go on. -/
inductive Recast.Start (r : Rewording) : List Token → List Token → Prop
  | nil : Recast.Start r [] []
  | text {t t' ts ts'} (s) : t.lexeme = .text s → t'.lexeme = .text s → Recast r ts ts' →
    Recast.Start r (t :: ts) (t' :: ts')
  | opening {t t' ts ts'} (s : Symbol) : s.opens = true → t.lexeme = .symbol s →
    t'.lexeme = .symbol s → Recast.Within r SayAlike ts ts' → Recast.Start r (t :: ts) (t' :: ts')
  | spot {tag : Tag} {t t' n n' ts ts'} : t.lexeme = .symbol .openTag →
    t'.lexeme = .symbol .openTag → n.lexeme = .identifier tag.name →
    n'.lexeme = .identifier tag.name → Recast.Within r (r.spot tag) ts ts' →
    Recast.Start r (t :: n :: ts) (t' :: n' :: ts')
  | void {tag : Tag} {t t' n n' part part' ts ts'} : t.lexeme = .symbol .openTag →
    t'.lexeme = .symbol .openTag → n.lexeme = .identifier tag.name →
    n'.lexeme = .identifier tag.name → r.void tag part part' ts → Recast r ts ts' →
    Recast.Start r (t :: n :: (part ++ ts)) (t' :: n' :: (part' ++ ts'))
  | other {t t' ts ts'} : t.lexeme = t'.lexeme → (∀ s, t.lexeme ≠ .text s) →
    (∀ s, t.lexeme = .symbol s → s.opens = false) → Recast.Start r (t :: ts) (t' :: ts')

/-- Drafts that the same was read for; what is left of their tokens is related by `R`. -/
structure Draft.Alike (g : Twinning) (R : List Token → List Token → Prop) (d d' : Draft) :
    Prop where
  tokens : R d.tokens d'.tokens
  names : ∀ s ∈ quoted d.tokens, g.name s
  seenContent : d.seenContent = d'.seenContent
  parent : Option.Rel (Parent.Congruent g.likeness g.base) d.parent d'.parent
  blocks : List.Forall₂ (fun b b' => b.1 = b'.1 ∧ g.likeness.body b.2 b'.2) d.blocks d'.blocks
  macros : List.Forall₂ (fun m m' => m.1 = m'.1 ∧ g.likeness.callee m.2 m'.2) d.macros d'.macros
  library : g.library d.library d'.library

/-- Surroundings with the same tags, in which the same is loaded. -/
structure DraftScope.Alike (g : Twinning) (scope scope' : DraftScope) : Prop where
  name : scope.name = g.base
  name' : scope'.name = g.base
  catalog : scope.catalog = scope'.catalog
  settings : scope.settings = scope'.settings
  uniform : scope.catalog.Uniform
  load : ∀ name, g.name name → ∀ l l', g.library l l' →
    EndAlike (Halt.Alike Error.SameKind) (Option.Rel (Template.Twins g.likeness))
        ((scope.load name).run l).1 ((scope'.load name).run l').1 ∧
      g.library ((scope.load name).run l).2 ((scope'.load name).run l').2

/-- Both readings went on, or both failed, or the first one is lost. -/
inductive Twinning.Follows {α α' : Type} (g : Twinning) (A : α → α' → Prop) :
    Except Halt α × Draft → Except Halt α' × Draft → Prop
  | ok {a a'} {d d' : Draft} : A a a' → d.Alike g (Recast g.toRewording) d' →
    Twinning.Follows g A (.ok a, d) (.ok a', d')
  | error {h h'} {d d' : Draft} : Halt.Alike Error.SameKind h h' →
    g.library d.library d'.library → Twinning.Follows g A (.error h, d) (.error h', d')
  | lost {h} {d : Draft} {e'} : g.lost h → Twinning.Follows g A (.error h, d) e'

namespace Drafting

/-- Run on the drafts `d` and `d'`, `m` and `m'` go on alike. -/
def TwinsAt {α α' : Type} (g : Twinning) (scope scope' : DraftScope) (d d' : Draft) (m : Drafting α)
    (m' : Drafting α') (A : α → α' → Prop) : Prop :=
  g.library d.library d'.library → g.Follows A (m scope d) (m' scope' d')

/-- Run on any drafts that the same was read for, `m` and `m'` go on alike. -/
def Twins {α α' : Type} (g : Twinning) (scope scope' : DraftScope) (m : Drafting α)
    (m' : Drafting α') (A : α → α' → Prop) : Prop :=
  ∀ d d', d.Alike g (Recast g.toRewording) d' → TwinsAt g scope scope' d d' m m' A

end Drafting

open Drafting

variable {g : Twinning} {scope scope' : DraftScope} {d d' : Draft} {α α' β β' : Type}
  {A A' : α → α' → Prop} {B : β → β' → Prop}

/-! ## Rules -/

section Rules

variable {m : Drafting α} {m' : Drafting α'} {k : α → Drafting β} {k' : α' → Drafting β'}

theorem Twinning.Follows.imp {e : Except Halt α × Draft} {e' : Except Halt α' × Draft}
    (h : g.Follows A e e') (hA : ∀ a a', A a a' → A' a a') : g.Follows A' e e' := by
  cases h with
  | ok ha hd => exact .ok (hA _ _ ha) hd
  | error hh hl => exact .error hh hl
  | lost h => exact .lost h

theorem Drafting.Twins.imp (h : Twins g scope scope' m m' A) (hA : ∀ a a', A a a' → A' a a') :
    Twins g scope scope' m m' A' := fun d d' hd hl => (h d d' hd hl).imp hA

theorem Drafting.TwinsAt.of_eq {n : Drafting α} {n' : Drafting α'}
    (h : TwinsAt g scope scope' d d' n n' A) (hm : m scope d = n scope d)
    (hm' : m' scope' d' = n' scope' d') : TwinsAt g scope scope' d d' m m' A := fun hl => by
  rw [hm, hm']
  exact h hl

theorem twinsAt_pure {a : α} {a' : α'} (ha : A a a') (hd : d.Alike g (Recast g.toRewording) d') :
    TwinsAt g scope scope' d d' (pure a) (pure a') A := fun _ => .ok ha hd

theorem twins_pure {a : α} {a' : α'} (ha : A a a') :
    Twins g scope scope' (pure a) (pure a') A := fun _ _ hd => twinsAt_pure ha hd

theorem twinsAt_refuse (p p' : Position) (fault fault' : ParseFault) :
    TwinsAt g scope scope' d d' (refuse p fault) (refuse p' fault') A := .error (.error rfl)

theorem twins_refuse (p p' : Position) (fault fault' : ParseFault) :
    Twins g scope scope' (refuse p fault) (refuse p' fault') A := fun _ _ _ =>
  twinsAt_refuse p p' fault fault'

theorem twinsAt_bind (hm : TwinsAt g scope scope' d d' m m' A)
    (hk : ∀ a a', A a a' → Twins g scope scope' (k a) (k' a') B) :
    TwinsAt g scope scope' d d' (m >>= k) (m' >>= k') B := by
  intro hl
  have hfirst := hm hl
  rw [run_bind, run_bind]
  generalize m scope d = e at hfirst ⊢
  generalize m' scope' d' = e' at hfirst ⊢
  cases hfirst with
  | ok ha hd => exact hk _ _ ha _ _ hd hd.library
  | error hh hl => exact .error hh hl
  | lost h => exact .lost h

theorem twins_bind (hm : Twins g scope scope' m m' A)
    (hk : ∀ a a', A a a' → Twins g scope scope' (k a) (k' a') B) :
    Twins g scope scope' (m >>= k) (m' >>= k') B := fun d d' hd => twinsAt_bind (hm d d' hd) hk

theorem twinsAt_refuse_bind (p p' : Position) (fault fault' : ParseFault) :
    TwinsAt g scope scope' d d' (refuse p fault >>= k) (refuse p' fault' >>= k') B :=
  .error (.error rfl)

theorem twinsAt_ite {c : Prop} [Decidable c] {n : Drafting α} {n' : Drafting α'}
    (h : c → TwinsAt g scope scope' d d' m m' A) (h' : ¬c → TwinsAt g scope scope' d d' n n' A) :
    TwinsAt g scope scope' d d' (if c then m else n) (if c then m' else n') A := by
  split
  · exact h ‹c›
  · exact h' ‹¬c›

theorem twins_ite {c : Prop} [Decidable c] {n : Drafting α} {n' : Drafting α'}
    (h : c → Twins g scope scope' m m' A) (h' : ¬c → Twins g scope scope' n n' A) :
    Twins g scope scope' (if c then m else n) (if c then m' else n') A :=
  fun d d' hd => twinsAt_ite (fun hc => h hc d d' hd) fun hc => h' hc d d' hd

theorem twinsAt_read_bind {f : DraftScope → Drafting α} {f' : DraftScope → Drafting α'}
    (h : TwinsAt g scope scope' d d' (f scope) (f' scope') A) :
    TwinsAt g scope scope' d d' (read >>= f) (read >>= f') A := h

theorem twins_read_bind {f : DraftScope → Drafting α} {f' : DraftScope → Drafting α'}
    (h : Twins g scope scope' (f scope) (f' scope') A) :
    Twins g scope scope' (read >>= f) (read >>= f') A := h

theorem twinsAt_get_bind {f : Draft → Drafting α} {f' : Draft → Drafting α'}
    (h : TwinsAt g scope scope' d d' (f d) (f' d') A) :
    TwinsAt g scope scope' d d' (get >>= f) (get >>= f') A := h

theorem twinsAt_set_bind {e e' : Draft} {f : PUnit → Drafting α} {f' : PUnit → Drafting α'}
    (h : TwinsAt g scope scope' e e' (f ⟨⟩) (f' ⟨⟩) A) (he : e.library = d.library)
    (he' : e'.library = d'.library) :
    TwinsAt g scope scope' d d' (set e >>= f) (set e' >>= f') A :=
  fun hl => h (he ▸ he' ▸ hl)

theorem twins_modify {f f' : Draft → Draft}
    (hf : ∀ d d' : Draft, d.Alike g (Recast g.toRewording) d' →
      (f d).Alike g (Recast g.toRewording) (f' d')) :
    Twins g scope scope' (modify f : Drafting PUnit) (modify f') fun _ _ => True :=
  fun d d' hd _ => .ok trivial (hf d d' hd)

end Rules

/-! ## Tokens -/

section Tokens

variable {r : Rewording} {R : List Token → List Token → Prop}
  {ts ts' inner inner' : List Token} {t t' : Token}

theorem closes_eq (h : t.lexeme = t'.lexeme) : t.closes = t'.closes := by
  unfold Token.closes
  rw [h]

theorem name?_eq (h : t.lexeme = t'.lexeme) : t.name? = t'.name? := by
  unfold Token.name?
  rw [h]

theorem value_eq (h : t.lexeme = t'.lexeme) : t.value = t'.value := congrArg Lexeme.value h

theorem not_closes_of_name? {name : String} (h : t.name? = some name) : t.closes = false := by
  unfold Token.closes
  rw [Arguments.lexeme_of_name? h]

theorem SayAlike.not_closes (h : SayAlike ts ts') (hts : ∀ t ∈ ts, t.closes = false) :
    ∀ t ∈ ts', t.closes = false := by
  induction h with
  | nil => exact List.forall_mem_nil _
  | cons ht _ ih =>
    obtain ⟨hfirst, hrest⟩ := List.forall_mem_cons.mp hts
    exact List.forall_mem_cons.mpr ⟨closes_eq ht ▸ hfirst, ih hrest⟩

/-- The sources go on in the same way as long as they say the same. -/
theorem within_same (h : SayAlike ts ts') : Recast.Within r SayAlike ts ts' := by
  induction h with
  | nil => exact ⟨.nil, .inl ⟨rfl, rfl⟩⟩
  | @cons t t' ts ts' ht hts ih =>
    obtain ⟨hinner, hbehind⟩ := ih
    cases hcloses : t.closes with
    | true =>
      have hcloses' : t'.closes = true := closes_eq ht ▸ hcloses
      refine ⟨?_, .inr ⟨t, t', ts, ts', ?_, ?_, ht, .same hts⟩⟩
      · simp [hcloses, hcloses']
      · simp [hcloses]
      · simp [hcloses']
    | false =>
      have hcloses' : t'.closes = false := closes_eq ht ▸ hcloses
      constructor
      · simpa [hcloses, hcloses', ht] using hinner
      · simpa [hcloses, hcloses'] using hbehind

theorem takeWhile_of_not_closes (h : ∀ t ∈ inner, t.closes = false) (ht : t.closes = true) :
    ((inner ++ t :: ts).takeWhile fun t => !t.closes) = inner := by
  rw [List.takeWhile_append_of_pos fun t ht => by rw [h t ht]; rfl, List.takeWhile_cons_of_neg,
    List.append_nil]
  rw [ht]
  exact Bool.false_ne_true

theorem dropWhile_of_not_closes (h : ∀ t ∈ inner, t.closes = false) (ht : t.closes = true) :
    ((inner ++ t :: ts).dropWhile fun t => !t.closes) = t :: ts := by
  rw [List.dropWhile_append_of_pos fun t ht => by rw [h t ht]; rfl, List.dropWhile_cons_of_neg]
  rw [ht]
  exact Bool.false_ne_true

theorem within_closed (hinner : R inner inner') (h : ∀ t ∈ inner, t.closes = false)
    (h' : ∀ t ∈ inner', t.closes = false) (ht : t.closes = true) (hlexeme : t.lexeme = t'.lexeme)
    (hrest : Recast r ts ts') :
    Recast.Within r R (inner ++ t :: ts) (inner' ++ t' :: ts') := by
  have ht' : t'.closes = true := closes_eq hlexeme ▸ ht
  refine ⟨?_, .inr ⟨t, t', ts, ts', dropWhile_of_not_closes h ht, dropWhile_of_not_closes h' ht',
    hlexeme, hrest⟩⟩
  rwa [takeWhile_of_not_closes h ht, takeWhile_of_not_closes h' ht']

/-- Within a tag the next tokens say the same. -/
theorem Recast.Within.head? (h : Recast.Within r SayAlike ts ts') :
    Token.AlikeIfAny ts.head? ts'.head? := by
  have hfirst (ts : List Token) : ts.head? = (ts.takeWhile fun t => !t.closes).head?.or
      (ts.dropWhile fun t => !t.closes).head? := by
    rw [← List.head?_append, List.takeWhile_append_dropWhile]
  obtain ⟨hinner, hbehind⟩ := h
  rw [hfirst ts, hfirst ts']
  generalize ts.takeWhile _ = inner at hinner ⊢
  generalize ts'.takeWhile _ = inner' at hinner ⊢
  cases hinner with
  | cons ht => exact .some ht
  | nil =>
    rcases hbehind with ⟨hnil, hnil'⟩ | ⟨c, c', rest, rest', hc, hc', hlexeme, -⟩
    · rw [hnil, hnil']
      exact .none
    · rw [hc, hc']
      exact .some hlexeme

/-- Behind a token that does not close the tag the tag goes on. -/
theorem Recast.Within.tail (h : Recast.Within r SayAlike (t :: ts) (t' :: ts'))
    (ht : t.closes = false) : Recast.Within r SayAlike ts ts' := by
  have ht' : t'.closes = false := by
    cases h.head? with
    | some hlexeme => exact closes_eq hlexeme ▸ ht
  obtain ⟨hinner, hbehind⟩ := h
  rw [List.takeWhile_cons_of_pos (by rw [ht]; rfl), List.takeWhile_cons_of_pos (by rw [ht']; rfl)]
    at hinner
  rw [List.dropWhile_cons_of_pos (by rw [ht]; rfl), List.dropWhile_cons_of_pos (by rw [ht']; rfl)]
    at hbehind
  exact ⟨(List.forall₂_cons.mp hinner).2, hbehind⟩

theorem Recast.start (h : Recast r ts ts') : Recast.Start r ts ts' := by
  cases h with
  | same h =>
    cases h with
    | nil => exact .nil
    | @cons t t' ts ts' ht hts =>
      cases hlexeme : t.lexeme with
      | text s => exact .text s hlexeme (ht ▸ hlexeme) (.same hts)
      | symbol s =>
        cases hopens : s.opens with
        | true => exact .opening s hopens hlexeme (ht ▸ hlexeme) (within_same hts)
        | false =>
          refine .other ht (fun s h => ?_) fun s h => ?_
          · rw [hlexeme] at h
            cases h
          · rw [hlexeme] at h
            cases h
            exact hopens
      | _ =>
        refine .other ht (fun s h => ?_) fun s h => ?_ <;> rw [hlexeme] at h <;> cases h
  | text s h h' hrest => exact .text s h h' hrest
  | tag s hopens h h' hinner hcloses hc hlexeme hrest =>
    exact .opening s hopens h h'
      (within_closed hinner hcloses (hinner.not_closes hcloses) hc hlexeme hrest)
  | spot h h' hn hn' hargs hcloses hcloses' hc hlexeme hrest =>
    exact .spot h h' hn hn' (within_closed hargs hcloses hcloses' hc hlexeme hrest)
  | void h h' hn hn' hpart hrest => exact .void h h' hn hn' hpart hrest

end Tokens

/-! ## Steps -/

theorem Draft.Alike.withTokens {R R' : List Token → List Token → Prop} {rest rest' : List Token}
    (hd : d.Alike g R d') (htokens : R' rest rest') (hsubset : rest ⊆ d.tokens) :
    Draft.Alike g R' { d with tokens := rest } { d' with tokens := rest' } where
  tokens := htokens
  names s hs := hd.names s (quoted_subset hsubset hs)
  seenContent := hd.seenContent
  parent := hd.parent
  blocks := hd.blocks
  macros := hd.macros
  library := hd.library

theorem drop_takeWhile (p : Token → Bool) (ts : List Token) :
    ts.drop (ts.takeWhile p).length = ts.dropWhile p := by
  have h : (ts.takeWhile p ++ ts.dropWhile p).drop (ts.takeWhile p).length = ts.dropWhile p :=
    List.drop_left
  rwa [List.takeWhile_append_dropWhile] at h

/-- The content of a tag. -/
theorem twinsAt_content (opening opening' : Position) (openSymbol closeSymbol : Symbol)
    {R : List Token → List Token → Prop} (hd : d.Alike g (Recast.Within g.toRewording R) d') :
    TwinsAt g scope scope' d d' (content opening openSymbol closeSymbol)
      (content opening' openSymbol closeSymbol)
      fun a a' => R a.1 a'.1 ∧ ∀ s ∈ quoted a.1, g.name s := by
  obtain ⟨hinner, hbehind⟩ := hd.tokens
  refine twinsAt_get_bind ?_
  dsimp only
  rw [drop_takeWhile, drop_takeWhile]
  rcases hbehind with ⟨hnil, hnil'⟩ | ⟨c, c', rest, rest', hdrop, hdrop', hc, hrest⟩
  · rw [hnil, hnil']
    exact twinsAt_refuse _ _ _ _
  · have hsubset : rest ⊆ d.tokens := by
      refine List.Subset.trans (List.subset_cons_self c rest) ?_
      rw [← hdrop]
      exact (List.dropWhile_sublist _).subset
    rw [hdrop, hdrop']
    dsimp only
    rw [hc]
    split
    · refine twinsAt_ite (fun _ => ?_) fun _ => twinsAt_refuse _ _ _ _
      refine twinsAt_set_bind (twinsAt_pure ⟨hinner, fun s hs => hd.names s ?_⟩
        (hd.withTokens hrest hsubset)) rfl rfl
      exact quoted_subset (List.takeWhile_subset _) hs
    · exact twinsAt_refuse _ _ _ _

section Scope

variable (hscope : scope.Alike g scope') {ts ts' : List Token} {close close' : Position}
include hscope

/-- Readers of arguments that do alike with the arguments that are there. -/
theorem twins_arguments_at {R : α × List Token → α' × List Token → Prop} {r : Arguments α}
    {r' : Arguments α'}
    (hr : ∀ env env', env.Alike env' → EndAlike Error.SameKind R (r env ts) (r' env' ts')) :
    Twins g scope scope' (Drafting.arguments close ts r) (Drafting.arguments close' ts' r') R := by
  refine twins_read_bind ?_
  have hresult := hr ⟨scope.catalog.filters, close, scope.settings.maxExpressionDepth⟩
    ⟨scope'.catalog.filters, close', scope'.settings.maxExpressionDepth⟩
    ⟨congrArg Catalog.filters hscope.catalog, congrArg Settings.maxExpressionDepth hscope.settings⟩
  generalize r _ ts = x at hresult ⊢
  generalize r' _ ts' = x' at hresult ⊢
  cases hresult with
  | ok ha => exact twins_pure ha
  | error he => exact fun _ _ _ => .error (.error he)

/-- A reader of arguments of which more is known. -/
theorem twins_arguments_of {P : α → Prop} (hts : SayAlike ts ts') {r : Arguments α}
    {r' : Arguments α'} (hr : r.Pairs r' A) (hP : ∀ env a rest, r env ts = .ok (a, rest) → P a) :
    Twins g scope scope' (Drafting.arguments close ts r) (Drafting.arguments close' ts' r')
      fun a a' => A a.1 a'.1 ∧ SayAlike a.2 a'.2 ∧ P a.1 := by
  refine twins_arguments_at hscope fun env env' henv => ?_
  have hresult := hr env env' ts ts' henv hts
  have hfirst := hP env
  generalize r env ts = x at hresult hfirst ⊢
  generalize r' env' ts' = x' at hresult ⊢
  cases hresult with
  | ok ha => exact .ok ⟨ha.1, ha.2, hfirst _ _ rfl⟩
  | error he => exact .error he

theorem twins_arguments (hts : SayAlike ts ts') {r : Arguments α} {r' : Arguments α'}
    (hr : r.Pairs r' A) :
    Twins g scope scope' (Drafting.arguments close ts r) (Drafting.arguments close' ts' r')
      fun a a' => A a.1 a'.1 ∧ SayAlike a.2 a'.2 :=
  (twins_arguments_of hscope hts hr fun _ _ _ _ => trivial).imp fun _ _ h => ⟨h.1, h.2.1⟩

theorem twins_argumentsOf (tag : String) (hts : SayAlike ts ts') {r : Arguments α}
    {r' : Arguments α'} (hr : r.Pairs r' A) :
    Twins g scope scope' (argumentsOf tag close ts r) (argumentsOf tag close' ts' r') A := by
  refine twins_bind (twins_arguments hscope hts (pairs_bind hr fun a a' ha =>
    pairs_bind (pairs_done tag) fun _ _ _ => pairs_pure ha)) ?_
  exact fun _ _ h => twins_pure h.1

/-- For one name templates that are alike are loaded, and nothing is loaded for both if it is not
for one. -/
theorem twins_load {name : String} (hname : g.name name) (t t' : Token) :
    Twins g scope scope' (load name t) (load name t') (Option.Rel (Template.Twins g.likeness)) := by
  intro d d' hd _
  obtain ⟨hloaded, hleft⟩ := hscope.load name hname d.library d'.library hd.library
  rw [run_load, run_load]
  generalize ((scope.load name).run d.library).1 = result at hloaded ⊢
  generalize ((scope'.load name).run d'.library).1 = result' at hloaded ⊢
  cases hloaded with
  | ok h => exact .ok h { hd with library := hleft }
  | error h =>
    cases h with
    | exhausted => exact .error .exhausted hleft
    | @error e e' he =>
      have hkind : e.isLoader = e'.isLoader := he
      dsimp only
      rw [hkind]
      split
      · exact .error (.error rfl) hleft
      · exact .error (.error he) hleft

end Scope

section Registering

variable {R : β → β' → Prop} {t : Table β} {t' : Table β'}

theorem forall₂_insert_of_not_has
    (h : List.Forall₂ (fun e e' => e.1 = e'.1 ∧ R e.2 e'.2) t t') {key : String}
    (hkey : t.has key = false) {b : β} {b' : β'} (hb : R b b') :
    List.Forall₂ (fun e e' => e.1 = e'.1 ∧ R e.2 e'.2) (t.insert key b) (t'.insert key b') := by
  rw [Table.insert_of_not_has hkey, Table.insert_of_not_has (has_eq h key ▸ hkey)]
  exact List.rel_append h (.cons ⟨rfl, hb⟩ .nil)

theorem twins_registerBlock (name : String) {body body' : Body} (hbody : g.likeness.body body body')
    (t t' : Token) :
    Twins g scope scope' (registerBlock name body t) (registerBlock name body' t')
      fun _ _ => True := by
  refine fun d d' hd => twinsAt_get_bind ?_
  rw [← has_eq hd.blocks]
  refine twinsAt_ite (fun _ => twinsAt_refuse _ _ _ _) fun hnew => ?_
  exact fun _ => .ok trivial { hd with
    blocks := forall₂_insert_of_not_has hd.blocks (Bool.eq_false_iff.mpr hnew) hbody }

theorem twins_registerMacro {m m' : Macro} (hm : g.likeness.callee m m')
    (hname : m.name = m'.name) (t t' : Token) :
    Twins g scope scope' (registerMacro m t) (registerMacro m' t') fun _ _ => True := by
  refine fun d d' hd => twinsAt_get_bind ?_
  rw [← hname, ← has_eq hd.macros]
  refine twinsAt_ite (fun _ => twinsAt_refuse _ _ _ _) fun hnew => ?_
  exact fun _ => .ok trivial { hd with
    macros := forall₂_insert_of_not_has hd.macros (Bool.eq_false_iff.mpr hnew) hm }

end Registering

end Stencil
