import Stencil.Proofs.Keeping
import Stencil.Proofs.Reading.Quotes
import Stencil.Proofs.Reading.Tags

/-!
# What reading leaves behind

Reading uses up tokens from the front. A few tags leave more behind than the nodes that they give:
a block is noted by its name, and so are a macro that is exported and the parent; and what a tag
loads stays in the set. Reading tokens in which there is none of these tags changes nothing but the
tokens. An include loads nothing where it is read if it does not name its template by a literal, or
says that the template may be missing.

It does not depend on more than the tokens either. Where tokens were read once, the same tokens are
read again by the same number of them, whatever else the draft holds and whatever is loaded, unless
such a tag fails or fewer tags may nest.
-/

namespace Stencil

/-- The tags that note something beside the nodes that they give, whatever their arguments are. -/
def Tag.notes : Tag → Bool
  | .block | .extending | .importing => true
  | _ => false

/-- What an include reads from its arguments. -/
def TagReader.included : Arguments (Expr × List (String × Expr) × Bool × Bool) := do
  let e ← Arguments.expression
  let (bindings, only, ifExists) ← includeWords (← Arguments.left) ([], false, false)
  pure (e, bindings, only, ifExists)

/-- An include with these arguments looks its template up when it is rendered, and not before. -/
def IncludesLater (args : List Token) : Prop :=
  ∀ env found rest, TagReader.included env args = .ok (found, rest) →
    found.1.literalString? = none ∨ found.2.2.2 = true

/-- No tag in the tokens notes or loads anything, and no macro is exported. -/
structure Catalog.Quiet (c : Catalog) (ts : List Token) : Prop where
  tag : ∀ name tag, [.symbol .openTag, .identifier name] <:+: ts.map Token.lexeme →
    c.tags.find? name = some (.builtin tag) → tag.notes = false
  included : ∀ opening start name args close, opening :: start :: (args ++ [close]) <:+: ts →
    opening.lexeme = .symbol .openTag → start.name? = some name →
    c.tags.find? name = some (.builtin .including) → (∀ t ∈ args, t.closes = false) →
    close.closes = true → IncludesLater args
  exported : Lexeme.keyword .kwExport ∉ ts.map Token.lexeme

/-- What was noted and loaded is the same in both drafts. -/
structure Draft.Same (d d' : Draft) : Prop where
  parent : d'.parent = d.parent
  blocks : d'.blocks = d.blocks
  macros : d'.macros = d.macros
  library : d'.library = d.library

/-- Tags nest too deep at one of the positions. -/
def Halt.Cramped (place : Position → Prop) (h : Halt) : Prop :=
  ∃ p n, place p ∧ h = .error (.atPosition p (.tooNested n))

/-- Two places at which a template is read. What is loaded at the second one does not fail because
tags nest too deep in that template. -/
structure Rereading where
  /-- The positions in the template. -/
  place : Position → Prop
  scope : DraftScope
  scope' : DraftScope
  /-- Whether fewer tags may nest at the second place. -/
  less : Prop
  catalog : scope'.catalog = scope.catalog
  settings : scope'.settings = scope.settings
  load : ∀ other l h, ((scope'.load other).run l).1 = .error h → ¬h.Cramped place

/-- Drafts with the same tokens to come, which stand at the given positions. -/
structure Draft.Level (place : Position → Prop) (d d' : Draft) : Prop where
  tokens : d'.tokens = d.tokens
  placed : ∀ t ∈ d.tokens, place t.position

/-- How it ends at the second place where the tokens `rest` were left at the first one: with such a
result that `A` holds for, or for want of room, or for something `noted`. -/
inductive Rereading.Again {α : Type} (g : Rereading) (A : α → Prop) (noted : Prop)
    (rest : List Token) : Except Halt α × Draft → Prop
  | ok {a} {d : Draft} : A a → d.tokens = rest → Again g A noted rest (.ok a, d)
  | cramped {h d} : g.less → h.Cramped g.place → Again g A noted rest (.error h, d)
  | noted {h d} : noted → ¬h.Cramped g.place → Again g A noted rest (.error h, d)

namespace Drafting

/-- Where `m` succeeds on the draft `d`, it uses up tokens, and if these and the tokens before them
are quiet, it notes and loads nothing. Then `m'` does the same on the draft `d'`, as far as `v` can
tell, and where it fails the tokens are not quiet or there is less room. -/
def UsesAt {α β : Type} (g : Rereading) (before : List Token) (d d' : Draft) (m m' : Drafting α)
    (v : α → β) : Prop :=
  ∀ a, (m g.scope d).1 = .ok a → ∃ used, d.tokens = used ++ (m g.scope d).2.tokens ∧
    (g.scope.catalog.Quiet (before ++ used) → d.Same (m g.scope d).2) ∧
    g.Again (fun a' => v a' = v a) (¬g.scope.catalog.Quiet (before ++ used))
      (m g.scope d).2.tokens (m' g.scope' d')

/-- Where `m` succeeds it uses up tokens, and `m'` uses up the same ones, unless it fails because
these and the tokens before them are not quiet, or for want of room. -/
def Uses {α β : Type} (g : Rereading) (before : List Token) (m m' : Drafting α) (v : α → β) :
    Prop :=
  ∀ d d', d.Level g.place d' → UsesAt g before d d' m m' v

end Drafting

open Drafting

variable {g : Rereading} {before : List Token} {d d' e e' : Draft} {α β γ δ : Type} {v : α → γ}
  {w : β → δ}

theorem Catalog.Quiet.of_infix {c : Catalog} {ts part : List Token} (h : c.Quiet ts)
    (hpart : part <:+: ts) : c.Quiet part where
  tag name tag hname := h.tag name tag (hname.trans (hpart.map _))
  included opening start name args close hinclude :=
    h.included opening start name args close (hinclude.trans hpart)
  exported hmem := h.exported ((hpart.map _).subset hmem)

theorem Catalog.Quiet.of_append {c : Catalog} {ts more : List Token} (h : c.Quiet (ts ++ more)) :
    c.Quiet ts := h.of_infix (List.prefix_append ts more).isInfix

theorem not_quiet_append {c : Catalog} (h : ¬c.Quiet before) (used : List Token) :
    ¬c.Quiet (before ++ used) := fun hquiet => h hquiet.of_append

namespace Draft.Same

theorem refl (d : Draft) : d.Same d := ⟨rfl, rfl, rfl, rfl⟩

theorem trans (h : d.Same e) (h' : e.Same e') : d.Same e' where
  parent := h'.parent.trans h.parent
  blocks := h'.blocks.trans h.blocks
  macros := h'.macros.trans h.macros
  library := h'.library.trans h.library

end Draft.Same

/-- Drafts stay level while tokens are used up. -/
theorem Draft.Level.of_used {place : Position → Prop} (h : d.Level place d') (used : List Token)
    (hused : d.tokens = used ++ e.tokens) (htokens : e'.tokens = e.tokens) : e.Level place e' where
  tokens := htokens
  placed t ht := h.placed t (hused ▸ List.mem_append_right used ht)

/-! ## Rules -/

section Rules

theorem Rereading.Again.noted_imp {A : α → Prop} {noted noted' : Prop} {rest : List Token}
    {r : Except Halt α × Draft} (h : g.Again A noted rest r) (hnoted : noted → noted') :
    g.Again A noted' rest r := by
  cases h with
  | ok ha hd => exact .ok ha hd
  | cramped hless hh => exact .cramped hless hh
  | noted hn hh => exact .noted (hnoted hn) hh

theorem usesAt_pure {a a' : α} (ha : v a' = v a) (hd : d.Level g.place d') :
    UsesAt g before d d' (pure a) (pure a') v := by
  rintro _ ⟨⟩
  exact ⟨[], rfl, fun _ => .refl d, .ok ha hd.tokens⟩

theorem uses_pure {a a' : α} (ha : v a' = v a) : Uses g before (pure a) (pure a') v :=
  fun _ _ hd => usesAt_pure ha hd

theorem uses_throw (h : Halt) (m' : Drafting α) : Uses g before (throw h) m' v :=
  fun _ _ _ _ ha => nomatch ha

theorem uses_refuse (p : Position) (fault : ParseFault) (m' : Drafting α) :
    Uses g before (refuse p fault) m' v := uses_throw _ _

theorem uses_refuse_bind (p : Position) (fault : ParseFault) (f : α → Drafting β)
    (m' : Drafting β) : Uses g before (refuse p fault >>= f) m' w :=
  fun _ _ _ _ hb => nomatch hb

theorem usesAt_bind_of {m m' : Drafting α} {f f' : α → Drafting β} (hd : d.Level g.place d')
    (hm : UsesAt g before d d' m m' v)
    (hf : ∀ a a' used, (m g.scope d).1 = .ok a → v a' = v a →
      Uses g (before ++ used) (f a) (f' a') w) :
    UsesAt g before d d' (m >>= f) (m' >>= f') w := by
  intro b hb
  rw [run_bind] at hb ⊢
  cases ha : (m g.scope d).1 with
  | error h =>
    rw [ha] at hb
    cases hb
  | ok a =>
    rw [ha] at hb
    obtain ⟨used, htokens, hsame, hagain⟩ := hm a ha
    have hmore {a' : α} (ha' : v a' = v a) {e' : Draft}
        (he' : e'.tokens = (m g.scope d).2.tokens) :
        UsesAt g (before ++ used) (m g.scope d).2 e' (f a) (f' a') w :=
      hf a a' used ha ha' _ _ (hd.of_used used htokens he')
    have hstep {more : List Token}
        (htokens' : (m g.scope d).2.tokens = more ++ (f a g.scope (m g.scope d).2).2.tokens)
        (hsame' : g.scope.catalog.Quiet (before ++ used ++ more) →
          (m g.scope d).2.Same (f a g.scope (m g.scope d).2).2) :
        d.tokens = used ++ more ++ (f a g.scope (m g.scope d).2).2.tokens ∧
          (g.scope.catalog.Quiet (before ++ (used ++ more)) →
            d.Same (f a g.scope (m g.scope d).2).2) := by
      refine ⟨by rw [htokens, htokens', List.append_assoc], fun hquiet => ?_⟩
      rw [← List.append_assoc] at hquiet
      exact (hsame hquiet.of_append).trans (hsame' hquiet)
    rw [run_bind]
    generalize m' g.scope' d' = r at hagain ⊢
    cases hagain with
    | @ok a' e' ha' he' =>
      obtain ⟨more, htokens', hsame', hagain'⟩ := hmore ha' he' b hb
      obtain ⟨hused, hleft⟩ := hstep htokens' hsame'
      exact ⟨used ++ more, hused, hleft, List.append_assoc before used more ▸ hagain'⟩
    | cramped hless hh =>
      obtain ⟨more, htokens', hsame', -⟩ := hmore rfl rfl b hb
      obtain ⟨hused, hleft⟩ := hstep htokens' hsame'
      exact ⟨used ++ more, hused, hleft, .cramped hless hh⟩
    | noted hnoted hh =>
      obtain ⟨more, htokens', hsame', -⟩ := hmore rfl rfl b hb
      obtain ⟨hused, hleft⟩ := hstep htokens' hsame'
      refine ⟨used ++ more, hused, hleft, .noted (fun hquiet => hnoted ?_) hh⟩
      rw [← List.append_assoc] at hquiet
      exact hquiet.of_append

theorem usesAt_bind {m m' : Drafting α} {f f' : α → Drafting β} (hd : d.Level g.place d')
    (hm : UsesAt g before d d' m m' v)
    (hf : ∀ a a' used, v a' = v a → Uses g (before ++ used) (f a) (f' a') w) :
    UsesAt g before d d' (m >>= f) (m' >>= f') w :=
  usesAt_bind_of hd hm fun a a' used _ => hf a a' used

theorem uses_bind {m m' : Drafting α} {f f' : α → Drafting β} (hm : Uses g before m m' v)
    (hf : ∀ a a' used, v a' = v a → Uses g (before ++ used) (f a) (f' a') w) :
    Uses g before (m >>= f) (m' >>= f') w :=
  fun d d' hd => usesAt_bind hd (hm d d' hd) hf

/-- Behind what gives the same at both places. -/
theorem uses_same_bind {m m' : Drafting α} {f f' : α → Drafting β} (hm : Uses g before m m' id)
    (hf : ∀ a used, Uses g (before ++ used) (f a) (f' a) w) :
    Uses g before (m >>= f) (m' >>= f') w :=
  uses_bind hm fun a a' used h => by
    obtain rfl : a' = a := h
    exact hf a' used

theorem usesAt_ite {c : Prop} [Decidable c] {m m' n n' : Drafting α}
    (h : c → UsesAt g before d d' m n v) (h' : ¬c → UsesAt g before d d' m' n' v) :
    UsesAt g before d d' (if c then m else m') (if c then n else n') v := by
  split
  · exact h ‹c›
  · exact h' ‹¬c›

theorem uses_ite {c : Prop} [Decidable c] {m m' n n' : Drafting α} (h : c → Uses g before m n v)
    (h' : ¬c → Uses g before m' n' v) :
    Uses g before (if c then m else m') (if c then n else n') v :=
  fun d d' hd => usesAt_ite (fun hc => h hc d d' hd) fun hc => h' hc d d' hd

theorem usesAt_read_bind {f f' : DraftScope → Drafting β}
    (h : UsesAt g before d d' (f g.scope) (f' g.scope') w) :
    UsesAt g before d d' (read >>= f) (read >>= f') w := h

theorem uses_read_bind {f f' : DraftScope → Drafting β}
    (h : Uses g before (f g.scope) (f' g.scope') w) :
    Uses g before (read >>= f) (read >>= f') w := h

theorem uses_get_bind {f f' : Draft → Drafting β}
    (h : ∀ d d', d.Level g.place d' → UsesAt g before d d' (f d) (f' d') w) :
    Uses g before (get >>= f) (get >>= f') w := h

theorem usesAt_set_bind (used : List Token) {f f' : PUnit → Drafting β}
    (htokens : d.tokens = used ++ e.tokens)
    (hsame : g.scope.catalog.Quiet (before ++ used) → d.Same e)
    (hf : UsesAt g (before ++ used) e e' (f ⟨⟩) (f' ⟨⟩) w) :
    UsesAt g before d d' (set e >>= f) (set e' >>= f') w := by
  intro b hb
  obtain ⟨more, htokens', hsame', hagain⟩ := hf b hb
  refine ⟨used ++ more, ?_, fun hquiet => ?_, List.append_assoc before used more ▸ hagain⟩
  · rw [htokens, htokens', List.append_assoc]
    rfl
  · rw [← List.append_assoc] at hquiet
    exact (hsame hquiet.of_append).trans (hsame' hquiet)

/-- A change that notes something is made only where the tokens before are not quiet. -/
theorem uses_modify {f f' : Draft → Draft} (htokens : ∀ d, (f d).tokens = d.tokens)
    (htokens' : ∀ d, (f' d).tokens = d.tokens)
    (hsame : g.scope.catalog.Quiet before → ∀ d : Draft, d.Same (f d)) :
    Uses g before (modify f : Drafting PUnit) (modify f') fun _ => () :=
  fun d d' hd _ _ => ⟨[], (htokens d).symm, fun hquiet => hsame hquiet.of_append d,
    .ok rfl ((htokens' d').trans (hd.tokens.trans (htokens d).symm))⟩

theorem uses_modify_seen : Uses g before
    (modify fun d => { d with seenContent := true } : Drafting PUnit)
    (modify fun d => { d with seenContent := true }) fun _ => () :=
  uses_modify (fun _ => rfl) (fun _ => rfl) fun _ _ => ⟨rfl, rfl, rfl, rfl⟩

/-- What is refused for another reason is not refused for want of room. -/
theorem not_cramped_atPosition {place : Position → Prop} {p : Position} {fault : ParseFault}
    (hfault : ∀ n, fault ≠ .tooNested n) : ¬(Halt.error (.atPosition p fault)).Cramped place := by
  rintro ⟨q, n, -, heq⟩
  cases heq
  exact hfault n rfl

/-- Behind tokens that are not quiet the second reading may fail. -/
theorem Drafting.UsesAt.refused {m m' n' : Drafting α} (h : UsesAt g before d d' m m' v)
    (hbefore : ¬g.scope.catalog.Quiet before) {halt : Halt}
    (hn' : n' g.scope' d' = (.error halt, e')) (hhalt : ¬halt.Cramped g.place) :
    UsesAt g before d d' m n' v := by
  intro a ha
  obtain ⟨used, htokens, hsame, -⟩ := h a ha
  exact ⟨used, htokens, hsame, hn' ▸ .noted (not_quiet_append hbefore used) hhalt⟩

/-- Where there is less room the second reading may fail for want of it. -/
theorem Drafting.UsesAt.cramped {m m' n' : Drafting α} (h : UsesAt g before d d' m m' v)
    (hless : g.less) {halt : Halt} (hn' : n' g.scope' d' = (.error halt, e'))
    (hhalt : halt.Cramped g.place) : UsesAt g before d d' m n' v := by
  intro a ha
  obtain ⟨used, htokens, hsame, -⟩ := h a ha
  exact ⟨used, htokens, hsame, hn' ▸ .cramped hless hhalt⟩

/-- Behind tokens that are not quiet the second reading may find reason to refuse. -/
theorem usesAt_guard {c c' : Prop} [Decidable c] [Decidable c'] {m m' : Drafting α}
    {p p' : Position} {fault fault' : ParseFault} {k k' : β → Drafting α} (hd : d.Level g.place d')
    (h : UsesAt g before d d' m m' v) (hbefore : ¬g.scope.catalog.Quiet before)
    (hfault : ∀ n, fault' ≠ .tooNested n) :
    UsesAt g before d d' (if c then refuse p fault >>= k else m)
      (if c' then refuse p' fault' >>= k' else m') v := by
  split
  · exact uses_refuse_bind _ _ _ _ d d' hd
  · split
    · exact h.refused hbefore rfl (not_cramped_atPosition hfault)
    · exact h

end Rules

/-! ## Steps -/

section Steps

theorem uses_ofExcept (r : Except Error α) :
    Uses g before (Halt.ofExcept r : Drafting α) (Halt.ofExcept r) v := by
  cases r with
  | ok a => exact uses_pure rfl
  | error e => exact uses_throw _ _

/-- Arguments are read again in the same way. -/
theorem uses_arguments {close : Position} {ts : List Token} {r : Arguments α} :
    Uses g before (Drafting.arguments close ts r) (Drafting.arguments close ts r) id := by
  refine uses_read_bind ?_
  rw [g.catalog, g.settings]
  exact uses_ofExcept _

theorem uses_argumentsOf {tag : String} {close : Position} {ts : List Token} {r : Arguments α} :
    Uses g before (argumentsOf tag close ts r) (argumentsOf tag close ts r) id := by
  exact uses_same_bind uses_arguments fun _ _ => uses_pure rfl

theorem exists_of_arguments {scope : DraftScope} {close : Position} {ts : List Token}
    {r : Arguments α} {found : α × List Token}
    (h : (Drafting.arguments close ts r scope d).1 = .ok found) : ∃ env, r env ts = .ok found := by
  refine ⟨⟨scope.catalog.filters, close, scope.settings.maxExpressionDepth⟩, ?_⟩
  change ((Halt.ofExcept (r _ ts) : Drafting (α × List Token)) scope d).1 = .ok found at h
  cases hr : r ⟨scope.catalog.filters, close, scope.settings.maxExpressionDepth⟩ ts with
  | ok a =>
    rw [hr] at h
    cases h
    rfl
  | error e =>
    rw [hr] at h
    cases h

/-- What is read from the arguments of a tag has nothing to do with the draft. -/
theorem argumentsOf_run (scope : DraftScope) (tag : String) (close : Position) (ts : List Token)
    (r : Arguments α) : ∃ result, ∀ d, argumentsOf tag close ts r scope d = (result, d) := by
  let env : Surroundings :=
    ⟨scope.catalog.filters, close, scope.settings.maxExpressionDepth⟩
  have hrun (d : Draft) : argumentsOf tag close ts r scope d =
      (Halt.ofExcept ((do let a ← r; Arguments.done tag; pure a : Arguments α) env ts) >>=
        fun found => pure found.1 : Drafting α) scope d := rfl
  cases hread : (do let a ← r; Arguments.done tag; pure a : Arguments α) env ts with
  | ok found => exact ⟨.ok found.1, fun d => by rw [hrun, hread]; rfl⟩
  | error e => exact ⟨.error (.error e), fun d => by rw [hrun, hread]; rfl⟩

/-- The tokens `ts` start with the content `inner` of a tag, and the symbol `s` closes the tag. -/
structure Content (s : Symbol) (ts inner : List Token) (close : Token) (rest : List Token) :
    Prop where
  tokens : ts = inner ++ close :: rest
  inner : ∀ t ∈ inner, t.closes = false
  symbol : close.lexeme = .symbol s
  closes : close.closes = true

/-- What is read as content is the content. -/
theorem content_of_eq_ok {scope : DraftScope} {opening : Position} {openSymbol closeSymbol : Symbol}
    {found : List Token × Position}
    (h : content opening openSymbol closeSymbol scope d = (.ok found, d')) :
    ∃ inner close rest, Content closeSymbol d.tokens inner close rest ∧
      found = (inner, close.position) ∧ d' = { d with tokens := rest } := by
  have hsplit := List.takeWhile_append_dropWhile (p := fun t : Token => !t.closes) (l := d.tokens)
  unfold content at h
  rw [run_get_bind] at h
  cases hdrop : d.tokens.drop (d.tokens.takeWhile fun t => !t.closes).length with
  | nil =>
    simp only [hdrop] at h
    cases h
  | cons close rest =>
    have htokens : d.tokens = d.tokens.takeWhile (fun t => !t.closes) ++ close :: rest := by
      rw [← hdrop]
      exact (List.prefix_iff_eq_append.mp (List.takeWhile_prefix _)).symm
    have hcloses : close.closes = true := by
      have hhead := List.head?_dropWhile_not (fun t : Token => !t.closes) d.tokens
      rw [List.append_cancel_left (hsplit.trans htokens)] at hhead
      simpa using hhead
    simp only [hdrop] at h
    cases hlexeme : close.lexeme with
    | symbol s =>
      simp only [hlexeme] at h
      by_cases hs : s = closeSymbol
      · rw [if_pos hs] at h
        cases h
        refine ⟨_, close, rest, ⟨htokens, fun t ht => ?_, hs ▸ hlexeme, hcloses⟩, rfl, rfl⟩
        simpa using List.all_eq_true.mp List.all_takeWhile t ht
      · rw [if_neg hs] at h
        cases h
    | _ =>
      simp only [hlexeme] at h
      cases h

/-- The content of a tag is read up to the delimiter that closes the tag. -/
theorem content_eq_ok {scope : DraftScope} {opening : Position} {openSymbol closeSymbol : Symbol}
    {inner rest : List Token} {close : Token}
    (h : Content closeSymbol d.tokens inner close rest) :
    content opening openSymbol closeSymbol scope d =
      (.ok (inner, close.position), { d with tokens := rest }) := by
  have hinner : d.tokens.takeWhile (fun t => !t.closes) = inner := by
    rw [h.tokens, List.takeWhile_append_of_pos fun t ht => by rw [h.inner t ht]; rfl,
      List.takeWhile_cons_of_neg (by rw [h.closes]; nofun), List.append_nil]
  have hdrop : d.tokens.drop inner.length = close :: rest := by
    rw [h.tokens]
    exact List.drop_left
  unfold content
  rw [run_get_bind, hinner, hdrop]
  dsimp only
  rw [h.symbol]
  dsimp only
  rw [if_pos rfl]
  rfl

/-- What follows the content of a tag follows its tokens. -/
theorem usesAt_content_bind {opening : Position} {openSymbol closeSymbol : Symbol}
    {f f' : List Token × Position → Drafting β} (hd : d.Level g.place d')
    (hf : ∀ inner close rest, Content closeSymbol d.tokens inner close rest →
      UsesAt g (before ++ (inner ++ [close])) { d with tokens := rest } { d' with tokens := rest }
        (f (inner, close.position)) (f' (inner, close.position)) w) :
    UsesAt g before d d' (content opening openSymbol closeSymbol >>= f)
      (content opening openSymbol closeSymbol >>= f') w := by
  intro b hb
  rw [run_bind] at hb ⊢
  cases hfound : content opening openSymbol closeSymbol g.scope d with
  | mk result e =>
    rw [hfound] at hb
    cases result with
    | error h => cases hb
    | ok found =>
      obtain ⟨inner, close, rest, hcontent, rfl, rfl⟩ := content_of_eq_ok hfound
      have hagain : content opening openSymbol closeSymbol g.scope' d' =
          (.ok (inner, close.position), { d' with tokens := rest }) :=
        content_eq_ok (hd.tokens ▸ hcontent)
      obtain ⟨used, htokens, hsame, hright⟩ := hf inner close rest hcontent b hb
      refine ⟨inner ++ [close] ++ used, ?_, fun hquiet => ?_, ?_⟩
      · rw [hcontent.tokens, List.append_assoc, List.append_assoc]
        exact congrArg (inner ++ close :: ·) htokens
      · rw [← List.append_assoc] at hquiet
        have hrest : d.Same { d with tokens := rest } := ⟨rfl, rfl, rfl, rfl⟩
        exact hrest.trans (hsame hquiet)
      · rw [run_bind, hagain, ← List.append_assoc]
        exact hright

end Steps

/-! ### Loading -/

section Loading

/-- What loading a template does to the state of the reading. -/
theorem run_load (name : String) (t : Token) (scope : DraftScope) (d : Draft) :
    Drafting.load name t scope d =
      (match ((scope.load name).run d.library).1 with
        | .ok found => pure found
        | .error (.error e) =>
          if e.isLoader then
            throw (.error (.parse t.position (.cannotLoad name e.message) (some e)))
          else throw (.error e)
        | .error (@Halt.exhausted why) => throw (@Halt.exhausted why) : Drafting (Option Template))
          scope
          { d with library := ((scope.load name).run d.library).2 } := rfl

theorem tokens_load (name : String) (t : Token) (scope : DraftScope) (d : Draft) :
    (Drafting.load name t scope d).2.tokens = d.tokens := by
  rw [run_load]
  generalize ((scope.load name).run d.library).1 = result
  match result with
  | .ok _ => rfl
  | .error (.error e) => cases h : e.isLoader <;> simp only [h] <;> rfl
  | .error .exhausted => rfl

/-- Loading does not fail because tags nest too deep here. -/
theorem not_cramped_load {name : String} {t : Token} {h : Halt}
    (hh : (Drafting.load name t g.scope' d).1 = .error h) : ¬h.Cramped g.place := by
  have hload := g.load name d.library
  rw [run_load] at hh
  generalize ((g.scope'.load name).run d.library).1 = result at hload hh
  cases result with
  | ok found => cases hh
  | error h' =>
    cases h' with
    | exhausted =>
      cases hh
      exact hload _ rfl
    | error e =>
      dsimp only at hh
      split at hh
      · cases hh
        rintro ⟨p, n, -, heq⟩
        cases heq
      · cases hh
        exact hload _ rfl

end Loading

/-! ## Tags -/

/-- What ends a section. -/
def Section.bound (part : Section) : Token × List Token × Position :=
  (part.ending, part.args, part.close)

theorem Section.ending_eq {part part' : Section} (h : part'.bound = part.bound) :
    part'.ending = part.ending := congrArg Prod.fst h

/-- The bodies of the tag are read with the same bounds by `wrap`, as far as there is room. -/
def TagScope.Uses (g : Rereading) (s : TagScope) (wrap : SectionReader) : Prop :=
  ∀ before ends, Drafting.Uses g before (s.wrap ends s.start) (wrap ends s.start) Section.bound

section Tags

variable {s : TagScope} {wrap : SectionReader} (hwrap : s.Uses g wrap)

theorem uses_body {part part' : Section} (h : part'.bound = part.bound) :
    Uses g before part.body part'.body fun _ => () := by
  obtain ⟨nodes, ending, args, close⟩ := part
  obtain ⟨nodes', ending', args', close'⟩ := part'
  cases h
  exact uses_bind uses_argumentsOf fun _ _ _ _ => uses_pure rfl

include hwrap in
theorem uses_bodyUpTo (ending : String) :
    Uses g before (TagReader.bodyUpTo s ending) (TagReader.bodyUpTo { s with wrap } ending)
      fun _ => () :=
  uses_bind (hwrap _ _) fun _ _ _ h => uses_body h

include hwrap in
theorem uses_bodies (middle ending : String) :
    Uses g before (TagReader.bodies s middle ending)
      (TagReader.bodies { s with wrap } middle ending) fun _ => () := by
  refine uses_bind (hwrap _ _) fun first first' _ h => ?_
  refine uses_bind (uses_body h) fun _ _ _ _ => ?_
  rw [Section.ending_eq h]
  refine uses_ite (fun _ => ?_) fun _ => uses_pure rfl
  exact uses_bind (uses_bodyUpTo hwrap ending) fun _ _ _ _ => uses_pure rfl

include hwrap in
theorem uses_branches (n : Nat) (condition : Expr) :
    Uses g before (TagReader.branches s n condition)
      (TagReader.branches { s with wrap } n condition) fun _ => () := by
  induction n generalizing before condition with
  | zero => exact uses_refuse _ _ _
  | succ n ih =>
    refine uses_bind (hwrap _ _) fun part part' _ h => ?_
    have hbody : ∀ before, Uses g before part.body part'.body fun _ => () := fun _ => uses_body h
    obtain ⟨nodes, ending, args, close⟩ := part
    obtain ⟨nodes', ending', args', close'⟩ := part'
    cases h
    dsimp only
    split
    · refine uses_same_bind uses_argumentsOf fun next _ => ?_
      exact uses_bind (ih next) fun _ _ _ _ => uses_pure rfl
    · refine uses_bind (hbody _) fun _ _ _ _ => ?_
      exact uses_bind (uses_bodyUpTo hwrap _) fun _ _ _ _ => uses_pure rfl
    · exact uses_bind (hbody _) fun _ _ _ _ => uses_pure rfl

include hwrap in
theorem uses_sections (ends : List String) (n : Nat) :
    Uses g before (TagReader.sections s ends n) (TagReader.sections { s with wrap } ends n)
      fun _ => () := by
  induction n generalizing before with
  | zero => exact uses_refuse _ _ _
  | succ n ih =>
    refine uses_bind (hwrap _ _) fun part part' _ h => ?_
    refine uses_bind (uses_body h) fun _ _ _ _ => ?_
    rw [Section.ending_eq h]
    refine uses_ite (fun _ => uses_pure rfl) fun _ => ?_
    exact uses_bind ih fun _ _ _ _ => uses_pure rfl

/-! ### Tags that note something -/

section Noting

variable (hbefore : ¬g.scope.catalog.Quiet before)
include hbefore

/-- Whatever is loaded, only the tokens matter. -/
theorem uses_load (name : String) (t : Token) :
    Uses g before (Drafting.load name t) (Drafting.load name t) fun _ => () := by
  intro d d' hd found _
  have hkept := tokens_load name t g.scope d
  refine ⟨[], hkept.symm, fun hquiet => absurd hquiet.of_append hbefore, ?_⟩
  have htokens := tokens_load name t g.scope' d'
  have hfails := fun h => @not_cramped_load g d' name t h
  generalize Drafting.load name t g.scope' d' = out at htokens hfails ⊢
  obtain ⟨_ | found', e'⟩ := out
  · exact .noted (not_quiet_append hbefore []) (hfails _ rfl)
  · exact .ok rfl (htokens.trans (hd.tokens.trans hkept.symm))

theorem uses_registerBlock (name : String) (body body' : Body) (t : Token) :
    Uses g before (registerBlock name body t) (registerBlock name body' t) fun _ => () := by
  refine uses_get_bind fun d d' hd => ?_
  have hnote : UsesAt g before d d'
      (set { d with blocks := d.blocks.insert name body } : Drafting PUnit)
      (set { d' with blocks := d'.blocks.insert name body' }) fun _ => () :=
    fun _ _ => ⟨[], rfl, fun hquiet => absurd hquiet.of_append hbefore, .ok rfl hd.tokens⟩
  split
  · exact uses_refuse _ _ _ d d' hd
  · split
    · exact hnote.refused hbefore rfl (not_cramped_atPosition nofun)
    · exact hnote

theorem uses_registerMacro (m m' : Macro) (t : Token) :
    Uses g before (registerMacro m t) (registerMacro m' t) fun _ => () := by
  refine uses_get_bind fun d d' hd => ?_
  have hnote : UsesAt g before d d'
      (set { d with macros := d.macros.insert m.name m } : Drafting PUnit)
      (set { d' with macros := d'.macros.insert m'.name m' }) fun _ => () :=
    fun _ _ => ⟨[], rfl, fun hquiet => absurd hquiet.of_append hbefore, .ok rfl hd.tokens⟩
  split
  · exact uses_refuse _ _ _ d d' hd
  · split
    · exact hnote.refused hbefore rfl (not_cramped_atPosition nofun)
    · exact hnote

include hwrap in
theorem uses_block : Uses g before (TagReader.block s) (TagReader.block { s with wrap })
    Prod.snd := by
  refine uses_same_bind uses_arguments fun found used => ?_
  refine uses_bind (hwrap _ _) fun part part' used' h => ?_
  obtain ⟨nodes, ending, args, close⟩ := part
  obtain ⟨nodes', ending', args', close'⟩ := part'
  cases h
  refine uses_bind uses_argumentsOf fun _ _ used'' _ => ?_
  refine uses_bind (uses_registerBlock ?_ _ _ _ _) fun _ _ _ _ => uses_pure rfl
  exact not_quiet_append (not_quiet_append (not_quiet_append hbefore _) _) _

theorem uses_extending : Uses g before (TagReader.extending s)
    (TagReader.extending { s with wrap }) Prod.snd := by
  have hnote (before : List Token) (hbefore : ¬g.scope.catalog.Quiet before)
      (parent parent' : Parent) (rest : List Token) :
      Uses g before
        (do
          modify fun draft => { draft with parent := some parent }
          pure (Statement.nothing, rest))
        (do
          modify fun draft => { draft with parent := some parent' }
          pure (Statement.nothing, rest)) Prod.snd :=
    uses_bind (uses_modify (fun _ => rfl) (fun _ => rfl) fun hquiet => absurd hquiet hbefore)
      fun _ _ _ _ => uses_pure rfl
  refine uses_get_bind fun d d' hd => ?_
  refine usesAt_guard hd (usesAt_guard hd ?_ hbefore nofun) hbefore nofun
  refine uses_same_bind uses_arguments (fun found used => ?_) d d' hd
  have hbefore := not_quiet_append hbefore used
  dsimp only
  split
  · refine uses_bind (uses_load hbefore _ _) fun loaded loaded' used' _ => ?_
    have hbefore := not_quiet_append hbefore used'
    cases loaded with
    | none => exact uses_refuse_bind _ _ _ _
    | some t =>
      cases loaded' with
      | none =>
        have hleft := hnote _ hbefore (.linked t) (.linked t) found.2
        exact fun d d' hd => (hleft d d' hd).refused hbefore rfl (not_cramped_atPosition nofun)
      | some t' => exact hnote _ hbefore _ _ _
  · exact hnote _ hbefore _ _ _

/-- Where `r` succeeds `r'` leaves the same tokens, unless it refuses something. -/
def Arguments.Rereads (r r' : Arguments α) : Prop :=
  ∀ env ts a rest, r env ts = .ok (a, rest) → (∃ a', r' env ts = .ok (a', rest)) ∨
    ∃ p fault, r' env ts = .error (.atPosition p fault) ∧ ∀ n, fault ≠ .tooNested n

omit hbefore in
theorem rereads_pure (a a' : α) : Arguments.Rereads (pure a) (pure a') := by
  rintro env ts _ _ ⟨⟩
  exact .inl ⟨a', rfl⟩

omit hbefore in
theorem rereads_bind (r : Arguments β) {f f' : β → Arguments α}
    (hf : ∀ b, (f b).Rereads (f' b)) : (r >>= f).Rereads (r >>= f') := by
  intro env ts a rest h
  rw [arguments_bind] at h ⊢
  generalize r env ts = found at h ⊢
  match found with
  | .ok (b, middle) => exact hf b env middle a rest h
  | .error e => cases h

omit hbefore in
theorem rereads_map {r r' : Arguments β} {f f' : β → α} (hr : r.Rereads r') :
    Arguments.Rereads (do return f (← r)) (do return f' (← r')) := by
  intro env ts a rest h
  rw [arguments_bind] at h ⊢
  cases hfound : r env ts with
  | error e =>
    rw [hfound] at h
    cases h
  | ok found =>
    obtain ⟨b, left⟩ := found
    rw [hfound] at h
    cases h
    obtain ⟨b', hb'⟩ | ⟨p, fault, herror, hfault⟩ := hr env ts b rest hfound
    · exact .inl ⟨f' b', by rw [hb']; rfl⟩
    · exact .inr ⟨p, fault, by rw [herror], hfault⟩

omit hbefore in
theorem rereads_afterImport (target : String) (m m' : Macro)
    {more more' : Arguments (List (String × Macro))} (hmore : more.Rereads more') :
    Arguments.Rereads
      (do
        match ← Arguments.symbol? .comma with
        | some _ => return (target, m) :: (← more)
        | none => pure [(target, m)])
      (do
        match ← Arguments.symbol? .comma with
        | some _ => return (target, m') :: (← more')
        | none => pure [(target, m')]) := by
  refine rereads_bind _ fun comma => ?_
  cases comma with
  | none => exact rereads_pure _ _
  | some _ => exact rereads_map hmore

omit hbefore in
/-- The names of macros to import are read again in the same way, unless there is no such macro. -/
theorem rereads_importNames (file : String) (t t' : Template) (n : Nat) :
    (TagReader.importNames file t n).Rereads (TagReader.importNames file t' n) := by
  induction n with
  | zero =>
    intro env ts macros rest h
    cases ts <;> cases h
  | succ n ih =>
    refine rereads_bind _ fun found => ?_
    dsimp only
    cases t.macro? found.1 with
    | none =>
      rintro env ts _ _ ⟨⟩
    | some m =>
      cases t'.macro? found.1 with
      | none => exact fun env ts a rest _ => .inr ⟨_, _, rfl, fun _ => by simp⟩
      | some m' =>
        refine rereads_bind _ fun renamed => ?_
        cases renamed with
        | none => exact rereads_afterImport _ m m' ih
        | some _ => exact rereads_bind _ fun target => rereads_afterImport target.1 m m' ih

/-- What is read again in the same way uses the same tokens. -/
theorem uses_rereads {close : Position} {ts : List Token} {r r' : Arguments α} (h : r.Rereads r') :
    Uses g before (Drafting.arguments close ts r) (Drafting.arguments close ts r') Prod.snd := by
  intro d d' hd found hfound
  let env : Surroundings :=
    ⟨g.scope.catalog.filters, close, g.scope.settings.maxExpressionDepth⟩
  have hrun (r : Arguments α) (d : Draft) : Drafting.arguments close ts r g.scope d =
      (Halt.ofExcept (r env ts) : Drafting (α × List Token)) g.scope d := rfl
  have hrun' : Drafting.arguments close ts r' g.scope' d' =
      (Halt.ofExcept (r' env ts) : Drafting (α × List Token)) g.scope' d' := by
    unfold Drafting.arguments
    change (Halt.ofExcept (r' ⟨g.scope'.catalog.filters, _, _⟩ ts) : Drafting _) g.scope' d' = _
    rw [g.catalog, g.settings]
  rw [hrun] at hfound ⊢
  rw [hrun']
  cases hr : r env ts with
  | error e =>
    rw [hr] at hfound
    cases hfound
  | ok left =>
    rw [hr] at hfound
    cases hfound
    refine ⟨[], rfl, fun _ => .refl d, ?_⟩
    obtain ⟨a', hr'⟩ | ⟨p, fault, hr', hfault⟩ := h env ts _ _ hr
    · rw [hr']
      exact .ok rfl hd.tokens
    · rw [hr']
      exact .noted (not_quiet_append hbefore []) (not_cramped_atPosition hfault)

/-- The macros that `t` exports are imported where those of `t'` are, or some are missing there. -/
theorem uses_imports (close : Position) (file : String) (t t' : Template) (ts : List Token) :
    Uses g before
      (do
        let (macros, rest) ← Drafting.arguments close ts do
          TagReader.importNames file t ((← Arguments.left) + 1)
        pure (Statement.imports macros, rest))
      (do
        let (macros, rest) ← Drafting.arguments close ts do
          TagReader.importNames file t' ((← Arguments.left) + 1)
        pure (Statement.imports macros, rest)) Prod.snd := by
  have hnames := rereads_bind Arguments.left fun n => rereads_importNames file t t' (n + 1)
  exact uses_bind (uses_rereads hbefore hnames) fun _ _ _ h => uses_pure h

theorem uses_importing : Uses g before (TagReader.importing s)
    (TagReader.importing { s with wrap }) Prod.snd := by
  refine uses_same_bind uses_arguments fun found used => ?_
  have hbefore := not_quiet_append hbefore used
  refine uses_bind (uses_load hbefore _ _) fun loaded loaded' used' _ => ?_
  have hbefore := not_quiet_append hbefore used'
  cases loaded with
  | none => exact uses_refuse _ _ _
  | some t =>
    have himports (t' : Template) := uses_imports hbefore s.close found.1.1 t t' found.2
    cases loaded' with
    | none =>
      intro d d' hd
      exact (himports t d d' hd).refused hbefore rfl (not_cramped_atPosition fun _ => by simp)
    | some t' => exact himports t'

end Noting

/-! ### Includes -/

/-- An include that names its template by a literal loads it, unless the template may be missing. -/
theorem uses_including
    (hlater : g.scope.catalog.Quiet before → IncludesLater s.args) :
    Uses g before (TagReader.including s) (TagReader.including { s with wrap }) Prod.snd := by
  intro d d' hd
  refine usesAt_bind_of hd (uses_arguments d d' hd) fun found found' used hfound h => ?_
  obtain rfl : found' = found := h
  obtain ⟨env, hread⟩ := exists_of_arguments hfound
  dsimp only
  split
  · rename_i hliteral hifExists
    have hbefore : ¬g.scope.catalog.Quiet (before ++ used) := fun hquiet => by
      rcases hlater hquiet.of_append env _ _ hread with hnone | htrue
      · exact nomatch hnone.symm.trans hliteral
      · exact nomatch htrue.symm.trans hifExists
    refine uses_bind (uses_load hbefore _ _) fun loaded loaded' _ _ => ?_
    cases loaded <;> cases loaded' <;> exact uses_read_bind (uses_pure rfl)
  · exact uses_read_bind (uses_pure rfl)

/-! ### Macros -/

/-- What `r` gives satisfies `A` only if one of the tokens is the keyword. -/
def Arguments.Shows {α : Type} (k : Keyword) (r : Arguments α) (A : α → Prop) : Prop :=
  ∀ env ts a rest, r env ts = .ok (a, rest) → A a → Lexeme.keyword k ∈ ts.map Token.lexeme

theorem shows_bind {k : Keyword} {r : Arguments α} {f : α → Arguments β} {B : β → Prop}
    (hr : r.Shortens) (hf : ∀ a, (f a).Shows k B) : (r >>= f).Shows k B := by
  intro env ts b rest h hb
  rw [arguments_bind] at h
  split at h
  · rename_i a middle hmiddle
    exact List.map_subset _ (hr env ts a middle hmiddle) (hf a env middle b rest h hb)
  · cases h

theorem shows_keyword?_bind {k : Keyword} {f : Option Token → α} {A : α → Prop}
    (hf : ¬A (f none)) : Arguments.Shows k (do pure (f (← Arguments.keyword? k))) A := by
  intro env ts a rest h ha
  rw [arguments_bind] at h
  cases ts with
  | nil =>
    cases h
    exact absurd ha hf
  | cons t ts =>
    unfold Arguments.keyword? Arguments.takeIf at h
    rw [arguments_bind] at h
    dsimp only at h
    by_cases ht : t.lexeme = .keyword k
    · exact List.mem_cons.mpr (.inl ht.symm)
    · rw [if_neg ht] at h
      cases h
      exact absurd ha hf

theorem shortens_parameters (name : String) (n : Nat) :
    (TagReader.parameters name n []).Shortens :=
  Arguments.Gives.shortens fun _ =>
    (gives_parameters (g := ⟨{}, { nesting := 0 }, [], fun _ => True, fun _ => True⟩)
      (fun _ _ _ _ _ => trivial) name n [] nofun).imp fun _ _ => trivial

include hwrap in
theorem uses_define (hargs : g.scope.catalog.Quiet before →
    Lexeme.keyword .kwExport ∉ s.args.map Token.lexeme) :
    Uses g before (TagReader.define s) (TagReader.define { s with wrap }) Prod.snd := by
  intro d d' hd
  refine usesAt_bind_of hd (uses_arguments d d' hd) fun found found' used hfound h => ?_
  obtain rfl : found' = found := h
  refine uses_bind (uses_bodyUpTo hwrap _) fun body body' used' _ => ?_
  refine uses_ite (fun hexported => ?_) fun _ => uses_pure rfl
  refine uses_bind (uses_registerMacro (fun hquiet => ?_) _ _ _) fun _ _ _ _ => uses_pure rfl
  refine hargs hquiet.of_append.of_append ?_
  obtain ⟨env, hr⟩ := exists_of_arguments hfound
  refine (?_ : Arguments.Shows .kwExport _ fun a : String × List (String × Option Expr) × Bool =>
    a.2.2 = true) env s.args found'.1 found'.2 hr hexported
  refine shows_bind (Arguments.Gives.shortens fun _ => gives_identifier) fun name => ?_
  refine shows_bind (Arguments.Gives.shortens fun _ => (gives_symbol _).imp fun _ _ => trivial)
    fun _ => ?_
  refine shows_bind (Arguments.Gives.shortens fun _ => gives_symbol? _) fun close => ?_
  cases close with
  | some _ =>
    refine shows_bind (Arguments.Gives.shortens fun _ => gives_pure trivial) fun params => ?_
    exact shows_keyword?_bind Bool.false_ne_true
  | none =>
    refine shows_bind (Arguments.Gives.shortens fun _ => gives_left) fun n => ?_
    exact shows_bind (shortens_parameters _ _) fun params =>
      shows_keyword?_bind Bool.false_ne_true

/-! ### All tags -/

include hwrap in
/-- A built-in tag uses up tokens, and if it notes nothing, it does so where they are quiet. -/
theorem uses_builtin {tag : Tag} (htag : g.scope.catalog.Quiet before → tag.notes = false)
    (hlater : g.scope.catalog.Quiet before → tag = .including → IncludesLater s.args)
    (hargs : g.scope.catalog.Quiet before → Lexeme.keyword .kwExport ∉ s.args.map Token.lexeme) :
    Uses g before (TagReader.builtin tag s) (TagReader.builtin tag { s with wrap }) Prod.snd := by
  cases tag with
  | branch =>
    refine uses_same_bind uses_arguments fun found _ => uses_get_bind fun d d' hd => ?_
    rw [hd.tokens]
    exact usesAt_bind hd (uses_branches hwrap _ _ d d' hd) fun _ _ _ _ => uses_pure rfl
  | compareEqual | compareUnequal | loop =>
    exact uses_same_bind uses_arguments fun _ _ =>
      uses_bind (uses_bodies hwrap _ _) fun _ _ _ _ => uses_pure rfl
  | block => exact uses_block hwrap fun hquiet => nomatch htag hquiet
  | extending => exact uses_extending fun hquiet => nomatch htag hquiet
  | including => exact uses_including fun hquiet => hlater hquiet rfl
  | importing => exact uses_importing fun hquiet => nomatch htag hquiet
  | define => exact uses_define hwrap hargs
  | cycle | firstOf | assign | now | templatetag | widthratio =>
    exact uses_same_bind uses_arguments fun _ _ => uses_pure rfl
  | bind | autoescape | filtering =>
    exact uses_same_bind uses_arguments fun _ _ =>
      uses_bind (uses_bodyUpTo hwrap _) fun _ _ _ _ => uses_pure rfl
  | spaceless | comment =>
    exact uses_bind (uses_bodyUpTo hwrap _) fun _ _ _ _ => uses_pure rfl

include hwrap in
theorem uses_custom (tag : CustomTag) :
    Uses g before (TagReader.custom tag s) (TagReader.custom tag { s with wrap }) Prod.snd := by
  refine uses_same_bind uses_arguments fun found _ => ?_
  have hbuilt (before : List Token) (parts parts' : List (Body × Token)) : Uses g before
      (do
        let scope ← read
        pure (Statement.custom (tag.build
          { template := scope.name, name := s.start, value := found.1.1, tokens := found.1.2
            sections := parts }), found.2))
      (do
        let scope ← read
        pure (Statement.custom (tag.build
          { template := scope.name, name := s.start, value := found.1.1, tokens := found.1.2
            sections := parts' }), found.2)) Prod.snd := uses_read_bind (uses_pure rfl)
  dsimp only
  split
  · exact uses_bind (v := fun _ => ()) (uses_pure rfl) fun _ _ _ _ => hbuilt _ _ _
  · refine uses_get_bind fun d d' hd => ?_
    rw [hd.tokens]
    exact usesAt_bind hd (uses_sections hwrap _ _ d d' hd) fun _ _ _ _ => hbuilt _ _ _

include hwrap in
theorem uses_ofRef {ref : TagRef}
    (htag : g.scope.catalog.Quiet before → ∀ tag, ref = .builtin tag → tag.notes = false)
    (hlater : g.scope.catalog.Quiet before → ref = .builtin .including → IncludesLater s.args)
    (hargs : g.scope.catalog.Quiet before → Lexeme.keyword .kwExport ∉ s.args.map Token.lexeme) :
    Uses g before (TagReader.ofRef ref s) (TagReader.ofRef ref { s with wrap }) Prod.snd := by
  cases ref with
  | builtin tag =>
    exact uses_builtin hwrap (fun hquiet => htag hquiet tag rfl)
      (fun hquiet htag => hlater hquiet (congrArg TagRef.builtin htag)) hargs
  | custom tag => exact uses_custom hwrap tag

end Tags

end Stencil
