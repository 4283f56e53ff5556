import Stencil.Proofs.Alike.Same
import Stencil.Proofs.Settled
import Stencil.Proofs.Twins.Nodes
import Stencil.Proofs.Writing.Grammar

/-!
# Templates named by a literal and by a variable

Where one source includes or extends a template that it names by a literal, the other one may name
it by a variable. The first one is then linked to the template, and the second one looks it up
later; if the template cannot be compiled, neither can the first one.
-/

namespace Stencil

section Spots

open Drafting Arguments

/-- Behind the name in an include it is not said that the template may be missing. -/
def Demanded (rest : List Token) : Prop :=
  ∀ env found left, TagReader.includeWords rest.length ([], false, false) env rest =
    .ok (found, left) → found.2.2 = false

/-- Arguments of a tag that names the template `x` by a literal, and the same ones where the
variable `v` stands in its place. -/
inductive Renamed (x v : String) : Tag → List Token → List Token → Prop
  | including {t t' rest rest'} : t.lexeme = .string x → t'.lexeme = .identifier v →
    SayAlike rest rest' → Followed (Loose .disjunction) rest → Demanded rest →
    Renamed x v .including (t :: rest) (t' :: rest')
  | extending {t t'} : t.lexeme = .string x → t'.lexeme = .identifier v →
    Renamed x v .extending [t] [t']

variable {x v : String}

/-- The literal and the variable are read in one way. -/
theorem expression_renamed {t t' : Token} {rest rest' : List Token} (ht : t.lexeme = .string x)
    (ht' : t'.lexeme = .identifier v) (hrest : SayAlike rest rest')
    (hloose : Followed (Loose .disjunction) rest) {env env' : Surroundings}
    (henv : env.Alike env') :
    EndAlike Error.SameKind
      (fun a a' => a = (.literal (.string x), rest) ∧ ∃ p, a' = (.path v [] p, rest'))
      (Arguments.expression env (t :: rest)) (Arguments.expression env' (t' :: rest')) := by
  have hloose' : Followed (Loose .disjunction) rest' := by
    cases hrest with
    | nil => exact .nil
    | cons h _ => exact .cons (h ▸ hloose _ rfl) _
  rcases Nat.eq_zero_or_pos env.depthLimit with hdepth | hdepth
  · have hfail (env : Surroundings) (hdepth : env.depthLimit = 0) (t : Token) (ts : List Token) :
        ∃ e, Arguments.expression env (t :: ts) = .error e ∧ e.isLoader = false := by
      obtain ⟨filters, close, _⟩ := env
      cases hdepth
      exact ⟨_, rfl, rfl⟩
    obtain ⟨e, he, hkind⟩ := hfail env hdepth t rest
    obtain ⟨e', he', hkind'⟩ := hfail env' (henv.depthLimit ▸ hdepth) t' rest'
    rw [he, he']
    exact .error (hkind.trans hkind'.symm)
  · have hliteral : (Expr.literal (.string x)).Plain env.filters := .literal (.string x)
    have hpath : (Expr.path v [] default).Plain env'.filters := .path (List.forall_mem_nil _)
    obtain ⟨e, he, hlike⟩ := takes_expression hliteral hdepth [t] rest
      (congrArg (fun l => [l]) ht) hloose
    obtain ⟨e', he', hlike'⟩ := takes_expression hpath (henv.depthLimit ▸ hdepth) [t'] rest'
      (congrArg (fun l => [l]) ht') hloose'
    rw [List.singleton_append] at he he'
    rw [he, he']
    refine .ok ⟨?_, ?_⟩
    · cases e <;> cases hlike
      rfl
    · cases e' with
      | path name segments p =>
        obtain ⟨rfl, hsegments, -⟩ := Expr.path.inj hlike'
        cases segments with
        | nil => exact ⟨p, rfl⟩
        | cons => cases hsegments
      | _ => cases hlike'

theorem arguments_left_bind {α : Type} (f : Nat → Arguments α) (env : Surroundings)
    (ts : List Token) : (left >>= f) env ts = f ts.length env ts := rfl

/-- The template that the name `x` leads to can be linked, or the first reading is lost. -/
def Twinning.Links (g : Twinning) (scope : DraftScope) (x v : String) : Prop :=
  ∀ l l', g.library l l' → g.library ((scope.load x).run l).2 l' ∧
    ((∃ t, ((scope.load x).run l).1 = .ok (some t) ∧
        (∀ p, g.likeness.included g.base t (.path v [] p)) ∧
        ∀ p p', g.likeness.extended g.base t (.path v [] p) p') ∨
      (∀ h, g.lost h) ∧ ∃ h, ((scope.load x).run l).1 = .error h)

section Readers

variable {g : Twinning} {scope scope' : DraftScope} {α α' : Type} {A : α → α' → Prop}
  (hlinks : g.Links scope x v)

include hlinks in
/-- The first reading loads the template, and the second one does not. -/
theorem twins_link_bind (t : Token) {k : Option Template → Drafting α} {m' : Drafting α'}
    (hk : ∀ u, (∀ p, g.likeness.included g.base u (.path v [] p)) →
      (∀ p p', g.likeness.extended g.base u (.path v [] p) p') →
        Drafting.Twins g scope scope' (k (some u)) m' A) :
    Drafting.Twins g scope scope' (Drafting.load x t >>= k) m' A := by
  intro d d' hd _
  obtain ⟨hleft, hresult⟩ := hlinks d.library d'.library hd.library
  rw [run_bind, run_load]
  rcases hresult with ⟨u, hu, hincluded, hextended⟩ | ⟨hlost, h, hh⟩
  · rw [hu]
    exact hk u hincluded hextended _ _ { hd with library := hleft } hleft
  · rw [hh]
    rcases h with e | _
    · dsimp only
      cases e.isLoader <;> exact .lost (hlost _)
    · exact .lost (hlost _)

section Tags

variable {s s' : TagScope} (hL : g.likeness.Placeless) (hscope : scope.Alike g scope')
include hscope hlinks

include hL in
theorem twins_including_renamed
    (hs : s.Alike g scope scope' (Renamed x v .including) s') :
    TagReader.Twins g scope scope' (TagReader.including s) (TagReader.including s') := by
  obtain ⟨start, args, close, top, wrap⟩ := s
  obtain ⟨start', args', close', top', wrap'⟩ := s'
  cases hs.args with
  | @including t t' rest rest' ht ht' hrest hloose hdemanded =>
    refine twins_bind (twins_arguments_at hscope (R := fun a a' => a.1.1 = .literal (.string x) ∧
      (∃ p, a'.1.1 = .path v [] p) ∧ IncludeWordsAlike g.likeness a.1.2 a'.1.2 ∧
        a.1.2.2.2 = false ∧ SayAlike a.2 a'.2) fun env env' henv => ?_) ?_
    · have hread := expression_renamed ht ht' hrest hloose henv
      rw [arguments_bind, arguments_bind]
      generalize Arguments.expression env (t :: rest) = found at hread ⊢
      generalize Arguments.expression env' (t' :: rest') = found' at hread ⊢
      cases hread with
      | error he => exact .error he
      | ok h =>
        obtain ⟨rfl, p, rfl⟩ := h
        have hnone : IncludeWordsAlike g.likeness ([], false, false) ([], false, false) :=
          ⟨.nil, rfl⟩
        have hwords := pairs_includeWords hL rest.length hnone env env' rest rest' henv hrest
        have hflag := hdemanded env
        dsimp only
        rw [arguments_left_bind, arguments_left_bind, ← hrest.length_eq, arguments_bind,
          arguments_bind]
        generalize TagReader.includeWords rest.length _ env rest = words at hwords hflag ⊢
        generalize TagReader.includeWords rest.length _ env' rest' = words' at hwords ⊢
        cases hwords with
        | error he => exact .error he
        | ok h => exact .ok ⟨rfl, ⟨p, rfl⟩, h.1, hflag _ _ rfl, h.2⟩
    · rintro ⟨⟨_, bindings, only, _⟩, left⟩ ⟨⟨_, bindings', words'⟩, left'⟩
        ⟨rfl, ⟨p, rfl⟩, hwords, rfl, hleft⟩
      refine twins_link_bind hlinks start fun u hincluded _ => ?_
      exact twins_includes hscope (.loose (hincluded p)) hwords hleft

theorem twins_extending_renamed
    (hs : s.Alike g scope scope' (Renamed x v .extending) s') :
    TagReader.Twins g scope scope' (TagReader.extending s) (TagReader.extending s') := by
  obtain ⟨start, args, close, top, wrap⟩ := s
  obtain ⟨start', args', close', top', wrap'⟩ := s'
  cases hs.args with
  | @extending t t' ht ht' =>
    refine fun d d' hd => twinsAt_get_bind ?_
    rw [isSome_eq hd.parent, hd.seenContent, hs.top]
    refine twinsAt_ite (fun _ => twinsAt_refuse_bind _ _ _ _) fun _ => ?_
    refine twinsAt_ite (fun _ => twinsAt_refuse_bind _ _ _ _) fun _ => ?_
    refine twinsAt_bind (twins_arguments_at hscope (fun _ _ => expression_renamed ht ht' .nil .nil)
      d d' hd) ?_
    rintro _ _ ⟨rfl, p, rfl⟩
    refine twins_link_bind hlinks start fun u _ hextended => ?_
    exact twins_parent (.loose (hextended p _)) .nil

end Tags

end Readers

end Spots

/-!
## Sets that differ in how a template is named

Two sets may differ in one source, in which the first one names a template by a literal where the
second one names it by a variable. If the template of that source can be compiled in the first set,
then every name leads to templates that are alike in both sets, or to none in both
(`answers_alike`).
-/

section Sets

open Drafting Library

/-- The likeness by which all but positions is equal, and the variable `v` may stand for the
template that the name `x` leads to. -/
def Likeness.naming (l : Library) (x v : String) : Likeness :=
  { Likeness.same with
    position := fun _ _ => True
    error := Error.SameKind
    included := fun _ t e => l.answer x = .ok (some t) ∧ ∃ p, e = .path v [] p
    extended := fun _ t e _ => l.answer x = .ok (some t) ∧ ∃ p, e = .path v [] p }

/-- Trees are alike if the variable `v` stands in one of them where a template is linked in the
other one. -/
def Library.naming (l : Library) (x v : String) : Likeness := (Likeness.naming l x v).widest

/-- The set `l'` opens what the set `l` opens, but in the source at `path` the variable `v` may
stand in place of the literal `x`. -/
structure Library.Renames (l : Library) (path x v : String) (l' : Library) : Prop where
  settings : l.settings = l'.settings
  catalog : l.catalog = l'.catalog
  opens : ∀ name, EndAlike Error.SameKind
    (fun o o' => o.1 = o'.1 ∧
      EndAlike Error.SameKind
        (Reworded fun tag args args' => o.1 = path ∧ Renamed x v tag args args')
        (Token.tokenize l.settings.trimming o.1 o.2) (Token.tokenize l.settings.trimming o.1 o'.2))
    (l.open? none name) (l'.open? none name)

variable {l l' : Library} {path x v : String}

/-! ### Trees -/

theorem same_le_naming : Likeness.same.Le (Likeness.naming l x v) where
  name _ := id
  position _ _ _ := trivial
  expr _ _ := id
  body _ _ := id
  callee _ _ := id
  template _ _ := id
  value _ _ := id
  included _ _ _ := False.elim
  extended _ _ _ _ := False.elim

theorem naming_unfolds : (Likeness.naming l x v).Unfolds where
  expr := by
    rintro e _ rfl
    exact e.congruent_same.mono same_le_naming.toLeExpr
  body := by
    rintro nodes _ rfl
    exact forall₂_refl (fun n => n.congruent_same.mono same_le_naming) nodes
  callee := by
    rintro m _ rfl
    exact m.congruent_same.mono same_le_naming
  template := by
    rintro t _ rfl
    exact t.congruent_same.mono same_le_naming
  value h := (Value.congruent_same.mp h).mono same_le_naming

/-- Trees that are equal are alike. -/
theorem naming_le (l : Library) (x v : String) : (Likeness.naming l x v).Le (l.naming x v) :=
  @Likeness.withTrees_le_widest (.naming l x v) ⟨Eq, Eq, Eq, Eq, Eq⟩ naming_unfolds

theorem placeless_naming (l : Library) (x v : String) : (l.naming x v).Placeless where
  toFolds := (Likeness.naming l x v).widest_folds
  name _ := trivial
  position _ _ := trivial
  literal h := by
    cases (Likeness.naming l x v).widest_unfolds.expr h <;> rfl

/-! ### Answers -/

section Answers

variable {rank : String → Nat} {enough enough' : Nat → List String → Prop}
  (hl : l.Orderly rank enough)

/-- How the source at `base` is read in two sets of which one names a template by a variable. -/
def Library.twinning (l : Library) (path x v base source : String) : Twinning where
  likeness := l.naming x v
  base := base
  name := (l.answers base source).name
  spot tag args args' := base = path ∧ Renamed x v tag args args'
  library a a' := a.settings = a'.settings
  settings := id
  counts h _ _ _ _ := h
  lost _ := base = path ∧ ∀ t, l.answer x ≠ .ok (some t)

include hl in
/-- A set that keeps nothing finds a template or fails. -/
theorem answer_ne_none (name : String) : l.answer name ≠ .ok none := by
  obtain ⟨fuel, hfuel⟩ := hl.exists_depth
  rw [answer_eq hl.cache hfuel]
  cases l.open? none name with
  | error => nofun
  | ok opened =>
    obtain ⟨p, source⟩ := opened
    dsimp only
    cases (compileWith (link fuel) p source [p] l).1 <;> nofun

include hl in
theorem links_naming {p source : String} (hpath : p = path) :
    (l.twinning path x v p source).Links ((l.answers p source).scope p) x v := by
  refine fun l'' _ hl'' => ⟨hl'', ?_⟩
  have hload : ((((l.answers p source).scope p).load x).run l'').1 = l.answer x := rfl
  rw [hload]
  cases hanswer : l.answer x with
  | error h => exact .inr ⟨fun _ => ⟨hpath, fun t => hanswer ▸ nofun⟩, h, rfl⟩
  | ok found =>
    cases found with
    | none => exact absurd hanswer (answer_ne_none hl x)
    | some t => exact .inl ⟨t, rfl, fun p => ⟨hanswer, p, rfl⟩, fun p _ => ⟨hanswer, p, rfl⟩⟩

include hl in
/-- Where the variable stands for the literal, the tags are read alike. -/
theorem spotsTwin_naming {p source source' : String}
    (hq : (l.answers p source).Alike (l.twinning path x v p source) (l'.answers p source')) :
    (l.twinning path x v p source).SpotsTwin ((l.answers p source).scope p)
      ((l'.answers p source').scope p) := by
  have hL := placeless_naming l x v
  have hscope := hq.scope
  rintro tag ref s s' href hs
  obtain ⟨tag', rfl, hname⟩ := hl.builtin.tags tag.name ref href
  cases Tag.eq_of_name_eq hname
  obtain ⟨hpath, hargs⟩ := hs.args
  have hlinks : (l.twinning path x v p source).Links ((l.answers p source).scope p) x v :=
    links_naming hl hpath
  cases tag with
  | including => exact twins_including_renamed hlinks hL hscope { hs with args := hargs }
  | extending => exact twins_extending_renamed hlinks hscope { hs with args := hargs }
  | _ => cases hargs

variable (hl' : l'.Orderly rank enough') (hrenames : l.Renames path x v l')
  (hpath : ∀ name source, l.open? none name = .ok (path, source) →
    ∃ t, l.answer name = .ok (some t))
include hl hl' hrenames hpath

/-- A name leads to templates that are alike if all names in them do. -/
theorem answers_alike_of_names {name : String}
    (hnames : ∀ p source, l.open? none name = .ok (p, source) →
      ∀ other, (l.answers p source).name other →
        EndAlike (Halt.Alike Error.SameKind) (Option.Rel (Template.Twins (l.naming x v)))
          (l.answer other) (l'.answer other)) :
    EndAlike (Halt.Alike Error.SameKind) (Option.Rel (Template.Twins (l.naming x v)))
      (l.answer name) (l'.answer name) := by
  have hopens := hrenames.opens name
  have hanswer {p source : String} : l.open? none name = .ok (p, source) →
      l.answer name = ((l.answers p source).template p source).map some :=
    answer_eq_template hl fun other _ => decided hl other
  have hanswer' {p source : String} : l'.open? none name = .ok (p, source) →
      l'.answer name = ((l'.answers p source).template p source).map some :=
    answer_eq_template hl' fun other _ => decided hl' other
  cases hopen : l.open? none name <;> cases hopen' : l'.open? none name <;>
    rw [hopen, hopen'] at hopens <;> cases hopens
  · rename_i he
    obtain ⟨fuel, hfuel⟩ := hl.exists_depth
    obtain ⟨fuel', hfuel'⟩ := hl'.exists_depth
    rw [answer_eq hl.cache hfuel, answer_eq hl'.cache hfuel', hopen, hopen']
    exact .error (.error he)
  · rename_i opened opened' hsame
    obtain ⟨p, source⟩ := opened
    obtain ⟨_, source'⟩ := opened'
    obtain ⟨rfl, htokens⟩ := hsame
    have hq : (l.answers p source).Alike (l.twinning path x v p source) (l'.answers p source') :=
      ⟨hrenames.catalog, hrenames.settings, hl.builtin.uniform, hnames p source hopen⟩
    have hread : EndAlike Error.SameKind (Recast (l.twinning path x v p source).toRewording)
        (Token.tokenize (l.answers p source).library.settings.trimming p source)
        (Token.tokenize (l'.answers p source').library.settings.trimming p source') :=
      hrenames.settings ▸ htokens
    rcases twins_template (placeless_naming l x v) hq hrenames.settings (spotsTwin_naming hl hq)
      (fun _ _ _ _ _ _ _ _ _ _ _ _ _ _ _ _ _ hvoid => hvoid.elim) hread
      (fun tokens htokens s hs => ⟨tokens, htokens, hs⟩) with h | ⟨h, ⟨hp, -⟩, hh⟩
    · rw [hanswer hopen, hanswer' hopen']
      exact h.map fun _ _ => .some
    · obtain ⟨t, ht⟩ := hpath name source (hp ▸ hopen)
      rw [hanswer hopen] at ht
      exact nomatch hh ▸ ht

/-- Every name leads to templates that are alike, or to none in both sets. -/
theorem answers_alike (name : String) :
    EndAlike (Halt.Alike Error.SameKind) (Option.Rel (Template.Twins (l.naming x v)))
      (l.answer name) (l'.answer name) :=
  forall_name_of_names hl (fun _ => answers_alike_of_names hl hl' hrenames hpath) name

end Answers

end Sets

end Stencil
