import Stencil.Proofs.Within.Involved

/-!
# Where errors are

An error of a render has a position as soon as a node is executed. A position is that of a token of
a template that takes part in the render, and the line that a set shows for it is looked up by name.
-/

namespace Stencil

/-!
## Where the errors of a render are

Nodes give their position to what fails in them, so an error of a render has one as soon as a node
is executed. Before that the ancestors of the template are looked for, where three errors get none:
the set is gone, the ancestors go round in a circle, or there are too many (`located_of_execute`). A
position is that of a token of a template that takes part in the render.
-/

section Located

/-- The faults in looking for ancestors that no position is given to. -/
inductive RunFault.OfChain : RunFault → Prop where
  | noSet : OfChain .noSet
  | cyclic (name parent : String) : OfChain (.cyclicInheritance name parent)
  | long (name : String) (limit : Nat) : OfChain (.longChain name limit)

/-- If `r` ends with an error of a render that has no position, then `F` holds for its fault, and it
has no cause. -/
def Render.Locates {α : Type} (host : Host) (r : Render α) (F : RunFault → Prop) : Prop :=
  ∀ s fault cause, (r host s).1 = .error (.error (.execution none fault cause)) →
    cause = none ∧ F fault

open Render

variable {host : Host} {α β : Type} {r : Render α} {F : RunFault → Prop}

/-! ### Rules -/

theorem locates_pure (a : α) : Locates host (pure a) F := nofun

theorem locates_bind {f : α → Render β} (hr : Locates host r F) (hf : ∀ a, Locates host (f a) F) :
    Locates host (r >>= f) F := by
  intro s fault cause h
  rw [run_bind] at h
  split at h
  · exact hf _ _ fault cause h
  · rename_i hend
    cases h
    exact hr s fault cause hend

theorem locates_get_bind {f : State → Render α} (hf : ∀ s, Locates host (f s) F) :
    Locates host (get >>= f) F := fun s => hf s s

theorem locates_fail {fault : RunFault} (h : F fault) : Locates host (fail fault : Render α) F := by
  rintro s _ _ ⟨⟩
  exact ⟨rfl, h⟩

theorem locates_located (p : Position) (r : Render α) : Locates host (located p r) F := by
  intro s fault cause h
  unfold located at h
  generalize r host s = result at h
  rcases result with ⟨(e | _) | _, t⟩
  · cases e with
    | execution position => cases position <;> cases h
    | _ => cases h
  · cases h
  · cases h

theorem locates_write (text : String) : Locates host (write text) F := by
  intro s fault cause h
  unfold write at h
  dsimp only at h
  split at h
  · cases h
  · generalize s.out = out at h
    cases out <;> cases h

/-! ### Nodes -/

/-- What fails in a node is located. -/
theorem locates_exec (j : Jumps) (n : Node) : Locates host (n.exec j) F := by
  cases n with
  | text s => exact locates_write s
  | output p e => exact locates_located p _
  | tag name p statement => exact locates_located p _

theorem locates_execNodes (j : Jumps) (nodes : List Node) :
    Locates host (execNodes j nodes) F := by
  induction nodes with
  | nil => exact locates_pure ()
  | cons n nodes ih => exact locates_bind (locates_exec j n) fun _ => ih

theorem locates_run (fuel : Nat) (nodes : Body) :
    Locates host ((Jumps.upTo fuel).run nodes) F := by
  cases fuel with
  | zero => exact nofun
  | succ fuel => exact locates_execNodes (.upTo fuel) nodes

/-! ### Ancestors -/

theorem locates_parent (j : Jumps) (t : Template) :
    Locates host (t.parent? j) RunFault.OfChain := by
  unfold Template.parent?
  match t.parent with
  | none => exact locates_pure none
  | some (.linked parent) => exact locates_pure (some parent)
  | some (.named e p) =>
    refine locates_bind (locates_located p _) fun name => locates_bind ?_ fun _ =>
      locates_located p _
    refine locates_get_bind fun s => ?_
    split
    · exact locates_fail .noSet
    · exact locates_pure ()

theorem locates_ancestry (j : Jumps) (youngest : Template) (limit room : Nat) (oldest : Template)
    (chain : List Template) :
    Locates host (ancestry j youngest limit room oldest chain) RunFault.OfChain := by
  induction room generalizing oldest chain with
  | zero =>
    unfold ancestry
    refine locates_bind (locates_parent j oldest) fun parent => ?_
    cases parent with
    | none => exact locates_pure chain
    | some parent =>
      dsimp only
      split
      · exact locates_fail (.cyclic _ _)
      · exact locates_fail (.long _ _)
  | succ room ih =>
    unfold ancestry
    refine locates_bind (locates_parent j oldest) fun parent => ?_
    cases parent with
    | none => exact locates_pure chain
    | some parent =>
      dsimp only
      split
      · exact locates_fail (.cyclic _ _)
      · exact ih parent (parent :: chain)

theorem locates_chain (j : Jumps) (t : Template) : Locates host (t.chain j) RunFault.OfChain :=
  locates_get_bind fun s => locates_ancestry j t s.recursionLimit _ t [t]

/-- An error of a render that has no position is one of looking for the ancestors. -/
theorem chain_of_unlocated {fuel : Nat} {t : Template} {s : State} {fault : RunFault}
    {cause : Option Error}
    (h : (t.render (.upTo fuel) host s).1 = .error (.error (.execution none fault cause))) :
    fault.OfChain ∧ cause = none ∧
      (t.chain (.upTo fuel) host s).1 = .error (.error (.run fault)) := by
  -- Behind the chain only nodes are run, and what fails in them is located.
  have hrun (chain : List Template) (nodes : Body) :
      Locates host (withChain chain ((Jumps.upTo fuel).run nodes)) fun _ => False :=
    fun s => locates_run fuel nodes { s with chain }
  unfold Template.render at h
  rw [run_bind] at h
  split at h
  · rename_i chain _
    cases chain with
    | nil => cases h
    | cons oldest younger => exact (hrun _ oldest.nodes _ fault cause h).2.elim
  · rename_i hchain
    cases h
    obtain ⟨rfl, hfault⟩ := locates_chain (.upTo fuel) t s fault cause hchain
    exact ⟨hfault, rfl, hchain⟩

/-! ### Executions -/

/-- Let a fresh set be asked for templates in any order, and one of those that it gave be executed,
at any time or when the set is gone. If the render fails then at a token of the source of a template
that takes part in it, which is the one that is executed or one that a loader opens, or else in
looking for the ancestors of the template itself: the set is gone, they go round in a circle, or
there are too many of them. -/
theorem located_of_execute {l : Library} (hhonest : ∀ e ∈ l.catalog.tags.entries, e.2.Honest)
    (hcache : l.cache = []) {t : Template} (ht : l.Gives {} t) {set : Option Library}
    (hset : ∀ l' ∈ set, l.Asked {} l') (hmodest : host.Modest) {context : Bindings} {out : Sink}
    (hhost : host.Within ((t.run host set context out).places l) (l.Asked {}))
    (hglobals : Bindings.Within ((t.run host set context out).places l) l.globals)
    (hnames : ∀ e ∈ context, Text.isName e.1.toList = true)
    (hcontext : Bindings.Within ((t.run host set context out).places l) context)
    {position : Option Position} {fault : RunFault} {cause : Option Error}
    (h : (t.execute host set context out).1 = .error (.error (.execution position fault cause))) :
    (∀ p ∈ position, ∃ u, (t.run host set context out).Involves l u ∧
      (u = t ∨ l.Holds u.name u.source) ∧ p.template = u.name ∧
        ∃ tokens, Token.tokenize l.settings.trimming u.name u.source = .ok tokens ∧
          ∃ token ∈ tokens, token.position = p) ∧
    (position = none → fault.OfChain ∧ cause = none ∧
      (t.chain (.upTo jumpDepth) host (.start set context t.options out)).1 =
        .error (.error (.run fault))) := by
  constructor
  · intro p hp
    have hfair : (t.run host set context out).Fair l :=
      ⟨hhonest, hcache, within_own_of_gives hhonest hcache ht, hmodest, hhost⟩
    have hsets l' (hl' : l' ∈ set) : l.Asked {} l' ∧
        Bindings.Within ((t.run host set context out).places l) l'.globals :=
      ⟨hset l' hl', (loads_bans_of_asked hhonest hcache (hset l' hl')).globals ▸ hglobals⟩
    have hends := places_of_execute hfair hsets hcontext
    obtain ⟨u, hinvolved, hheld, tokens, hread, token, htoken, rfl⟩ := hends.of_eq_error h p hp
    exact ⟨u, hinvolved, hheld, (Token.standsIn_of_tokenize hread token htoken).1, tokens, hread,
      token, htoken, rfl⟩
  · rintro rfl
    unfold Template.execute at h
    dsimp only at h
    split at h
    · rename_i hrefused
      obtain ⟨e, he, hname, -⟩ := exists_of_checkNames hrefused
      rw [hnames e he] at hname
      cases hname
    · exact chain_of_unlocated h

/-- What is compiled from a text is executed at once; the position and the words of its error. -/
def failureOf (l : Library) (name source : String) (context : Bindings) :
    Option (Option Position × String) :=
  let compiled := Library.compile name source l
  compiled.1.toOption.bind fun t =>
    match (t.execute (Host.bare fixedMoment) (some compiled.2) context .empty).1 with
    | .error (.error (.execution position fault none)) => some (position, fault.message)
    | _ => none

theorem exists_of_failureOf {l : Library} {name source message : String} {context : Bindings}
    {position : Option Position} (h : failureOf l name source context = some (position, message)) :
    ∃ t fault, (Library.compile name source l).1 = .ok t ∧ fault.message = message ∧
      (t.execute (Host.bare fixedMoment) (some (Library.compile name source l).2) context
        .empty).1 = .error (.error (.execution position fault none)) := by
  unfold failureOf at h
  dsimp only at h
  cases hcompiled : (Library.compile name source l).1 with
  | error halt =>
    rw [hcompiled] at h
    cases h
  | ok t =>
    rw [hcompiled] at h
    change (match (t.execute _ _ _ _).1 with
      | .error (.error (.execution position fault none)) => some (position, fault.message)
      | _ => none) = _ at h
    split at h <;> cases h
    rename_i hend
    exact ⟨t, _, rfl, rfl, hend⟩

/-- A set with a part that fails. -/
def failingPart : Library := .new {} "set" [.memory [("part", "\x7b\x7b 1 / 0 \x7d\x7d")]]

/-- A page that includes the part fails in it. -/
theorem located_of_execute_part :
    let host := Host.bare fixedMoment
    let l := (Library.compile "page" "\x7b% include \"part\" %\x7d" failingPart).2
    let p : Position := ⟨"part", 1, 6⟩
    ∃ t fault, failingPart.Gives {} t ∧ failingPart.Asked {} l ∧
      host.Within ((t.run host (some l) [] .empty).places failingPart) (failingPart.Asked {}) ∧
      (t.execute host (some l) [] .empty).1 = .error (.error (.execution (some p) fault none)) ∧
      ∃ u, (t.run host (some l) [] .empty).Involves failingPart u ∧
        (u = t ∨ failingPart.Holds u.name u.source) ∧ p.template = u.name ∧
          ∃ tokens, Token.tokenize failingPart.settings.trimming u.name u.source = .ok tokens ∧
            ∃ token ∈ tokens, token.position = p := by
  intro host l p
  have hfails : failureOf failingPart "page" "\x7b% include \"part\" %\x7d" [] =
      some (some p, "division by zero") := by decide +kernel
  obtain ⟨t, fault, ht, -, hend⟩ := exists_of_failureOf hfails
  have hgives : failingPart.Gives {} t := .compile .refl (words_any _ _ _) ht
  have hasked : failingPart.Asked {} l := .compile .refl (words_any _ _ _)
  have hhost : host.Within ((t.run host (some l) [] .empty).places failingPart)
      (failingPart.Asked {}) := within_bare ..
  have hset : ∀ l' ∈ some l, failingPart.Asked {} l' := by
    rintro _ ⟨⟩
    exact hasked
  exact ⟨t, fault, hgives, hasked, hhost, hend,
    (located_of_execute honest_builtin rfl hgives hset (modest_bare _) hhost
      (List.forall_mem_nil _) (List.forall_mem_nil _) (List.forall_mem_nil _) hend).1 p rfl⟩

/-- A template that extends whatever `v` says. -/
def turning : String := "\x7b% extends v %\x7d"

/-- A template that is found again under the name of its parent. The error has no position. -/
theorem not_located_circle :
    Text.isName "v".toList = true ∧
      ∃ t fault,
        (Library.compile "b" turning (.new {} "set" [.memory [("b", turning)]])).1 = .ok t ∧
        fault.message = "cyclic inheritance: 'b' extends 'b'" ∧
        (t.execute (Host.bare fixedMoment)
          (some (Library.compile "b" turning (.new {} "set" [.memory [("b", turning)]])).2)
          [("v", .str "b")] .empty).1 = .error (.error (.execution none fault none)) := by
  have hfails : failureOf (.new {} "set" [.memory [("b", turning)]]) "b" turning
      [("v", .str "b")] = some (none, "cyclic inheritance: 'b' extends 'b'") := by decide +kernel
  exact ⟨by decide +kernel, exists_of_failureOf hfails⟩

end Located

/-!
## The source line of an error

A set shows the line at which an error points by looking its template up once more, by name: in the
cache, and then by opening the name with each loader. That is the line of the text in which the
error is as long as no two texts go by that name (`lineOf?_of_rawLine?`); a text that was handed in
under the name of another one is not found.
-/

section Lines

open Library

/-- The text of the template goes by its name. -/
def Template.Text (t : Template) (name source : String) : Prop := name = t.name ∧ source = t.source

/-- The host makes the fresh set `l` end with the error `e`: when it asks for a template, or when it
executes one that it was given. The texts `handed` are those that it has a hand in: the one that it
wants compiled, and the one that the template was compiled from. -/
inductive Library.Raises (host : Host) (l : Library) : (String → String → Prop) → Error → Prop where
  | compile {l' : Library} {name source : String} {e : Error} (h : l.Asked {} l')
      (he : (Library.compile name source l').1 = .error (.error e)) :
      Raises host l (fun other text => other = name ∧ text = source) e
  | fromFile {l' : Library} {name : String} {e : Error} (h : l.Asked {} l')
      (he : (Library.fromFile name l').1 = .error (.error e)) : Raises host l (fun _ _ => False) e
  | load {l' : Library} {referrer : Option String} {name : String} {e : Error} (h : l.Asked {} l')
      (he : (Library.load referrer name l').1 = .error (.error e)) :
      Raises host l (fun _ _ => False) e
  | execute {t : Template} {set : Option Library} {context : Bindings} {out : Sink} {e : Error}
      (ht : l.Gives {} t) (hset : ∀ l' ∈ set, l.Asked {} l')
      (hcontext : Bindings.Within (l.places t.Text) context)
      (he : (t.execute host set context out).1 = .error (.error e)) : Raises host l t.Text e

variable {host : Host} {l l' : Library} {handed : String → String → Prop} {e : Error} {p : Position}

section Raises

variable (hhonest : ∀ e ∈ l.catalog.tags.entries, e.2.Honest) (hcache : l.cache = [])
include hhonest hcache

/-- An error that a set ends with is in one of its texts. -/
theorem within_of_raises (hmodest : host.Modest)
    (hhost : host.Within (l.places handed) (Library.Within (l.places handed)))
    (hglobals : Bindings.Within (l.places handed) l.globals) (h : l.Raises host handed e) :
    e.Within (l.places handed) := by
  have hstocking := stocking_within (wide_ofTexts l.settings.trimming (l.Texts handed))
  cases h with
  | compile h he =>
    exact Error.Unread.within ((abidesAt_handed hhonest hcache h ⟨rfl, rfl⟩).2.of_eq_error he)
  | fromFile h he =>
    exact Error.Unread.within ((abidesAt_fromFile hstocking (within_places hhonest hcache h)
      _).2.of_eq_error he)
  | load h he =>
    exact Error.Unread.within ((abidesAt_load hstocking (within_places hhonest hcache h)
      _ _).2.of_eq_error he)
  | execute ht hset hcontext he =>
    exact (within_execute_of_gives hhonest hcache ht ⟨rfl, rfl⟩ hset hmodest hhost hglobals hcontext
      _).of_eq_error he

/-- The line that a set shows is one of a text that a loader opens. -/
theorem holds_of_rawLine? (h : l.Asked {} l') (hp : e.position? = some p) {line : String}
    (hline : l'.rawLine? e = some line) :
    ∃ source, l.Holds p.template source ∧ lineOf? source p.line = some line := by
  have hl' := loads_bans_of_asked hhonest hcache h
  unfold rawLine? at hline
  rw [hp, Option.bind_eq_bind, Option.bind_some] at hline
  split at hline
  · -- What is kept under a name was opened under it, for some request.
    rename_i t ht
    obtain ⟨-, _, _, hopen⟩ := opens_of_asked (guarded_of_fresh hhonest hcache) hcache h _
      (Table.mem_of_get? ht)
    exact ⟨t.source, holds_of_open? hopen, hline⟩
  · -- Nothing is kept: a loader opens the name itself, which need not be where it leads to.
    obtain ⟨loader, hloader, hfound⟩ := List.exists_of_findSome?_eq_some hline
    split at hfound
    · rename_i source hopen
      exact ⟨source, ⟨loader, hl'.loaders ▸ hloader, hl'.disk ▸ hopen⟩, hfound⟩
    · cases hfound

/-- Let a fresh set be asked for anything, and let it end with an error that has a position. If no
two texts go by the name of its template, and the set shows a line for it, then or later, that is
the line of the text in which the error is. -/
theorem lineOf?_of_rawLine? (hmodest : host.Modest)
    (hhost : host.Within (l.places handed) (Library.Within (l.places handed)))
    (hglobals : Bindings.Within (l.places handed) l.globals) (he : l.Raises host handed e)
    (hp : e.position? = some p)
    (hunique : ∀ source other, l.Texts handed p.template source → l.Texts handed p.template other →
      source = other)
    (h : l.Asked {} l') {line : String} (hline : l'.rawLine? e = some line) :
    ∃ source, l.Texts handed p.template source ∧ p.StandsIn source ∧
      lineOf? source p.line = some line := by
  obtain ⟨source, htext, hstands⟩ :=
    (within_of_raises hhonest hcache hmodest hhost hglobals he).standsIn hp
  obtain ⟨other, hholds, hshown⟩ := holds_of_rawLine? hhonest hcache h hp hline
  obtain rfl := hunique source other htext (.inr hholds)
  exact ⟨source, htext, hstands, hshown⟩

end Raises

/-- The page that includes the part that fails. -/
def failingPage : String := "\x7b% include \"part\" %\x7d"

/-- The line of the part is shown. -/
theorem lineOf?_of_rawLine?_part :
    let host := Host.bare fixedMoment
    let l := (Library.compile "page" failingPage failingPart).2
    ∃ (t : Template) (e : Error), failingPart.Raises host t.Text e ∧
      e.position? = some ⟨"part", 1, 6⟩ ∧
      host.Within (failingPart.places t.Text) (Library.Within (failingPart.places t.Text)) ∧
      (∀ source other, failingPart.Texts t.Text "part" source →
        failingPart.Texts t.Text "part" other → source = other) ∧
      failingPart.Asked {} l ∧ l.rawLine? e = some "\x7b\x7b 1 / 0 \x7d\x7d" ∧
      ∃ source, failingPart.Texts t.Text "part" source ∧
        Position.StandsIn ⟨"part", 1, 6⟩ source ∧
        lineOf? source 1 = some "\x7b\x7b 1 / 0 \x7d\x7d" := by
  intro host l
  have hfails : failureOf failingPart "page" failingPage [] =
      some (some ⟨"part", 1, 6⟩, "division by zero") := by decide +kernel
  obtain ⟨t, fault, ht, -, hend⟩ := exists_of_failureOf hfails
  have hasked : failingPart.Asked {} l := .compile .refl (words_any _ _ _)
  have hset : ∀ l' ∈ some l, failingPart.Asked {} l' := by
    rintro _ ⟨⟩
    exact hasked
  have hraises : failingPart.Raises host t.Text (.execution (some ⟨"part", 1, 6⟩) fault none) :=
    .execute (.compile .refl (words_any _ _ _) ht) hset (List.forall_mem_nil _) hend
  have hhost : host.Within (failingPart.places t.Text)
      (Library.Within (failingPart.places t.Text)) := within_bare ..
  have hheld {source : String} (h : failingPart.Texts t.Text "part" source) :
      source = "\x7b\x7b 1 / 0 \x7d\x7d" := by
    rcases h with ⟨hname, -⟩ | ⟨loader, hloader, hopen⟩
    · rw [(name_source_of_compile ht).1] at hname
      cases (by decide : "part" ≠ "page") hname
    · obtain rfl := List.mem_singleton.mp hloader
      cases hopen
      rfl
  have hunique (source other : String) (h : failingPart.Texts t.Text "part" source)
      (h' : failingPart.Texts t.Text "part" other) : source = other :=
    (hheld h).trans (hheld h').symm
  have hshown : l.rawLine? (.execution (some ⟨"part", 1, 6⟩) .noSet none) =
      some "\x7b\x7b 1 / 0 \x7d\x7d" := by decide +kernel
  exact ⟨t, _, hraises, rfl, hhost, hunique, hasked, hshown,
    lineOf?_of_rawLine? honest_builtin rfl (modest_bare _) hhost (List.forall_mem_nil _) hraises rfl
      hunique hasked hshown⟩

/-- A text that is handed in under the name of another one. The line shown is that of the other. -/
theorem not_rawLine?_of_handed :
    let source := "\x7b\x7b 1 / 0 \x7d\x7d"
    let l : Library := .new {} "set" [.memory [("a", "other")]]
    ∃ t e, (Library.compile "a" source l).1 = .ok t ∧ t.source = source ∧
      (t.execute (Host.bare fixedMoment) (some (Library.compile "a" source l).2) [] .empty).1 =
        .error (.error e) ∧
      e.position? = some ⟨"a", 1, 6⟩ ∧
      (Library.compile "a" source l).2.rawLine? e = some "other" ∧
      lineOf? t.source 1 = some source := by
  intro source l
  have hfails : failureOf l "a" source [] = some (some ⟨"a", 1, 6⟩, "division by zero") := by
    decide +kernel
  obtain ⟨t, fault, ht, -, hend⟩ := exists_of_failureOf hfails
  have hsource := (name_source_of_compile ht).2
  have hshown : (Library.compile "a" source l).2.rawLine?
      (.execution (some ⟨"a", 1, 6⟩) .noSet none) = some "other" := by decide +kernel
  have hline : lineOf? source 1 = some source := by decide +kernel
  exact ⟨t, _, ht, hsource, hend, rfl, hshown, hsource ▸ hline⟩

end Lines

end Stencil
