import Stencil.Proofs.Within.Exec

/-!
# Imported macros away from home

The names in a macro are looked up where it is called. So a macro that was imported under another
name does what it does at home if the names that it mentions mean the same at both places
(`imported_call`). Its own name is among them if it calls itself: an import binds nothing but the
alias (`not_imported_as_home`).
-/

namespace Stencil

open Render

variable {V : Vocabulary} {known : Library → Prop} {host : Host}

/-! ## Names at two places -/

namespace State

/-- What a name means outside of all scopes. -/
def outside (s : State) (name : String) : Value := ({ s with scopes := [] } : State).lookup name

end State

/-- What a name means in scopes, where `outside` tells what it means outside of them. -/
def lookupIn (outside : String → Value) (scopes : List Bindings) (name : String) : Value :=
  (scopes.findSome? fun scope => scope.get? name).getD (outside name)

theorem lookup_eq_lookupIn (s : State) (name : String) :
    s.lookup name = lookupIn s.outside s.scopes name := by
  unfold lookupIn
  cases h : s.scopes.findSome? fun scope => scope.get? name with
  | none =>
    unfold State.lookup
    rw [h]
    rfl
  | some v =>
    unfold State.lookup
    rw [h]
    rfl

theorem lookupIn_cons (outside : String → Value) (scope : Bindings) (scopes : List Bindings)
    (name : String) :
    lookupIn outside (scope :: scopes) name =
      (scope.get? name).getD (lookupIn outside scopes name) := by
  unfold lookupIn
  rw [List.findSome?_cons]
  cases scope.get? name <;> rfl

theorem lookupIn_insert (outside : String → Value) (scope : Bindings) (scopes : List Bindings)
    (name name' : String) (v : Value) :
    lookupIn outside (scope.insert name v :: scopes) name' =
      if name' = name then v else lookupIn outside (scope :: scopes) name' := by
  rw [lookupIn_cons, lookupIn_cons]
  split
  · rename_i h
    rw [h, Table.get?_insert_self]
    rfl
  · rename_i h
    rw [Table.get?_insert_of_ne scope h]

/-- Scopes at two places. The innermost ones, as many as the number says, are the same; behind them
the names of the vocabulary mean the same, whichever scopes give them their values. -/
inductive ScopesAgree (V : Vocabulary) (outside outside' : String → Value) :
    Nat → List Bindings → List Bindings → Prop where
  | rest {scopes scopes' : List Bindings} (hempty : scopes = [] ↔ scopes' = [])
      (h : ∀ name, V.name name →
        lookupIn outside scopes name = lookupIn outside' scopes' name ∧
          (lookupIn outside scopes name).Within V) :
      ScopesAgree V outside outside' 0 scopes scopes'
  | shared {n : Nat} {scope : Bindings} {scopes scopes' : List Bindings}
      (hscope : Bindings.Within V scope) (h : ScopesAgree V outside outside' n scopes scopes') :
      ScopesAgree V outside outside' (n + 1) (scope :: scopes) (scope :: scopes')

namespace ScopesAgree

variable {outside outside' : String → Value} {n : Nat} {scopes scopes' : List Bindings}

theorem lookup (h : ScopesAgree V outside outside' n scopes scopes') {name : String}
    (hname : V.name name) :
    lookupIn outside scopes name = lookupIn outside' scopes' name ∧
      (lookupIn outside scopes name).Within V := by
  induction h with
  | rest _ h => exact h name hname
  | @shared n scope scopes scopes' hscope _ ih =>
    rw [lookupIn_cons, lookupIn_cons]
    cases hget : scope.get? name with
    | none => exact ih
    | some v => exact ⟨rfl, hscope (name, v) (Table.mem_of_get? hget)⟩

theorem tail (h : ScopesAgree V outside outside' (n + 1) scopes scopes') :
    ScopesAgree V outside outside' n scopes.tail scopes'.tail := by
  cases h with
  | shared _ h => exact h

end ScopesAgree

/-! ## Two places -/

/-- How a place in one render goes together with one in another render. -/
structure Standpoint where
  /-- How many scopes they have in common. -/
  shared : Nat
  /-- What names mean outside of all scopes. -/
  outside : String → Value
  outside' : String → Value
  /-- The bodies that the blocks around the two places override. -/
  blocks : List (List Body)
  blocks' : List (List Body)

/-- Two states in which all that the vocabulary can mention means the same. -/
structure State.Akin (V : Vocabulary) (known : Library → Prop) (i : Standpoint) (s s' : State) :
    Prop where
  scopes : ScopesAgree V i.outside i.outside' i.shared s.scopes s'.scopes
  first : s.outside = i.outside ∧ s.blocks = i.blocks
  second : s'.outside = i.outside' ∧ s'.blocks = i.blocks'
  outside : ∀ name, V.name name →
    i.outside name = i.outside' name ∧ (i.outside name).Within V
  bodies : ∀ name, V.block name → bodiesOf name s.chain = bodiesOf name s'.chain ∧
    ∀ body ∈ bodiesOf name s.chain, Body.Within V body
  overridden : i.blocks.head?.getD [] = i.blocks'.head?.getD [] ∧
    ∀ body ∈ i.blocks.head?.getD [], Body.Within V body
  /-- Only renders that look templates up can tell two sets from each other. -/
  set : V.lookup → s.set = s'.set ∧ ∀ l ∈ s.set, known l
  autoescape : s.autoescape = s'.autoescape
  depth : s.depth = s'.depth
  recursionLimit : s.recursionLimit = s'.recursionLimit

/-- A host that gives nothing away that the vocabulary does not mention: its functions cannot tell
two places from each other where all of that means the same, what it makes of values is within the
vocabulary if they are, and its tags pass errors on. -/
structure Host.Heeds (host : Host) (V : Vocabulary) (known : Library → Prop) : Prop where
  function : ∀ {i s s' key data args v t}, State.Akin V known i s s' → Value.Within V data →
    (∀ a ∈ args, Value.Within V a) → host.function key data args s = (.ok v, t) →
    v.Within V ∧ ∃ t', host.function key data args s' = (.ok v, t') ∧ t.Akin V known i t'
  method : ∀ {key args v}, (∀ a ∈ args, Value.Within V a) → host.method key args = .ok v →
    v.Within V
  filter : ∀ {key v arg w}, Value.Within V v → (∀ a ∈ arg, Value.Within V a) →
    host.filter key v arg = .ok w → w.Within V
  captured : ∀ key e, ∃ e', host.captured key (.error e) = .error e'

namespace State.Akin

variable {i : Standpoint} {s s' : State}

theorem lookup (h : s.Akin V known i s') {name : String} (hname : V.name name) :
    s.lookup name = s'.lookup name ∧ (s.lookup name).Within V := by
  rw [lookup_eq_lookupIn, lookup_eq_lookupIn, h.first.1, h.second.1]
  exact h.scopes.lookup hname

theorem write (h : s.Akin V known i s') (out out' : Sink) :
    State.Akin V known i { s with out } { s' with out := out' } := { h with }

theorem withScopes {n : Nat} {scopes scopes' : List Bindings} (h : s.Akin V known i s')
    (hscopes : ScopesAgree V i.outside i.outside' n scopes scopes') :
    State.Akin V known { i with shared := n } { s with scopes } { s' with scopes := scopes' } :=
  { h with scopes := hscopes }

theorem bind (h : s.Akin V known i s') (name : String) {v : Value} (hv : v.Within V) :
    (s.bind name v).Akin V known i (s'.bind name v) := by
  have hscopes := h.scopes
  have hfirst := h.first
  have hsecond := h.second
  unfold State.bind
  generalize hn : i.shared = n at hscopes
  generalize hb : s.scopes = scopes at hscopes ⊢
  generalize hb' : s'.scopes = scopes' at hscopes ⊢
  obtain ⟨hempty, hrest⟩ | ⟨hscope, hrest⟩ := hscopes
  · rcases scopes with _ | ⟨scope, scopes⟩ <;> rcases scopes' with _ | ⟨scope', scopes'⟩
    · exact h
    · cases hempty.mp rfl
    · cases hempty.mpr rfl
    · refine { h with scopes := hn ▸ .rest (by simp) fun name' hname' => ?_ }
      rw [lookupIn_insert, lookupIn_insert]
      split
      · exact ⟨rfl, hv⟩
      · exact hrest name' hname'
  · exact { h with scopes := hn ▸ .shared (bindings_within_insert hscope name hv) hrest }

end State.Akin

/-- States that are akin and wrote the same. -/
def State.Even (V : Vocabulary) (known : Library → Prop) (i : Standpoint) (s s' : State) : Prop :=
  s.Akin V known i s' ∧ s.out = s'.out

/-- What changes no scopes and no blocks is set back at both places. -/
theorem surrounds_even {enter : State → State} {leave : State → State → State}
    (hentered : ∀ i s s', s.Akin V known i s' → (enter s).Akin V known i (enter s'))
    (hleft : ∀ i s s' t t', s.Akin V known i s' → t.Akin V known i t' →
      (leave s t).Akin V known i (leave s' t'))
    (hout : ∀ s, (enter s).out = s.out) (hout' : ∀ s t, (leave s t).out = t.out) :
    Surrounds (State.Even V known) enter leave := by
  rintro i s s' ⟨hs, heq⟩
  refine ⟨i, ⟨hentered i s s' hs, ?_⟩, ?_⟩
  · rw [hout, hout, heq]
  · rintro t t' ⟨ht, hteq⟩
    refine ⟨hleft i s s' t t' hs ht, ?_⟩
    rw [hout', hout', hteq]

/-- Trees within the vocabulary cannot tell two places from each other where all that it mentions
means the same. -/
theorem carried_even (hsupplied : V.Supplied known) (hmodest : host.Modest)
    (hheeds : host.Heeds V known) : Carried host V (State.Even V known) where
  lookup hs hname := hs.1.lookup hname
  autoescape hs := hs.1.autoescape
  recursionLimit hs := hs.1.recursionLimit
  room hs hroom := hs.1.depth ▸ hs.1.recursionLimit ▸ hroom
  out hs := hs.2
  output out hs := ⟨hs.1.write out out, rfl⟩
  bind name _ hs hv := by
    have hout (s : State) (v : Value) : (s.bind name v).out = s.out := (rests_bind s name v).out
    exact ⟨hs.1.bind name hv, by rw [hout, hout, hs.2]⟩
  bodies hs hname := hs.1.bodies _ hname
  overridden hs := by
    rw [hs.1.first.2, hs.1.second.2]
    exact hs.1.overridden
  set hs hlookup := (hs.1.set hlookup).1
  load := by
    rintro i s s' l referrer name ⟨hs, heq⟩ hlookup hl
    have hknown := (hs.set hlookup).2 l hl
    have hleft := hsupplied.left referrer name hknown
    exact ⟨fun t => hsupplied.template hknown,
      { hs with set := fun _ => ⟨rfl, fun | _, rfl => hleft⟩ }, heq⟩
  links := hsupplied.of_links
  imported := hsupplied.imported _
  scope := by
    rintro scope hscope i s s' ⟨hs, heq⟩
    refine ⟨{ i with shared := i.shared + 1 }, ⟨hs.withScopes (.shared hscope hs.scopes), heq⟩, ?_⟩
    rintro t t' ⟨ht, hteq⟩
    exact ⟨ht.withScopes ht.scopes.tail, hteq⟩
  isolated := by
    rintro scope hscope i s s' ⟨hs, heq⟩
    refine ⟨{ i with shared := 2 }, ⟨hs.withScopes ?_, heq⟩, ?_⟩
    · exact .shared hscope (.shared baseScope_within (.rest Iff.rfl hs.outside))
    · rintro t t' ⟨ht, hteq⟩
      exact ⟨ht.withScopes hs.scopes, hteq⟩
  escaping enabled := surrounds_even (fun _ _ _ hs => { hs with autoescape := rfl })
    (fun _ _ _ _ _ hs ht => { ht with autoescape := hs.autoescape }) (fun _ => rfl) fun _ _ => rfl
  deeper := surrounds_even (fun _ _ _ hs => { hs with depth := congrArg (· + 1) hs.depth })
    (fun _ _ _ _ _ _ ht => { ht with depth := congrArg (· - 1) ht.depth }) (fun _ => rfl)
    fun _ _ => rfl
  chain := by
    intro chain hchain
    refine surrounds_even (fun _ _ _ hs => { hs with bodies := fun name _ => ⟨rfl, ?_⟩ })
      (fun _ _ _ _ _ hs ht => { ht with bodies := hs.bodies }) (fun _ => rfl) fun _ _ => rfl
    intro body hbody
    obtain ⟨t, ht, hfound⟩ := List.mem_filterMap.mp (List.mem_reverse.mp hbody)
    exact (hchain t ht).block? hfound
  block := by
    rintro overridden hbodies i s s' ⟨hs, heq⟩
    refine ⟨{ i with blocks := overridden :: i.blocks, blocks' := overridden :: i.blocks' },
      ⟨{ hs with
          first := ⟨hs.first.1, congrArg (overridden :: ·) hs.first.2⟩
          second := ⟨hs.second.1, congrArg (overridden :: ·) hs.second.2⟩
          overridden := ⟨rfl, hbodies⟩ }, heq⟩, ?_⟩
    rintro t t' ⟨ht, hteq⟩
    exact ⟨{ ht with
      first := ⟨ht.first.1, congrArg List.tail ht.first.2⟩
      second := ⟨ht.second.1, congrArg List.tail ht.second.2⟩
      overridden := hs.overridden }, hteq⟩
  function := by
    rintro i s s' key data args v t ⟨hs, heq⟩ hdata hargs hrun
    obtain ⟨hv, t', hrun', ht⟩ := hheeds.function hs hdata hargs hrun
    have hkept := (hmodest.rests key data args s).out
    have hkept' := (hmodest.rests key data args s').out
    rw [hrun] at hkept
    rw [hrun'] at hkept'
    exact ⟨hv, t', hrun', ht, hkept.trans (heq.trans hkept'.symm)⟩
  method := hheeds.method
  filter := hheeds.filter
  captured := hheeds.captured

/-! ## Calls -/

/-- Calls the function that a name is bound to. -/
def callNamed (j : Jumps) (name : String) (args : List Value) : Render Value := do
  match (← get).lookup name with
  | .func f => callFunction j f args
  | _ => pure .nil

/-- The statement of a tag that imports one macro of a template under another name. -/
def Template.importing (t : Template) (name target : String) : Statement :=
  .imports ((t.macro? name).toList.map fun m => (target, m))

/-- Two places at which nothing is known to be shared but what is outside of all scopes. -/
def Standpoint.between (s s' : State) : Standpoint where
  shared := 0
  outside := s.outside
  outside' := s'.outside
  blocks := s.blocks
  blocks' := s'.blocks

theorem lookup_bind_self {s : State} (h : s.scopes ≠ []) (name : String) (v : Value) :
    (s.bind name v).lookup name = v := by
  unfold State.bind
  split
  · rename_i hscopes
    exact absurd hscopes h
  · rw [lookup_eq_lookupIn, lookupIn_insert, if_pos rfl]

theorem run_callNamed {j : Jumps} {s : State} {name : String} {f : Function}
    (h : s.lookup name = .func f) (args : List Value) :
    callNamed j name args host s = callFunction j f args host s := by
  unfold callNamed
  rw [run_get_bind, h]

/-- A macro of the template `t` is imported under another name. If all that it mentions, in its
body, in its defaults and in the macros and templates that it leads to, means the same at home and
behind the import, then a call by the new name has the result that the same call has at home. -/
theorem imported_call (hsupplied : V.Supplied known) (hmodest : host.Modest)
    (hheeds : host.Heeds V known) {t : Template} {name target : String} {m : Macro}
    (hm : t.macro? name = some m) (hwithin : m.Within V) {fuel : Nat} {home before away : State}
    (hhome : home.lookup name = .func (.ofMacro m)) (hscopes : before.scopes ≠ [])
    (haway : (t.importing name target).exec (.upTo fuel) host before = (.ok (), away))
    (hakin : home.Akin V known (.between home away) away) {args : List Value}
    (hargs : ∀ a ∈ args, a.Within V) {v : Value}
    (hcall : (callNamed (.upTo fuel) name args host home).1 = .ok v) :
    (callNamed (.upTo fuel) target args host away).1 = .ok v := by
  have hbound : away.lookup target = .func (.ofMacro m) := by
    unfold Template.importing at haway
    rw [hm] at haway
    obtain ⟨-, rfl⟩ := Prod.mk.inj haway
    exact lookup_bind_self hscopes target _
  rw [run_callNamed hhome] at hcall
  rw [run_callNamed hbound]
  have hcarried := carried_even hsupplied hmodest hheeds
  obtain ⟨-, u, hu, -⟩ := carries_callFunction hcarried (carry_upTo hcarried (Nat.le_refl fuel))
    (within_ofMacro hwithin) hargs _ home { away with out := home.out } ⟨hakin.write _ _, rfl⟩ v _
    (Prod.ext hcall rfl)
  -- What was written before the call has no part in its result.
  have hL := lawful_same hmodest
  have hsame : State.Alike .same { away with out := home.out } away :=
    alike_same.mpr ⟨rfl, rfl, rfl, rfl, rfl, rfl, rfl, rfl, rfl⟩
  have hend := (echoes_callFunction hL (agree_upTo hL fuel)
    (f := .ofMacro m) ⟨rfl, rfl, rfl, rfl, .body rfl⟩ (forall₂_refl (fun _ => rfl) args) _ away
    hsame).1
  rw [hu] at hend
  generalize (callFunction (.upTo fuel) (.ofMacro m) args host away).1 = x at hend ⊢
  cases hend with
  | ok h => exact congrArg Except.ok h.symm

/-! ### A macro that calls another one -/

/-- A macro that puts a string in quotes. -/
def quoting : Macro where
  name := "quote"
  params := [("s", none)]
  body := [.text "'", .output default (.path "s" [] default), .text "'"]
  exported := true

/-- A macro that quotes a name and puts a mark behind it, which the caller has to give. -/
def greeting : Macro where
  name := "greet"
  params := [("n", none)]
  body :=
    [.output default (.path "quote" [.call [.path "n" [] default]] default),
      .output default (.path "mark" [] default)]
  exported := true

/-- A template that exports the two macros. -/
def greetings : Template where
  name := "greetings"
  source := ""
  tokens := []
  nodes := [.tag "macro" default (.define quoting), .tag "macro" default (.define greeting)]
  parent := none
  blocks := []
  macros := [("quote", quoting), ("greet", greeting)]
  level := 0
  options := default
  serial := 0

/-- What the two macros mention. -/
def greetingNames : Vocabulary where
  name name := name ∈ ["n", "s", "quote", "mark"]
  block _ := False
  lookup := False

theorem variable_within {name : String} (h : name ∈ ["n", "s", "quote", "mark"]) :
    (Expr.path name [] default).Within greetingNames := .path h nofun trivial

theorem quoting_within : quoting.Within greetingNames := by
  refine .intro (List.forall_mem_singleton.mpr nofun) (List.forall_mem_cons.mpr ⟨.text _, ?_⟩)
  exact List.forall_mem_cons.mpr
    ⟨.output trivial (variable_within (by decide)), List.forall_mem_singleton.mpr (.text _)⟩

theorem greeting_within : greeting.Within greetingNames := by
  have hquote : "quote" ∈ ["n", "s", "quote", "mark"] := by decide
  have hcall : (Expr.path "quote" [.call [.path "n" [] default]] default).Within greetingNames :=
    .path hquote (List.forall_mem_singleton.mpr (.call (List.forall_mem_singleton.mpr
      (variable_within (by decide))))) trivial
  refine .intro (List.forall_mem_singleton.mpr nofun)
    (List.forall_mem_cons.mpr ⟨.output trivial hcall, ?_⟩)
  exact List.forall_mem_singleton.mpr (.output trivial (variable_within (by decide)))

/-- The data of the caller. -/
def marked : Bindings := [("mark", .str "!")]

/-- Behind the top level of the template. -/
def greetingsHome : State :=
  ((State.start none marked default .empty).bind "quote" (.func (.ofMacro quoting))).bind "greet"
    (.func (.ofMacro greeting))

/-- In a page that imported the macro `quote` and has a variable of its own. -/
def greetingsPage : State :=
  ((State.start none marked default .empty).bind "quote" (.func (.ofMacro quoting))).bind "greet"
    (.str "Hello")

theorem akin_greetings :
    greetingsHome.Akin greetingNames (fun _ => False)
      (.between greetingsHome (greetingsPage.bind "hi" (.func (.ofMacro greeting))))
      (greetingsPage.bind "hi" (.func (.ofMacro greeting))) where
  scopes := by
    refine .rest (by decide) fun name hname => ?_
    have hname : name ∈ ["n", "s", "quote", "mark"] := hname
    rcases hname with _ | ⟨_, _ | ⟨_, _ | ⟨_, _ | ⟨_, hname⟩⟩⟩⟩
    · exact ⟨rfl, .nil⟩
    · exact ⟨rfl, .nil⟩
    · exact ⟨rfl, within_ofMacro quoting_within⟩
    · exact ⟨rfl, .str "!"⟩
    · cases hname
  first := ⟨rfl, rfl⟩
  second := ⟨rfl, rfl⟩
  outside name hname := by
    have hname : name ∈ ["n", "s", "quote", "mark"] := hname
    rcases hname with _ | ⟨_, _ | ⟨_, _ | ⟨_, _ | ⟨_, hname⟩⟩⟩⟩
    · exact ⟨rfl, .nil⟩
    · exact ⟨rfl, .nil⟩
    · exact ⟨rfl, .nil⟩
    · exact ⟨rfl, .str "!"⟩
    · cases hname
  bodies _ h := h.elim
  overridden := ⟨rfl, nofun⟩
  set h := h.elim
  autoescape := rfl
  depth := rfl
  recursionLimit := rfl

/-- A host that adds nothing gives nothing away. -/
theorem heeds_bare (now : Calendar.Moment) (V : Vocabulary) (known : Library → Prop) :
    (Host.bare now).Heeds V known where
  function := by
    rintro i s s' key data args v t hs - - ⟨⟩
    exact ⟨.nil, s', rfl, hs⟩
  method := by
    rintro key args v - ⟨⟩
    exact .nil
  filter := by
    rintro key v arg w hv - ⟨⟩
    exact hv
  captured _ e := ⟨e, rfl⟩

theorem greeting_imported (fuel : Nat) (s : State) :
    (greetings.importing "greet" "hi").exec (.upTo fuel) (Host.bare fixedMoment) s =
      (.ok (), s.bind "hi" (.func (.ofMacro greeting))) := by
  have hm : greetings.macro? "greet" = some greeting := rfl
  unfold Template.importing
  rw [hm]
  rfl

theorem greeting_called : ((callNamed (.upTo 4) "greet" [.str "Ann"] (Host.bare fixedMoment)
    greetingsHome).1.toOption.bind Value.string?) = some "'Ann'!" := by
  decide +kernel

/-- The macro `greet` under the name `hi`, where `greet` is something else. -/
theorem imported_call_greeting :
    let host := Host.bare fixedMoment
    let j := Jumps.upTo 4
    let start := State.start none marked default .empty
    let away := greetingsPage.bind "hi" (.func (.ofMacro greeting))
    greetingNames.Supplied (fun _ => False) ∧ host.Modest ∧
      host.Heeds greetingNames (fun _ => False) ∧
      execNodes j greetings.nodes host start = (.ok (), greetingsHome) ∧
      greetings.macro? "greet" = some greeting ∧ greeting.Within greetingNames ∧
      greetingsHome.lookup "greet" = .func (.ofMacro greeting) ∧ greetingsPage.scopes ≠ [] ∧
      (greetings.importing "greet" "hi").exec j host greetingsPage = (.ok (), away) ∧
      greetingsHome.Akin greetingNames (fun _ => False) (.between greetingsHome away) away ∧
      (∀ a ∈ [Value.str "Ann"], a.Within greetingNames) ∧
      ∃ v, v.string? = some "'Ann'!" ∧
        (callNamed j "greet" [.str "Ann"] host greetingsHome).1 = .ok v ∧
        (callNamed j "hi" [.str "Ann"] host away).1 = .ok v := by
  intro host j start away
  have hsupplied : greetingNames.Supplied fun _ => False := ⟨nofun, nofun, nofun, nofun, nofun⟩
  have hmodest : host.Modest := modest_bare fixedMoment
  have hheeds : host.Heeds greetingNames fun _ => False := heeds_bare fixedMoment _ _
  have hrun : execNodes j greetings.nodes host start = (.ok (), greetingsHome) := rfl
  have hm : greetings.macro? "greet" = some greeting := rfl
  have hhome : greetingsHome.lookup "greet" = .func (.ofMacro greeting) := rfl
  have hscopes : greetingsPage.scopes ≠ [] := by decide
  have haway := greeting_imported 4 greetingsPage
  have hargs : ∀ a ∈ [Value.str "Ann"], a.Within greetingNames :=
    List.forall_mem_singleton.mpr (.str "Ann")
  have hcalled := greeting_called
  cases hcall : (callNamed j "greet" [.str "Ann"] host greetingsHome).1 with
  | error e =>
    rw [hcall] at hcalled
    cases hcalled
  | ok v =>
    rw [hcall] at hcalled
    exact ⟨hsupplied, hmodest, hheeds, hrun, hm, greeting_within, hhome, hscopes, haway,
      akin_greetings, hargs, v, hcalled, rfl,
      imported_call hsupplied hmodest hheeds hm greeting_within hhome hscopes haway akin_greetings
        hargs hcall⟩

/-- A macro that calls itself by its own name. At home `m(2)` is `210`; behind an import as `a` the
name `m` means nothing, and `a(2)` is `2`. -/
theorem not_imported_as_home :
    ((Library.compile "h" ("\x7b% macro m(n) export %\x7d\x7b\x7b n \x7d\x7d" ++
        "\x7b% if n > 0 %\x7d\x7b\x7b m(n - 1) \x7d\x7d\x7b% endif %\x7d\x7b% endmacro %\x7d")
      (.new {} "set" [])).1.toOption.map fun t =>
      let host := Host.bare fixedMoment
      let j := Jumps.upTo 4
      let start := State.start none [] t.options .empty
      let home := (execNodes j t.nodes host start).2
      let away := ((t.importing "m" "a").exec j host start).2
      (((callNamed j "m" [.int 2] host home).1.toOption.bind Value.string?),
        ((callNamed j "a" [.int 2] host away).1.toOption.bind Value.string?))) =
      some (some "210", some "2") := by
  decide +kernel

end Stencil
