import Stencil.Proofs.Alike.Likeness
import Stencil.Proofs.Keeping

/-!
# Steps of two renders

The rules for the steps of two renders that are alike. Evaluating writes nothing, so what it leaves
behind is compared alone (`Echoes`). Nodes write, perhaps into sinks of two kinds: then both renders
go on alike as long as their sinks take what is written (`Agrees`).
-/

namespace Stencil

open Render

variable {L : Likeness} {host : Host} {α α' β β' : Type} {A : α → α' → Prop} {B : β → β' → Prop}
  {r : Render α} {r' : Render α'}

/-! ## Ends -/

section Ends

variable {ε ε' δ δ' : Type} {H : ε → ε' → Prop} {H' : δ → δ' → Prop} {x : Except ε α}
  {x' : Except ε' α'}

theorem EndAlike.imp {A' : α → α' → Prop} (h : EndAlike H A x x') (hA : ∀ a a', A a a' → A' a a') :
    EndAlike H A' x x' := by
  cases h with
  | ok ha => exact .ok (hA _ _ ha)
  | error hh => exact .error hh

theorem EndAlike.map {f : α → β} {f' : α' → β'} (h : EndAlike H A x x')
    (hf : ∀ a a', A a a' → B (f a) (f' a')) : EndAlike H B (x.map f) (x'.map f') := by
  cases h with
  | ok ha => exact .ok (hf _ _ ha)
  | error hh => exact .error hh

theorem EndAlike.bind {f : α → Except ε β} {f' : α' → Except ε' β'} (h : EndAlike H A x x')
    (hf : ∀ a a', A a a' → EndAlike H B (f a) (f' a')) : EndAlike H B (x >>= f) (x' >>= f') := by
  cases h with
  | ok ha => exact hf _ _ ha
  | error hh => exact .error hh

end Ends

theorem State.Rests.refl (s : State) : s.Rests s := ⟨rfl, rfl⟩

theorem State.Rests.trans {s t u : State} (h : s.Rests t) (h' : t.Rests u) : s.Rests u :=
  ⟨h'.blocks.trans h.blocks, h'.out.trans h.out⟩

/-- What was written has no part in whether states are alike. -/
theorem State.Alike.write {s s' : State} (h : s.Alike L s') (out out' : Sink) :
    State.Alike L { s with out } { s' with out := out' } := { h with }

/-! ## Evaluation -/

section Echoes

theorem echoes_pure {a : α} {a' : α'} (ha : A a a') :
    Echoes L host (pure a) (pure a') A := fun s s' hs =>
  ⟨.ok ha, hs, .refl s, .refl s'⟩

theorem echoes_bind {f : α → Render β} {f' : α' → Render β'} (hr : Echoes L host r r' A)
    (hf : ∀ a a', A a a' → Echoes L host (f a) (f' a') B) :
    Echoes L host (r >>= f) (r' >>= f') B := by
  intro s s' hs
  obtain ⟨hend, hleft, hrests, hrests'⟩ := hr s s' hs
  rw [run_bind, run_bind]
  rcases hx : (r host s).1 with _ | a <;> rcases hx' : (r' host s').1 with _ | a' <;>
    rw [hx, hx'] at hend <;> cases hend
  · rename_i hh
    exact ⟨.error hh, hleft, hrests, hrests'⟩
  · rename_i ha
    obtain ⟨hend, hleft, hrests₂, hrests₂'⟩ := hf a a' ha _ _ hleft
    exact ⟨hend, hleft, hrests.trans hrests₂, hrests'.trans hrests₂'⟩

theorem echoes_get_bind {f : State → Render β} {f' : State → Render β'}
    (hf : ∀ s s', s.Alike L s' → Echoes L host (f s) (f' s') B) :
    Echoes L host (get >>= f) (get >>= f') B := fun s s' hs => hf s s' hs s s' hs

theorem echoes_read_bind {f : Host → Render β} {f' : Host → Render β'}
    (hf : Echoes L host (f host) (f' host) B) :
    Echoes L host (read >>= f) (read >>= f') B := hf

theorem echoes_throw {h h' : Halt} (hh : Halt.Alike L.error h h') :
    Echoes L host (throw h : Render α) (throw h' : Render α') A := fun s s' hs =>
  ⟨.error hh, hs, .refl s, .refl s'⟩

theorem echoes_ofExcept {x : Except Error α} {x' : Except Error α'} (hx : EndAlike L.error A x x') :
    Echoes L host (Halt.ofExcept x) (Halt.ofExcept x') A := by
  cases hx with
  | ok ha => exact echoes_pure ha
  | error he => exact echoes_throw (.error he)

theorem echoes_modify {f f' : State → State} (hf : ∀ s s', s.Alike L s' → (f s).Alike L (f' s'))
    (hrests : ∀ s, State.Rests s (f s)) (hrests' : ∀ s, State.Rests s (f' s)) :
    Echoes L host (modify f) (modify f') fun _ _ => True := fun s s' hs =>
  ⟨.ok trivial, hf s s' hs, hrests s, hrests' s'⟩

theorem echoes_attempt (hr : Echoes L host r r' A) :
    Echoes L host (attempt r) (attempt r') (EndAlike L.error A) := by
  intro s s' hs
  obtain ⟨hend, hleft⟩ := hr s s' hs
  unfold attempt
  generalize r host s = e at hend hleft ⊢
  generalize r' host s' = e' at hend hleft ⊢
  obtain ⟨x, t⟩ := e
  obtain ⟨x', t'⟩ := e'
  cases hend with
  | ok ha => exact ⟨.ok (.ok ha), hleft⟩
  | error hh =>
    cases hh with
    | error he => exact ⟨.ok (.error he), hleft⟩
    | exhausted => exact ⟨.error .exhausted, hleft⟩

end Echoes

/-! ## Brackets -/

/-- A change of the state for a part of a render that is set back behind it. -/
structure Bracket (enter : State → State) (leave : State → State → State) : Prop where
  enter_out : ∀ s, (enter s).out = s.out
  leave_out : ∀ s t, (leave s t).out = t.out
  blocks : ∀ s t, t.blocks = (enter s).blocks → (leave s t).blocks = s.blocks

/-- Two brackets between which states stay alike. -/
structure Brackets (L : Likeness) (enter enter' : State → State)
    (leave leave' : State → State → State) : Prop where
  first : Bracket enter leave
  second : Bracket enter' leave'
  entered : ∀ s s', s.Alike L s' → (enter s).Alike L (enter' s')
  left : ∀ s s' t t', s.Alike L s' → t.Alike L t' → t.blocks = (enter s).blocks →
    t'.blocks = (enter' s').blocks → (leave s t).Alike L (leave' s' t')

section Brackets

variable {enter enter' : State → State} {leave leave' : State → State → State}

theorem echoes_within (hb : Brackets L enter enter' leave leave') (hr : Echoes L host r r' A) :
    Echoes L host (within enter leave r) (within enter' leave' r') A := by
  intro s s' hs
  obtain ⟨hend, hleft, hrests, hrests'⟩ := hr _ _ (hb.entered s s' hs)
  refine ⟨hend, hb.left s s' _ _ hs hleft hrests.blocks hrests'.blocks, ⟨?_, ?_⟩, ⟨?_, ?_⟩⟩
  · exact hb.first.blocks s _ hrests.blocks
  · exact (hb.first.leave_out s _).trans (hrests.out.trans (hb.first.enter_out s))
  · exact hb.second.blocks s' _ hrests'.blocks
  · exact (hb.second.leave_out s' _).trans (hrests'.out.trans (hb.second.enter_out s'))

theorem brackets_autoescape (enabled : Bool) :
    Brackets L (fun s => { s with autoescape := enabled })
      (fun s => { s with autoescape := enabled })
      (fun before s => { s with autoescape := before.autoescape })
      (fun before s => { s with autoescape := before.autoescape }) where
  first := ⟨fun _ => rfl, fun _ _ => rfl, fun _ _ h => h⟩
  second := ⟨fun _ => rfl, fun _ _ => rfl, fun _ _ h => h⟩
  entered _ _ hs := { hs with autoescape := rfl }
  left _ _ _ _ hs ht _ _ := { ht with autoescape := hs.autoescape }

theorem brackets_deeper :
    Brackets L (fun s => { s with depth := s.depth + 1 }) (fun s => { s with depth := s.depth + 1 })
      (fun _ s => { s with depth := s.depth - 1 })
      (fun _ s => { s with depth := s.depth - 1 }) where
  first := ⟨fun _ => rfl, fun _ _ => rfl, fun _ _ h => h⟩
  second := ⟨fun _ => rfl, fun _ _ => rfl, fun _ _ h => h⟩
  entered _ _ hs := { hs with depth := congrArg (· + 1) hs.depth }
  left _ _ _ _ _ ht _ _ := { ht with depth := congrArg (· - 1) ht.depth }

theorem brackets_chain {chain chain' : List Template} (h : List.Forall₂ L.template chain chain') :
    Brackets L (fun s => { s with chain }) (fun s => { s with chain := chain' })
      (fun before s => { s with chain := before.chain })
      (fun before s => { s with chain := before.chain }) where
  first := ⟨fun _ => rfl, fun _ _ => rfl, fun _ _ h => h⟩
  second := ⟨fun _ => rfl, fun _ _ => rfl, fun _ _ h => h⟩
  entered _ _ hs := { hs with chain := h }
  left _ _ _ _ hs ht _ _ := { ht with chain := hs.chain }

/-- Behind a block, the bodies that the block around it overrides count again. -/
theorem brackets_block {overridden overridden' : List Body}
    (h : List.Forall₂ L.body overridden overridden') :
    Brackets L (fun s => { s with blocks := overridden :: s.blocks })
      (fun s => { s with blocks := overridden' :: s.blocks })
      (fun _ s => { s with blocks := s.blocks.tail })
      (fun _ s => { s with blocks := s.blocks.tail }) where
  first := ⟨fun _ => rfl, fun _ _ => rfl, fun _ _ h => congrArg List.tail h⟩
  second := ⟨fun _ => rfl, fun _ _ => rfl, fun _ _ h => congrArg List.tail h⟩
  entered _ _ hs := { hs with overridden := h }
  left s s' t t' hs ht hblocks hblocks' :=
    { ht with
      overridden := by
        change List.Forall₂ L.body (t.blocks.tail.head?.getD []) (t'.blocks.tail.head?.getD [])
        rw [hblocks, hblocks']
        exact hs.overridden }

theorem brackets_scope {scope scope' : Bindings} (h : L.scope scope scope') :
    Brackets L (fun s => { s with scopes := scope :: s.scopes })
      (fun s => { s with scopes := scope' :: s.scopes })
      (fun _ s => { s with scopes := s.scopes.tail })
      (fun _ s => { s with scopes := s.scopes.tail }) where
  first := ⟨fun _ => rfl, fun _ _ => rfl, fun _ _ h => h⟩
  second := ⟨fun _ => rfl, fun _ _ => rfl, fun _ _ h => h⟩
  entered _ _ hs := { hs with scopes := .cons h hs.scopes }
  left _ _ t t' _ ht _ _ :=
    { ht with
      scopes := by
        have hscopes := ht.scopes
        revert hscopes
        generalize t.scopes = a
        generalize t'.scopes = b
        rintro (_ | ⟨_, hrest⟩)
        · exact .nil
        · exact hrest }

theorem brackets_isolated {scopes scopes' : List Bindings}
    (h : List.Forall₂ L.scope scopes scopes') :
    Brackets L (fun s => { s with scopes }) (fun s => { s with scopes := scopes' })
      (fun before s => { s with scopes := before.scopes })
      (fun before s => { s with scopes := before.scopes }) where
  first := ⟨fun _ => rfl, fun _ _ => rfl, fun _ _ h => h⟩
  second := ⟨fun _ => rfl, fun _ _ => rfl, fun _ _ h => h⟩
  entered _ _ hs := { hs with scopes := h }
  left _ _ _ _ hs ht _ _ := { ht with scopes := hs.scopes }

end Brackets

/-! ## Lawful steps -/

section Lawful

variable (hL : L.Lawful host)
include hL

theorem echoes_fail (fault : RunFault) :
    Echoes L host (fail fault : Render α) (fail fault : Render α') A :=
  echoes_throw (.error (hL.run fault))

theorem echoes_ofFault {x : Except RunFault α} {x' : Except RunFault α'}
    (hx : EndAlike Eq A x x') : Echoes L host (ofFault x) (ofFault x') A := by
  cases hx with
  | ok ha => exact echoes_pure ha
  | error he =>
    subst he
    exact echoes_fail hL _

theorem Halt.Alike.located {p p' : Position} (hp : L.position p p') {h h' : Halt}
    (hh : Halt.Alike L.error h h') : Halt.Alike L.error (h.located p) (h'.located p') := by
  cases hh with
  | error he => exact .error (hL.located hp he)
  | exhausted => exact .exhausted

theorem echoes_located {p p' : Position} (hp : L.position p p') (hr : Echoes L host r r' A) :
    Echoes L host (located p r) (located p' r') A := by
  intro s s' hs
  obtain ⟨hend, hleft⟩ := hr s s' hs
  unfold located
  generalize r host s = e at hend hleft ⊢
  generalize r' host s' = e' at hend hleft ⊢
  obtain ⟨x, t⟩ := e
  obtain ⟨x', t'⟩ := e'
  cases hend with
  | ok ha => exact ⟨.ok ha, hleft⟩
  | error hh => exact ⟨.error (hh.located hL hp), hleft⟩

theorem echoes_deeper (what : String) (hr : Echoes L host r r' A) :
    Echoes L host (deeper what r) (deeper what r') A := by
  refine echoes_get_bind fun s s' hs => ?_
  rw [hs.recursionLimit, hs.depth]
  split
  · exact echoes_fail hL _
  · exact echoes_within brackets_deeper hr

theorem echoes_requireSet : Echoes L host requireSet requireSet fun _ _ => True := by
  refine echoes_get_bind fun s s' hs => ?_
  rw [hL.isNone hs.set]
  split
  · exact echoes_fail hL _
  · exact echoes_pure trivial

theorem echoes_load (referrer : Option String) (name : String) :
    Echoes L host (load referrer name) (load referrer name) L.template := by
  intro s s' hs
  have hset := hs.set
  have hgone := hL.isNone hset
  unfold load
  cases hl : s.set <;> cases hl' : s'.set <;> rw [hl, hl'] at hset hgone
  · exact ⟨.error (.error (hL.run _)), hs, .refl s, .refl s'⟩
  · cases hgone
  · cases hgone
  · obtain ⟨hend, hleft⟩ := hL.load referrer name hset
    exact ⟨hend, { hs with set := hleft }, ⟨rfl, rfl⟩, ⟨rfl, rfl⟩⟩

/-! ### Scopes -/

theorem scope_ofList {bindings bindings' : List (String × Value)}
    (h : List.Forall₂ (L.entry L.value) bindings bindings') :
    L.scope (Table.ofList bindings) (Table.ofList bindings') := by
  have hfold (b b' : Bindings) (hb : L.scope b b') :
      L.scope (bindings.foldl (fun t e => t.insert e.1 e.2) b)
        (bindings'.foldl (fun t e => t.insert e.1 e.2) b') := by
    induction h generalizing b b' with
    | nil => exact hb
    | @cons e e' _ _ he _ ih =>
      obtain ⟨hname, hknown, hv⟩ := he
      refine ih (b.insert e.1 e.2) (b'.insert e'.1 e'.2) ?_
      rw [← hname]
      exact hL.insert hb hknown hv
  exact hfold [] [] hL.empty

theorem echoes_inScope {bindings bindings' : List (String × Value)}
    (h : List.Forall₂ (L.entry L.value) bindings bindings') (hr : Echoes L host r r' A) :
    Echoes L host (inScope bindings r) (inScope bindings' r') A :=
  echoes_within (brackets_scope (scope_ofList hL h)) hr

theorem alike_bind {s s' : State} (hs : s.Alike L s') {name : String} (hname : L.name name)
    {v v' : Value} (hv : L.value v v') : (s.bind name v).Alike L (s'.bind name v') := by
  have hscopes := hs.scopes
  unfold State.bind
  cases hb : s.scopes <;> cases hb' : s'.scopes <;> rw [hb, hb'] at hscopes <;> cases hscopes
  · exact hs
  · rename_i hscope hrest
    exact { hs with scopes := .cons (hL.insert hscope hname hv) hrest }

omit hL in
theorem rests_bind (s : State) (name : String) (v : Value) : s.Rests (s.bind name v) := by
  unfold State.bind
  split <;> exact ⟨rfl, rfl⟩

theorem echoes_assign {name : String} (hname : L.name name) {v v' : Value} (hv : L.value v v') :
    Echoes L host (modify (·.bind name v) : Render Unit) (modify (·.bind name v'))
      fun _ _ => True :=
  echoes_modify (fun _ _ hs => alike_bind hL hs hname hv) (rests_bind · name v)
    (rests_bind · name v')

/-- A name that means the same in both renders has values that are alike. -/
theorem alike_lookup {s s' : State} (hs : s.Alike L s') {name : String} (hname : L.name name) :
    L.value (s.lookup name) (s'.lookup name) := by
  have hnil : L.value .nil .nil := hL.value.mpr .nil
  have hscopes : Option.Rel L.value (s.scopes.findSome? fun scope => scope.get? name)
      (s'.scopes.findSome? fun scope => scope.get? name) := by
    have h := hs.scopes
    generalize s.scopes = scopes at h ⊢
    generalize s'.scopes = scopes' at h ⊢
    induction h with
    | nil => exact .none
    | @cons scope scope' scopes scopes' hscope hrest ih =>
      have hget := hL.lookup hscope hname
      rw [List.findSome?_cons, List.findSome?_cons]
      revert hget
      generalize scope.get? name = found
      generalize scope'.get? name = found'
      rintro (⟨hv⟩ | _)
      · exact .some hv
      · exact ih
  have hcontext := hL.context hs.context hname
  have hglobals := hL.globals hs.globals hname
  unfold State.lookup
  revert hscopes hcontext hglobals
  generalize (s.scopes.findSome? fun scope => scope.get? name) = a
  generalize (s'.scopes.findSome? fun scope => scope.get? name) = a'
  generalize s.context.get? name = b
  generalize s'.context.get? name = b'
  generalize s.globals.get? name = c
  generalize s'.globals.get? name = c'
  rintro (⟨ha⟩ | _) (⟨hb⟩ | _) (⟨hc⟩ | _) <;> assumption

end Lawful

/-! ## Output -/

theorem failure_write (a : Sink) (text : String) : (a.write text).1.failure = a.failure := by
  unfold Sink.write
  split
  · rfl
  · split <;> rfl
  · dsimp only
    split <;> rfl

theorem located_failure (a : Sink) (p : Position) : a.failure.located p = a.failure := by
  cases a <;> rfl

/-- How the sinks of two renders go together, and what holds for them once both or only the second
one refused a text. -/
structure SinkPairing where
  paired : Sink → Sink → Prop
  refused : Sink → Sink → Prop
  parted : Sink → Sink → Prop
  /-- The error of sinks of the first render, and of the second one. -/
  failures : Error × Error
  failures_eq : ∀ {a b}, paired a b → failures = (a.failure, b.failure)
  write : ∀ {a b} text, paired a b →
    ((a.write text).2 = true ∧ (b.write text).2 = true ∧ paired (a.write text).1 (b.write text).1) ∨
      ((a.write text).2 = false ∧ (b.write text).2 = false ∧
        refused (a.write text).1 (b.write text).1) ∨
      ((a.write text).2 = true ∧ (b.write text).2 = false ∧
        parted (a.write text).1 (b.write text).1)
  more : ∀ {a b} text, parted a b → parted (a.write text).1 b

/-- Sinks of one kind that are equal stay equal, also when they refuse a text. -/
def SinkPairing.same (failure : Error) : SinkPairing where
  paired a b := a = b ∧ a.failure = failure
  refused := Eq
  parted _ _ := False
  failures := (failure, failure)
  failures_eq := by
    rintro a _ ⟨rfl, rfl⟩
    rfl
  write := by
    rintro a _ text ⟨rfl, rfl⟩
    cases (a.write text).2 with
    | true => exact .inl ⟨rfl, rfl, rfl, failure_write a text⟩
    | false => exact .inr (.inl ⟨rfl, rfl, rfl⟩)
  more _ h := h

/-- The sink is a text that takes everything. -/
def Sink.Open (a : Sink) : Prop := ∃ written, a = .text written none

/-- Sinks that are equal and take everything never refuse a text. -/
def SinkPairing.open : SinkPairing where
  paired a b := a = b ∧ a.Open
  refused _ _ := False
  parted _ _ := False
  failures := (.write, .write)
  failures_eq := by
    rintro _ _ ⟨rfl, written, rfl⟩
    rfl
  write := by
    rintro _ _ text ⟨rfl, written, rfl⟩
    exact .inl ⟨rfl, rfl, rfl, _, rfl⟩
  more _ h := h

/-- Both renders went on alike, and so did their sinks, or both sinks refused a text, or the sink of
the second one refused what that of the first one took. -/
inductive Outcome (L : Likeness) (φ : SinkPairing) (s s' : State) :
    Except Halt Unit × State → Except Halt Unit × State → Prop where
  | together {x x' : Except Halt Unit} {t t' : State} :
    EndAlike (Halt.Alike L.error) (fun _ _ => True) x x' → t.Alike L t' → t.blocks = s.blocks →
    t'.blocks = s'.blocks → φ.paired t.out t'.out → Outcome L φ s s' (x, t) (x', t')
  | refused {t t' : State} : φ.refused t.out t'.out →
    Outcome L φ s s' (.error (.error φ.failures.1), t) (.error (.error φ.failures.2), t')
  | parted {x : Except Halt Unit} {t t' : State} : φ.parted t.out t'.out →
    Outcome L φ s s' (x, t) (.error (.error φ.failures.2), t')

namespace Render

/-- In states that are alike, `r` and `r'` go on alike as long as their sinks do; the sinks of two
renders that parted stay so while `r` writes more. -/
structure Agrees (L : Likeness) (host : Host) (r r' : Render Unit) : Prop where
  outcome : ∀ φ s s', State.Alike L s s' → φ.paired s.out s'.out →
    Outcome L φ s s' (r host s) (r' host s')
  more : ∀ (φ : SinkPairing) s s' out, State.Alike L s s' → φ.parted s.out out →
    φ.parted (r host s).2.out out

end Render

section Agrees

variable {w w' : Render Unit}

/-- Unless it halts, the first one gets to a state that is alike to another one. -/
theorem Render.Agrees.exists_alike (h : Agrees L host w w') {s s' t : State} {u : Unit}
    (hs : s.Alike L s') (ht : w host s = (.ok u, t)) : ∃ t', t.Alike L t' := by
  have houtcome := h.outcome (.same s.out.failure) s { s' with out := s.out }
    (hs.write s.out s.out) ⟨rfl, rfl⟩
  rw [ht] at houtcome
  generalize w' host _ = e' at houtcome
  cases houtcome with
  | together _ hleft => exact ⟨_, hleft⟩
  | parted h => exact h.elim

theorem agrees_of_echoes {A : Unit → Unit → Prop} (h : Echoes L host w w' A) :
    Agrees L host w w' := by
  refine ⟨fun φ s s' hs hpaired => ?_, fun φ s s' out hs hparted => ?_⟩
  · obtain ⟨hend, hleft, hrests, hrests'⟩ := h s s' hs
    refine .together (hend.imp fun _ _ _ => trivial) hleft hrests.blocks hrests'.blocks ?_
    rw [hrests.out, hrests'.out]
    exact hpaired
  · rw [(h s s' hs).2.2.1.out]
    exact hparted

/-- What is evaluated first is not written. -/
theorem agrees_bind {f : α → Render Unit} {f' : α' → Render Unit} (hr : Echoes L host r r' A)
    (hf : ∀ a a', A a a' → Agrees L host (f a) (f' a')) :
    Agrees L host (r >>= f) (r' >>= f') := by
  refine ⟨fun φ s s' hs hpaired => ?_, fun φ s s' out hs hparted => ?_⟩ <;>
    obtain ⟨hend, hleft, hrests, hrests'⟩ := hr s s' hs
  · rw [run_bind, run_bind]
    rcases hx : (r host s).1 with _ | a <;> rcases hx' : (r' host s').1 with _ | a' <;>
      rw [hx, hx'] at hend <;> cases hend
    · rename_i hh
      refine .together (.error hh) hleft hrests.blocks hrests'.blocks ?_
      rwa [hrests.out, hrests'.out]
    · rename_i ha
      have houtcome := (hf a a' ha).outcome φ _ _ hleft (by rwa [hrests.out, hrests'.out])
      dsimp only
      generalize f a host _ = e at houtcome ⊢
      generalize f' a' host _ = e' at houtcome ⊢
      cases houtcome with
      | together hend hleft hblocks hblocks' hout =>
        exact .together hend hleft (hblocks.trans hrests.blocks) (hblocks'.trans hrests'.blocks)
          hout
      | refused h => exact .refused h
      | parted h => exact .parted h
  · rw [run_bind]
    rcases hx : (r host s).1 with _ | a <;> rcases hx' : (r' host s').1 with _ | a' <;>
      rw [hx, hx'] at hend <;> cases hend
    · dsimp only
      rwa [hrests.out]
    · rename_i ha
      exact (hf a a' ha).more φ _ _ out hleft (by rwa [hrests.out])

theorem agrees_get_bind {f f' : State → Render Unit}
    (hf : ∀ s s', s.Alike L s' → Agrees L host (f s) (f' s')) :
    Agrees L host (get >>= f) (get >>= f') where
  outcome φ s s' hs := (hf s s' hs).outcome φ s s' hs
  more φ s s' out hs := (hf s s' hs).more φ s s' out hs

theorem agrees_read_bind {f f' : Host → Render Unit} (hf : Agrees L host (f host) (f' host)) :
    Agrees L host (read >>= f) (read >>= f') := ⟨hf.outcome, hf.more⟩

/-- What follows is not reached in a render whose sink refused. -/
theorem agrees_seq {v v' : Render Unit} (hw : Agrees L host w w') (hv : Agrees L host v v') :
    Agrees L host (w >>= fun _ => v) (w' >>= fun _ => v') := by
  refine ⟨fun φ s s' hs hpaired => ?_, fun φ s s' out hs hparted => ?_⟩
  · have houtcome := hw.outcome φ s s' hs hpaired
    have hgoal : ∀ {u t}, w host s = (.ok u, t) → ∃ t', State.Alike L t t' := hw.exists_alike hs
    rw [run_bind, run_bind]
    generalize w host s = e at houtcome hgoal ⊢
    generalize w' host s' = e' at houtcome ⊢
    cases houtcome with
    | @together x x' t t' hend hleft hblocks hblocks' hout =>
      cases hend with
      | error hh => exact .together (.error hh) hleft hblocks hblocks' hout
      | ok =>
        have houtcome := hv.outcome φ t t' hleft hout
        dsimp only
        generalize v host t = e at houtcome ⊢
        generalize v' host t' = e' at houtcome ⊢
        cases houtcome with
        | together hend hleft hblocks₂ hblocks₂' hout =>
          exact .together hend hleft (hblocks₂.trans hblocks) (hblocks₂'.trans hblocks') hout
        | refused h => exact .refused h
        | parted h => exact .parted h
    | refused hout => exact .refused hout
    | @parted x t t' hout =>
      cases x with
      | error h => exact .parted hout
      | ok =>
        obtain ⟨u, hu⟩ := hgoal rfl
        exact .parted (hv.more φ t u _ hu hout)
  · have hgoal : ∀ {u t}, w host s = (.ok u, t) → ∃ t', State.Alike L t t' := hw.exists_alike hs
    have hmore := hw.more φ s s' out hs hparted
    rw [run_bind]
    generalize w host s = e at hgoal hmore ⊢
    obtain ⟨_ | _, t⟩ := e
    · exact hmore
    · obtain ⟨u, hu⟩ := hgoal rfl
      exact hv.more φ t u out hu hmore

theorem agrees_within {enter enter' : State → State} {leave leave' : State → State → State}
    (hb : Brackets L enter enter' leave leave') (hw : Agrees L host w w') :
    Agrees L host (within enter leave w) (within enter' leave' w') := by
  refine ⟨fun φ s s' hs hpaired => ?_, fun φ s s' out hs hparted => ?_⟩
  · have houtcome := hw.outcome φ _ _ (hb.entered s s' hs)
      (by rwa [hb.first.enter_out, hb.second.enter_out])
    unfold within
    generalize w host _ = e at houtcome ⊢
    generalize w' host _ = e' at houtcome ⊢
    cases houtcome with
    | together hend hleft hblocks hblocks' hout =>
      refine .together hend (hb.left s s' _ _ hs hleft hblocks hblocks')
        (hb.first.blocks s _ hblocks) (hb.second.blocks s' _ hblocks') ?_
      rwa [hb.first.leave_out, hb.second.leave_out]
    | refused h =>
      refine .refused ?_
      rwa [hb.first.leave_out, hb.second.leave_out]
    | parted h =>
      refine .parted ?_
      rwa [hb.first.leave_out, hb.second.leave_out]
  · change φ.parted (leave s (w host (enter s)).2).out out
    rw [hb.first.leave_out]
    exact hw.more φ _ _ out (hb.entered s s' hs) (by rwa [hb.first.enter_out])

/-- What a body writes into a sink of its own is the same in both renders. -/
theorem echoes_capture (hw : Agrees L host w w') :
    Echoes L host (capture w) (capture w') Eq := by
  intro s s' hs
  have houtcome := hw.outcome .open _ _ (hs.write .empty .empty) ⟨rfl, [], rfl⟩
  unfold capture
  generalize w host _ = e at houtcome ⊢
  generalize w' host _ = e' at houtcome ⊢
  cases houtcome with
  | together hend hleft hblocks hblocks' hout =>
    refine ⟨hend.map fun _ _ _ => ?_, hleft.write _ _, ⟨hblocks, rfl⟩, ⟨hblocks', rfl⟩⟩
    exact congrArg Sink.contents hout.1
  | refused h => exact h.elim
  | parted h => exact h.elim

theorem agrees_write (text : String) : Agrees L host (write text) (write text) := by
  refine ⟨fun φ s s' hs hpaired => ?_, fun φ s s' out hs hparted => φ.more text hparted⟩
  have hfailures := φ.failures_eq hpaired
  have hfirst : φ.failures.1 = s.out.failure := congrArg Prod.fst hfailures
  have hsecond : φ.failures.2 = s'.out.failure := congrArg Prod.snd hfailures
  unfold write
  dsimp only
  rw [← hfirst, ← hsecond]
  rcases φ.write text hpaired with ⟨h, h', hpaired⟩ | ⟨h, h', hrefused⟩ | ⟨h, h', hparted⟩ <;>
    rw [h, h']
  · exact .together (.ok trivial) (hs.write _ _) rfl rfl hpaired
  · exact .refused hrefused
  · exact .parted hparted

end Agrees

section Lawful

variable (hL : L.Lawful host) {w w' : Render Unit}
include hL

theorem agrees_located {p p' : Position} (hp : L.position p p') (hw : Agrees L host w w') :
    Agrees L host (located p w) (located p' w') := by
  refine ⟨fun φ s s' hs hpaired => ?_, fun φ s s' out hs hparted => ?_⟩
  · have houtcome := hw.outcome φ s s' hs hpaired
    have hfailures := φ.failures_eq hpaired
    have hfirst : φ.failures.1.located p = φ.failures.1 := by
      rw [hfailures]
      exact located_failure s.out p
    have hsecond : φ.failures.2.located p' = φ.failures.2 := by
      rw [hfailures]
      exact located_failure s'.out p'
    unfold located
    generalize w host s = e at houtcome ⊢
    generalize w' host s' = e' at houtcome ⊢
    cases houtcome with
    | together hend hleft hblocks hblocks' hout =>
      cases hend with
      | ok => exact .together (.ok trivial) hleft hblocks hblocks' hout
      | error hh => exact .together (.error (hh.located hL hp)) hleft hblocks hblocks' hout
    | refused h =>
      dsimp only [Halt.located]
      rw [hfirst, hsecond]
      exact .refused h
    | @parted x t t' h =>
      dsimp only [Halt.located]
      rw [hsecond]
      cases x with
      | ok => exact .parted h
      | error => exact .parted h
  · have hmore := hw.more φ s s' out hs hparted
    unfold located
    generalize w host s = e at hmore ⊢
    obtain ⟨_ | _, t⟩ := e <;> exact hmore

theorem agrees_deeper (what : String) (hw : Agrees L host w w') :
    Agrees L host (deeper what w) (deeper what w') := by
  refine agrees_get_bind fun s s' hs => ?_
  rw [hs.recursionLimit, hs.depth]
  split
  · exact agrees_of_echoes (A := Eq) (echoes_fail hL _)
  · exact agrees_within brackets_deeper hw

theorem agrees_inScope {bindings bindings' : List (String × Value)}
    (h : List.Forall₂ (L.entry L.value) bindings bindings') (hw : Agrees L host w w') :
    Agrees L host (inScope bindings w) (inScope bindings' w') :=
  agrees_within (brackets_scope (scope_ofList hL h)) hw

theorem agrees_isolated {bindings bindings' : List (String × Value)}
    (h : List.Forall₂ (L.entry L.value) bindings bindings') (hw : Agrees L host w w') :
    Agrees L host (isolated bindings w) (isolated bindings' w') :=
  agrees_within (brackets_isolated (.cons (scope_ofList hL h) (.cons hL.base .nil))) hw

end Lawful

end Stencil
