import Stencil.Proofs.Filters
import Stencil.Proofs.Keeping
import Stencil.Proofs.Values
import Stencil.Render.Exec
import Stencil.Render.State

/-!
# Obeying the rules while rendering

Sinks, values and states obey the rules of the templates that are rendered.
-/

namespace Stencil

/-!
## What sinks hold

A sink obeys the rules of templates if all text in it may stand in templates. For a sink of bytes
this is said about the bytes: the characters of markup are single bytes, which are no part of the
encoding of any other character.
-/

/-! ### Bytes -/

namespace Text

/-- The bytes that encode the characters of markup. -/
def isMarkupByte (b : UInt8) : Bool := isMarkup (Char.ofNat b.toNat)

/-- Bytes that encode no character of markup. -/
def PlainBytes (bytes : ByteArray) : Prop := ∀ b ∈ bytes.data.toList, isMarkupByte b = false

/-- A character of ASCII is one byte, and all others have bytes beyond ASCII only. -/
theorem mem_utf8EncodeChar {c : Char} {b : UInt8} (h : b ∈ String.utf8EncodeChar c) :
    b.toNat = c.toNat ∨ 0x80 ≤ b.toNat := by
  have hval : c.val.toNat = c.toNat := rfl
  unfold String.utf8EncodeChar at h
  dsimp only at h
  rw [hval] at h
  split at h
  · rw [List.mem_singleton.mp h, UInt8.toNat_ofNat']
    omega
  · right
    split at h
    · simp only [List.mem_cons, List.not_mem_nil, or_false] at h
      rcases h with rfl | rfl <;> rw [UInt8.toNat_ofNat'] <;> omega
    · split at h
      · simp only [List.mem_cons, List.not_mem_nil, or_false] at h
        rcases h with rfl | rfl | rfl <;> rw [UInt8.toNat_ofNat'] <;> omega
      · simp only [List.mem_cons, List.not_mem_nil, or_false] at h
        rcases h with rfl | rfl | rfl | rfl <;> rw [UInt8.toNat_ofNat'] <;> omega

theorem isMarkupByte_of_mem {c : Char} {b : UInt8} (hc : isMarkup c = false)
    (h : b ∈ String.utf8EncodeChar c) : isMarkupByte b = false := by
  rcases mem_utf8EncodeChar h with hb | hb
  · unfold isMarkupByte
    rwa [hb, Char.ofNat_toNat]
  · exact isMarkup_ofNat (by omega)

theorem mem_toUTF8 {s : String} {b : UInt8} :
    b ∈ s.toUTF8.data.toList ↔ ∃ c ∈ s.toList, b ∈ String.utf8EncodeChar c := by
  change b ∈ s.toByteArray.data.toList ↔ _
  rw [← String.utf8Encode_toList]
  unfold List.utf8Encode
  rw [List.data_toByteArray, List.toList_toArray, List.mem_flatMap]

/-- A text is plain if and only if its bytes are. -/
theorem plainBytes_toUTF8 {s : String} : PlainBytes s.toUTF8 ↔ Plain s.toList := by
  constructor
  · intro h c hc
    by_cases hascii : c.toNat ≤ 0x7F
    · have hval : c.val.toNat ≤ 0x7F := hascii
      have hb : UInt8.ofNat c.toNat ∈ String.utf8EncodeChar c := by
        unfold String.utf8EncodeChar
        dsimp only
        rw [if_pos hval]
        exact List.mem_singleton_self _
      have hplain := h _ (mem_toUTF8.mpr ⟨c, hc, hb⟩)
      unfold isMarkupByte at hplain
      rwa [UInt8.toNat_ofNat', Nat.mod_eq_of_lt (by omega), Char.ofNat_toNat] at hplain
    · exact isMarkup_of_lt (by omega)
  · intro h b hb
    obtain ⟨c, hc, hb⟩ := mem_toUTF8.mp hb
    exact isMarkupByte_of_mem (h c hc) hb

theorem PlainBytes.extract {bytes : ByteArray} (h : PlainBytes bytes) (start stop : Nat) :
    PlainBytes (bytes.extract start stop) := by
  intro b hb
  rw [ByteArray.data_extract, Array.toList_extract] at hb
  exact h b (List.mem_of_mem_drop (List.mem_of_mem_take hb))

end Text

/-! ### Sinks -/

/-- A sink whose text may stand in templates. -/
def Sink.Obeys (r : Rules) : Sink → Prop
  | .text written _ => ∀ s ∈ written, r.text s
  | .bytes written _ => r.markup ∨ Text.PlainBytes written

variable {r : Rules} {sink : Sink}

theorem obeys_empty : Sink.empty.Obeys r := nofun

theorem text_join {texts : List String} (h : ∀ s ∈ texts, r.text s) :
    r.text (String.join texts) := by
  induction texts with
  | nil => exact Rules.text_empty
  | cons s texts ih =>
    rw [String.join_cons]
    obtain ⟨hs, hrest⟩ := List.forall_mem_cons.mp h
    exact Rules.text_append hs (ih hrest)

/-- Writing keeps to the rules, also where only a part is accepted. -/
theorem Sink.Obeys.write (h : sink.Obeys r) {s : String} (hs : r.text s) :
    (sink.write s).1.Obeys r := by
  unfold Sink.write
  split
  · exact List.forall_mem_cons.mpr ⟨hs, h⟩
  · split
    · exact List.forall_mem_cons.mpr ⟨hs, h⟩
    · refine List.forall_mem_cons.mpr ⟨Rules.text_of_subset hs ?_, h⟩
      rw [String.toList_ofList]
      exact List.take_subset _ _
  · have hbytes : r.markup ∨ Text.PlainBytes s.toUTF8 := hs.imp_right Text.plainBytes_toUTF8.mpr
    rename_i written room
    have happend : ∀ bytes, r.markup ∨ Text.PlainBytes bytes →
        r.markup ∨ Text.PlainBytes (written ++ bytes) := by
      intro bytes hbytes
      rcases h with h | h
      · exact .inl h
      · refine hbytes.imp_right fun hbytes b hb => ?_
        rw [ByteArray.toList_data_append] at hb
        exact (List.mem_append.mp hb).elim (h b) (hbytes b)
    dsimp only
    split
    · exact happend _ hbytes
    · exact happend _ (hbytes.imp_right fun h => h.extract 0 room)

/-- The text of plain bytes is plain. -/
theorem text_textOf {bytes : ByteArray} (h : r.markup ∨ Text.PlainBytes bytes) :
    r.text (Sink.textOf bytes) := by
  unfold Sink.textOf
  dsimp only
  generalize hfound : List.findSome? _ _ = found
  cases found with
  | none => exact Rules.text_empty
  | some s =>
    obtain ⟨cut, -, hcut⟩ := List.exists_of_findSome?_eq_some hfound
    obtain ⟨t, ht, rfl⟩ := Option.map_eq_some_iff.mp hcut
    have htext : r.text t := by
      refine h.imp_right fun h => Text.plainBytes_toUTF8.mp ?_
      have hbytes : t.toUTF8 = bytes.extract 0 (bytes.size - cut) := by
        unfold String.fromUTF8? at ht
        split at ht <;> cases ht
        rfl
      exact hbytes ▸ h.extract 0 _
    split
    · exact htext
    · exact Rules.text_append htext (.inr (by decide))

theorem Sink.Obeys.contents (h : sink.Obeys r) : r.text sink.contents := by
  cases sink with
  | text written room => exact text_join fun s hs => h s (List.mem_reverse.mp hs)
  | bytes written room => exact text_textOf h

/-!
## What renders uphold

While templates that obey rules are rendered, all that the state holds obeys them: the values of all
scopes, the templates of the chain, the bodies that blocks override, and what was written. The rules
for the steps of a render say this at a fixed depth and with a fixed chain. They compare two renders
that differ in their jumps: where the first one does not end with one of some chosen halts, the
second one does the same.
-/

section Steps

/-- What renders keep to. -/
structure Realm where
  rules : Rules
  /-- The sets from which templates may be loaded. -/
  library : Library → Prop
  /-- How a render may halt. -/
  halt : Halt → Prop
  /-- The halts of the first render behind which the second one may differ. -/
  parting : Halt → Prop
  /-- How deep includes and macro calls may nest, and how long a chain may be. -/
  limit : Nat

/-- The most templates that a chain can have. -/
def Realm.chainLimit (g : Realm) : Nat := g.limit - 1 + 1

/-- Rules that the steps of a render cannot break. -/
structure Realm.Lawful (g : Realm) : Prop where
  /-- Without escaping, any text can be written. -/
  escaping : g.rules.escaping false → g.rules.markup
  custom : ¬g.rules.custom
  filter : ∀ name ref, g.rules.filter name ref →
    ∃ f : Filter, ref = .builtin f ∧ (g.rules.markup ∨ f.writesMarkup = false)
  error : ∀ e, g.halt (.error e)
  crashed : g.halt .crashed
  parting : ∀ p h, g.parting h → g.parting (h.located p)
  load : ∀ l referrer name, g.library l →
    g.library (Library.load referrer name l).2 ∧
      Ends (Template.Obeys g.rules) g.halt (Library.load referrer name l).1

/-- A state at a depth and with a chain, in which everything obeys the rules. -/
structure State.Sound (g : Realm) (d : Nat) (c : List Template) (s : State) : Prop where
  depth : s.depth = d
  chain : s.chain = c
  limit : s.recursionLimit = g.limit
  ancestors : ∀ t ∈ c, t.Obeys g.rules
  length : c.length ≤ g.chainLimit
  library : ∀ l ∈ s.set, g.library l
  context : s.context.Obey g.rules
  globals : s.globals.Obey g.rules
  scopes : ∀ scope ∈ s.scopes, Bindings.Obey g.rules scope
  autoescape : g.rules.escaping s.autoescape
  blocks : ∀ overridden ∈ s.blocks, ∀ body ∈ overridden,
    ∃ blocks, Body.Obeys g.rules blocks g.rules.nesting body
  out : s.out.Obeys g.rules

namespace State.Sound

variable {g : Realm} {d : Nat} {c : List Template} {s : State}

theorem bind (h : s.Sound g d c) (name : String) {v : Value} (hv : v.Obeys g.rules) :
    (s.bind name v).Sound g d c := by
  unfold State.bind
  split
  · exact h
  · rename_i scope rest hscopes
    obtain ⟨hscope, hrest⟩ := List.forall_mem_cons.mp (hscopes ▸ h.scopes)
    exact { h with
      scopes := List.forall_mem_cons.mpr ⟨Table.forall_mem_insert hscope hv, hrest⟩ }

theorem lookup (h : s.Sound g d c) (name : String) : (s.lookup name).Obeys g.rules := by
  unfold State.lookup
  split
  · rename_i v hfound
    obtain ⟨scope, hscope, hget⟩ := List.exists_of_findSome?_eq_some hfound
    exact h.scopes scope hscope (name, v) (Table.mem_of_get? hget)
  · split
    · rename_i v hget
      exact h.context (name, v) (Table.mem_of_get? hget)
    · exact obeys_lookup h.globals name

end State.Sound

namespace Render

/-- In sound states, `r` gives what `A` holds for and leaves a sound state; `r'` does the same as
`r` unless `r` halts where they may part. -/
def Upholds {α : Type} (g : Realm) (host : Host) (d : Nat) (c : List Template) (r r' : Render α)
    (A : α → Prop) : Prop :=
  ∀ s : State, s.Sound g d c →
    (r host s).2.Sound g d c ∧ Ends A g.halt (r host s).1 ∧
      (r' host s = r host s ∨ ∃ h, (r host s).1 = .error h ∧ g.parting h)

end Render

open Render

variable {g : Realm} {host : Host} {d d' : Nat} {c c' : List Template} {α β : Type}
  {A A' : α → Prop} {B : β → Prop} {r r' : Render α}

/-! ### Rules -/

section Steps

theorem upholds_pure {a : α} (ha : A a) : Upholds g host d c (pure a) (pure a) A :=
  fun _ hs => ⟨hs, ha, .inl rfl⟩

theorem upholds_of_sound (h : ∀ s, State.Sound g d c s → Upholds g host d c r r' A) :
    Upholds g host d c r r' A := fun s hs => h s hs s hs

theorem upholds_bind {f f' : α → Render β} (hr : Upholds g host d c r r' A)
    (hf : ∀ a, A a → Upholds g host d c (f a) (f' a) B) :
    Upholds g host d c (r >>= f) (r' >>= f') B := by
  intro s hs
  obtain ⟨hsound, hends, hsame⟩ := hr s hs
  rw [run_bind, run_bind]
  rcases hresult : r host s with ⟨_ | a, t⟩ <;> rw [hresult] at hsound hends hsame
  · rename_i h
    refine ⟨hsound, hends, ?_⟩
    rcases hsame with hsame | ⟨h', hh', hparting⟩
    · exact .inl (by rw [hsame])
    · exact .inr ⟨h', congrArg Except.error (Except.error.inj hh'), hparting⟩
  · rcases hsame with hsame | ⟨_, hh, -⟩
    · rw [hsame]
      exact hf a hends t hsound
    · cases hh

theorem upholds_get_bind {f f' : State → Render α}
    (hf : ∀ s, State.Sound g d c s → Upholds g host d c (f s) (f' s) A) :
    Upholds g host d c (get >>= f) (get >>= f') A := fun s hs => hf s hs s hs

theorem upholds_read_bind {f f' : Host → Render α} (hf : Upholds g host d c (f host) (f' host) A) :
    Upholds g host d c (read >>= f) (read >>= f') A := hf

theorem upholds_modify {f : State → State} (hf : ∀ s, State.Sound g d c s → (f s).Sound g d c) :
    Upholds g host d c (modify f) (modify f) fun _ => True :=
  fun s hs => ⟨hf s hs, trivial, .inl rfl⟩

theorem upholds_assign (name : String) {v : Value} (hv : v.Obeys g.rules) :
    Upholds g host d c (modify (·.bind name v)) (modify (·.bind name v)) fun _ => True :=
  upholds_modify fun _ hs => hs.bind name hv

/-- Steps that change the state for a part of a render and set it back behind it. -/
theorem upholds_within {enter : State → State} {leave : State → State → State}
    (hr : Upholds g host d' c' r r' A) (henter : ∀ s, State.Sound g d c s → (enter s).Sound g d' c')
    (hleave : ∀ s t, State.Sound g d c s → State.Sound g d' c' t → (leave s t).Sound g d c) :
    Upholds g host d c (within enter leave r) (within enter leave r') A := by
  intro s hs
  obtain ⟨hsound, hends, hsame⟩ := hr (enter s) (henter s hs)
  refine ⟨hleave s _ hs hsound, hends, ?_⟩
  unfold within
  rcases hsame with hsame | hparting
  · exact .inl (by rw [hsame])
  · exact .inr hparting

theorem upholds_inScope {bindings : List (String × Value)}
    (hbindings : ∀ e ∈ bindings, e.2.Obeys g.rules) (hr : Upholds g host d c r r' A) :
    Upholds g host d c (inScope bindings r) (inScope bindings r') A := by
  refine upholds_within hr (fun s hs => ?_) fun s t hs ht => ?_
  · exact { hs with scopes := List.forall_mem_cons.mpr ⟨obey_ofList hbindings, hs.scopes⟩ }
  · exact { ht with scopes := fun scope hscope => ht.scopes scope (List.mem_of_mem_tail hscope) }

theorem obey_baseScope : Bindings.Obey g.rules State.baseScope := by
  refine List.forall_mem_singleton.mpr (.map (List.forall_mem_singleton.mpr (.func ?_)))
  exact trivial

theorem upholds_isolated {bindings : List (String × Value)}
    (hbindings : ∀ e ∈ bindings, e.2.Obeys g.rules) (hr : Upholds g host d c r r' A) :
    Upholds g host d c (isolated bindings r) (isolated bindings r') A := by
  refine upholds_within hr (fun s hs => ?_) fun s t hs ht => ?_
  · exact { hs with
      scopes := List.forall_mem_cons.mpr
        ⟨obey_ofList hbindings, List.forall_mem_singleton.mpr obey_baseScope⟩ }
  · exact { ht with scopes := hs.scopes }

theorem upholds_withAutoescape {enabled : Bool} (henabled : g.rules.escaping enabled)
    (hr : Upholds g host d c r r' A) :
    Upholds g host d c (withAutoescape enabled r) (withAutoescape enabled r') A :=
  upholds_within hr (fun _ hs => { hs with autoescape := henabled })
    fun _ _ hs ht => { ht with autoescape := hs.autoescape }

theorem upholds_withChain (hancestors : ∀ t ∈ c', t.Obeys g.rules)
    (hlength : c'.length ≤ g.chainLimit) (hr : Upholds g host d c' r r' A) :
    Upholds g host d c (withChain c' r) (withChain c' r') A :=
  upholds_within hr
    (fun _ hs => { hs with chain := rfl, ancestors := hancestors, length := hlength })
    fun _ _ hs ht => { ht with chain := hs.chain, ancestors := hs.ancestors, length := hs.length }

theorem upholds_withBlock {overridden : List Body}
    (hoverridden : ∀ body ∈ overridden, ∃ blocks, Body.Obeys g.rules blocks g.rules.nesting body)
    (hr : Upholds g host d c r r' A) :
    Upholds g host d c (withBlock overridden r) (withBlock overridden r') A := by
  refine upholds_within hr (fun s hs => ?_) fun s t hs ht => ?_
  · exact { hs with blocks := List.forall_mem_cons.mpr ⟨hoverridden, hs.blocks⟩ }
  · exact { ht with blocks := fun frame hframe => ht.blocks frame (List.mem_of_mem_tail hframe) }

theorem upholds_write {text : String} (htext : g.rules.text text) (hhalt : ∀ e, g.halt (.error e)) :
    Upholds g host d c (write text) (write text) fun _ => True := by
  intro s hs
  refine ⟨{ hs with out := hs.out.write htext }, ?_, .inl rfl⟩
  unfold write
  dsimp only
  split
  · exact trivial
  · exact hhalt _

/-- What a body writes into a sink of its own may stand in templates. -/
theorem upholds_capture {r r' : Render Unit} (hr : Upholds g host d c r r' fun _ => True) :
    Upholds g host d c (capture r) (capture r') g.rules.text := by
  intro s hs
  obtain ⟨hsound, hends, hsame⟩ := hr { s with out := .empty } { hs with out := obeys_empty }
  unfold capture
  rcases hresult : r host { s with out := .empty } with ⟨_ | a, t⟩ <;>
    rw [hresult] at hsound hends hsame
  · refine ⟨{ hsound with out := hs.out }, hends, ?_⟩
    rcases hsame with hsame | ⟨h', hh', hparting⟩
    · exact .inl (by rw [hsame])
    · exact .inr ⟨h', congrArg Except.error (Except.error.inj hh'), hparting⟩
  · refine ⟨{ hsound with out := hs.out }, hsound.out.contents, .inl ?_⟩
    rcases hsame with hsame | ⟨_, hh, -⟩
    · rw [hsame]
    · cases hh

end Steps

section Lawful

variable (hg : g.Lawful)
include hg

theorem upholds_fail (fault : RunFault) :
    Upholds g host d c (fail fault : Render α) (fail fault) A :=
  fun _ hs => ⟨hs, hg.error _, .inl rfl⟩

theorem upholds_throw (e : Error) :
    Upholds g host d c (throw (.error e) : Render α) (throw (.error e)) A :=
  fun _ hs => ⟨hs, hg.error _, .inl rfl⟩

theorem upholds_crash : Upholds g host d c (throw .crashed : Render α) (throw .crashed) A :=
  fun _ hs => ⟨hs, hg.crashed, .inl rfl⟩

theorem upholds_ofFault {result : Except RunFault α} (h : ∀ a, result = .ok a → A a) :
    Upholds g host d c (ofFault result) (ofFault result) A := by
  cases result with
  | ok a => exact upholds_pure (h a rfl)
  | error fault => exact upholds_fail hg fault

theorem upholds_located (p : Position) (hr : Upholds g host d c r r' A) :
    Upholds g host d c (located p r) (located p r') A := by
  intro s hs
  obtain ⟨hsound, hends, hsame⟩ := hr s hs
  unfold located
  rcases hresult : r host s with ⟨_ | a, t⟩ <;> rw [hresult] at hsound hends hsame
  · rename_i h
    refine ⟨hsound, ?_, ?_⟩
    · cases h with
      | error e => exact hg.error _
      | exhausted => exact hends
    · rcases hsame with hsame | ⟨h', hh', hparting⟩
      · exact .inl (by rw [hsame])
      · cases hh'
        exact .inr ⟨_, rfl, hg.parting p h hparting⟩
  · refine ⟨hsound, hends, .inl ?_⟩
    rcases hsame with hsame | ⟨_, hh, -⟩
    · rw [hsame]
    · cases hh

/-- Loading gives templates that obey the rules. -/
theorem upholds_load (referrer : Option String) (name : String) :
    Upholds g host d c (load referrer name) (load referrer name) (Template.Obeys g.rules) := by
  intro s hs
  unfold load
  split
  · exact ⟨hs, hg.error _, .inl rfl⟩
  · rename_i l hset
    obtain ⟨hlibrary, hends⟩ := hg.load l referrer name (hs.library l hset)
    refine ⟨{ hs with library := ?_ }, hends, .inl rfl⟩
    rintro _ ⟨⟩
    exact hlibrary

omit hg in
theorem upholds_attempt (hr : Upholds g host d c r r A) :
    Upholds g host d c (attempt r) (attempt r) fun result => ∀ a, result = .ok a → A a := by
  intro s hs
  obtain ⟨hsound, hends, -⟩ := hr s hs
  refine ⟨?_, ?_, .inl rfl⟩ <;> unfold attempt <;> split <;> rename_i heq <;>
    rw [heq] at hsound hends
  · exact hsound
  · exact hsound
  · exact hsound
  · rintro _ ⟨⟩
    exact hends
  · exact nofun
  · exact hends

theorem upholds_requireSet : Upholds g host d c requireSet requireSet fun _ => True := by
  refine upholds_get_bind fun s _ => ?_
  split
  · exact upholds_fail hg _
  · exact upholds_pure trivial

theorem upholds_deeper {what : String} (hr : d < g.limit → Upholds g host (d + 1) c r r' A) :
    Upholds g host d c (deeper what r) (deeper what r') A := by
  refine upholds_get_bind fun s hs => ?_
  split
  · exact upholds_fail hg _
  · rename_i hlimit
    rw [hs.limit, hs.depth] at hlimit
    refine upholds_within (hr (by omega)) (fun s hs => ?_) fun s t hs ht => ?_
    · exact { hs with depth := congrArg (· + 1) hs.depth }
    · exact { ht with depth := by rw [ht.depth]; rfl }

/-- Values are written without escaping only if they are safe or any text may be written. -/
theorem upholds_writeValue {v : Value} (hv : v.Obeys g.rules) :
    Upholds g host d c (writeValue v) (writeValue v) fun _ => True := by
  refine upholds_get_bind fun s hs => upholds_write ?_ hg.error
  split
  · exact Rules.text_escapeHtml _
  · rename_i hplain
    cases hescaping : s.autoescape with
    | false => exact .inl (hg.escaping (hescaping ▸ hs.autoescape))
    | true =>
      refine hv.text ?_
      simpa [hescaping] using hplain

end Lawful

end Steps

end Stencil
