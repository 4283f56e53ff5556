import Stencil.Proofs.Keeping
import Stencil.Proofs.Streaming
import Stencil.Proofs.Within.Exec
import Stencil.Proofs.Within.Vocabulary

/-!
# A call of a macro, inlined

A call of a macro does what a `with` tag does that binds the parameters and runs the body on the
spot (`call_inlined`).
-/

namespace Stencil

/-!
## Sinks that hold the same

Whether a text is written at once or in pieces makes no difference to what a sink holds and to the
room that it has left. So a render that collects its output and one that goes on writing to a sink
go together as long as that sink takes what was collected (`SinkPairing.onto`).
-/

namespace Sink

/-- Two sinks that hold the same text, in pieces of their own, and have the same room. -/
inductive Alike : Sink → Sink → Prop where
  | text {written written' : List String} (room : Option Nat)
      (h : String.join written.reverse = String.join written'.reverse) :
      Alike (.text written room) (.text written' room)
  | bytes (written : ByteArray) (room : Nat) : Alike (.bytes written room) (.bytes written room)

theorem Alike.refl (a : Sink) : a.Alike a := by
  cases a with
  | text written room => exact .text room rfl
  | bytes written room => exact .bytes written room

theorem Alike.contents {a b : Sink} (h : a.Alike b) : a.contents = b.contents := by
  cases h with
  | text room h => exact h
  | bytes => rfl

theorem Alike.failure {a b : Sink} (h : a.Alike b) : a.failure = b.failure := by
  cases h <;> rfl

theorem Alike.trans {a b c : Sink} (h : a.Alike b) (h' : b.Alike c) : a.Alike c := by
  cases h with
  | text room h =>
    cases h' with
    | text _ h' => exact .text room (h.trans h')
  | bytes => exact h'

theorem toUTF8_append (s s' : String) : (s ++ s').toUTF8 = s.toUTF8 ++ s'.toUTF8 :=
  String.toByteArray_append

theorem join_reverse_cons (s : String) (written : List String) :
    String.join (s :: written).reverse = String.join written.reverse ++ s := by simp

/-- Sinks that hold the same take the same. -/
theorem Alike.write {a b : Sink} (h : a.Alike b) (s : String) :
    (a.write s).2 = (b.write s).2 ∧ (a.write s).1.Alike (b.write s).1 := by
  cases h with
  | @text written written' room h =>
    have hmore (s : String) :
        String.join (s :: written).reverse = String.join (s :: written').reverse := by
      rw [join_reverse_cons, join_reverse_cons, h]
    cases room with
    | none => exact ⟨rfl, .text _ (hmore s)⟩
    | some room =>
      unfold Sink.write
      dsimp only
      split
      · exact ⟨rfl, .text _ (hmore s)⟩
      · exact ⟨rfl, .text _ (hmore _)⟩
  | bytes => exact ⟨rfl, .refl _⟩

theorem write_empty (a : Sink) : (a.write "").2 = true ∧ a.Alike (a.write "").1 := by
  have hjoin (written : List String) :
      String.join written.reverse = String.join ("" :: written).reverse := by
    rw [join_reverse_cons, String.append_empty]
  cases a with
  | text written room =>
    cases room with
    | none => exact ⟨rfl, .text none (hjoin written)⟩
    | some room => exact ⟨rfl, .text (some room) (hjoin written)⟩
  | bytes written room =>
    have hleft : (Sink.bytes written room).write "" =
      (.bytes (written ++ .empty) (room - 0), true) :=
      rfl
    rw [hleft, ByteArray.append_empty, Nat.sub_zero]
    exact ⟨rfl, .refl _⟩

/-- A text is taken if its first part and then the rest are. -/
theorem write_append_taken (a : Sink) (s s' : String) :
    (a.write (s ++ s')).2 = ((a.write s).2 && ((a.write s).1.write s').2) := by
  cases a with
  | text written room =>
    cases room with
    | none => rfl
    | some room =>
      unfold Sink.write
      dsimp only
      rw [String.length_append]
      by_cases hs : s.length ≤ room
      · rw [if_pos hs]
        dsimp only
        by_cases hs' : s'.length ≤ room - s.length
        · rw [if_pos hs', if_pos (by omega)]
          rfl
        · rw [if_neg hs', if_neg (by omega)]
          rfl
      · rw [if_neg hs, if_neg (by omega)]
        rfl
  | bytes written room =>
    unfold Sink.write
    dsimp only
    rw [toUTF8_append, ByteArray.size_append]
    by_cases hs : s.toUTF8.size ≤ room
    · rw [if_pos hs]
      dsimp only
      by_cases hs' : s'.toUTF8.size ≤ room - s.toUTF8.size
      · rw [if_pos hs', if_pos (by omega)]
        rfl
      · rw [if_neg hs', if_neg (by omega)]
        rfl
    · rw [if_neg hs, if_neg (by omega)]
      rfl

/-- A text that is taken is taken in two parts alike. -/
theorem alike_write_append {a : Sink} {s s' : String} (h : (a.write (s ++ s')).2 = true) :
    ((a.write s).1.write s').1.Alike (a.write (s ++ s')).1 := by
  have hjoin (written : List String) :
      String.join (s' :: s :: written).reverse = String.join ((s ++ s') :: written).reverse := by
    rw [join_reverse_cons, join_reverse_cons, join_reverse_cons, String.append_assoc]
  cases a with
  | text written room =>
    cases room with
    | none => exact .text none (hjoin written)
    | some room =>
      have hlength : s.length + s'.length ≤ room := by
        unfold Sink.write at h
        dsimp only at h
        rw [String.length_append] at h
        by_contra hlong
        rw [if_neg hlong] at h
        cases h
      unfold Sink.write
      dsimp only
      rw [String.length_append, if_pos hlength, if_pos (by omega)]
      dsimp only
      rw [if_pos (by omega), Nat.sub_add_eq]
      exact .text _ (hjoin written)
  | bytes written room =>
    have hsize : s.toUTF8.size + s'.toUTF8.size ≤ room := by
      unfold Sink.write at h
      dsimp only at h
      rw [toUTF8_append, ByteArray.size_append] at h
      by_contra hlong
      rw [if_neg hlong] at h
      cases h
    unfold Sink.write
    dsimp only
    rw [toUTF8_append, ByteArray.size_append, if_pos hsize, if_pos (by omega)]
    dsimp only
    rw [if_pos (by omega), Nat.sub_add_eq, ByteArray.append_assoc]
    exact .refl _

end Sink

/-- A sink of its own, and one that goes on from `base` with the same text. -/
def SinkPairing.onto (base : Sink) : SinkPairing where
  paired a b := a.Open ∧ (base.write a.contents).2 = true ∧ b.Alike (base.write a.contents).1
  refused _ _ := False
  parted a _ := a.Open ∧ (base.write a.contents).2 = false
  failures := (.write, base.failure)
  failures_eq := by
    rintro _ b ⟨⟨written, rfl⟩, -, h⟩
    rw [h.failure, failure_write]
    rfl
  write := by
    rintro _ b text ⟨⟨written, rfl⟩, htaken, h⟩
    have hcontents : (((Sink.text written none).write text).1).contents =
        (Sink.text written none).contents ++ text := contents_write_text written none text
    obtain ⟨htext, hleft⟩ := h.write text
    rw [hcontents]
    have hboth := Sink.write_append_taken base (Sink.text written none).contents text
    rw [htaken, Bool.true_and, ← htext] at hboth
    cases hb : (b.write text).2 with
    | true =>
      rw [hb] at hboth
      exact .inl ⟨rfl, rfl, ⟨_, rfl⟩, hboth, hleft.trans (Sink.alike_write_append hboth)⟩
    | false =>
      rw [hb] at hboth
      exact .inr (.inr ⟨rfl, rfl, ⟨_, rfl⟩, hboth⟩)
  more := by
    rintro _ b text ⟨⟨written, rfl⟩, hrefused⟩
    have hcontents : (((Sink.text written none).write text).1).contents =
        (Sink.text written none).contents ++ text := contents_write_text written none text
    refine ⟨⟨_, rfl⟩, ?_⟩
    rw [hcontents, Sink.write_append_taken, hrefused]
    rfl

/-!
## Calls of macros and what stands for them

A call of a macro collects what the body writes and shows it, inside the counter of calls. A `with`
tag whose bindings give the parameters their arguments and defaults runs the same body on the spot.
Where the call succeeds, the tag does as well, writes the same and leaves the same state
(`call_inlined`). For this the body is carried from one level deeper to the level of the call, and
then from a sink of its own to that of the template.
-/

section Calls

open Render

/-! ### One level up -/

/-- A host whose functions do not see how deep the render is, and whose tags pass errors on. -/
structure Host.Level (host : Host) : Prop where
  function : ∀ key data args s d, host.function key data args { s with depth := d } =
    ((host.function key data args s).1, { (host.function key data args s).2 with depth := d })
  captured : ∀ key e, ∃ e', host.captured key (.error e) = .error e'

/-- The same state at the depth `d` and one level deeper. -/
structure State.Below (d : Nat) (s s' : State) : Prop where
  depth : s'.depth = d
  eq : s = { s' with depth := d + 1 }

variable {host : Host}

theorem State.below (s : State) : State.Below s.depth { s with depth := s.depth + 1 } s :=
  ⟨rfl, rfl⟩

/-- What is set back in the same way at both depths. -/
theorem surrounds_below {enter : State → State} {leave : State → State → State}
    (henter : ∀ s d, enter { s with depth := d } = { enter s with depth := d })
    (hleave : ∀ s t d, leave { s with depth := d } t = leave s t)
    (hleft : ∀ s t d, leave s { t with depth := d } = { leave s t with depth := d }) :
    Surrounds State.Below enter leave := by
  rintro d s s' ⟨hdepth, rfl⟩
  have hkept {f : State → State} (hf : ∀ s d, f { s with depth := d } = { f s with depth := d })
      (s : State) : (f s).depth = s.depth := by
    have h := congrArg State.depth (hf s s.depth)
    exact h
  refine ⟨d, ⟨(hkept henter s').trans hdepth, henter s' _⟩, ?_⟩
  rintro t t' ⟨htdepth, rfl⟩
  refine ⟨(hkept (hleft s') t').trans htdepth, ?_⟩
  rw [hleave, hleft]

/-- One level up, nothing that can be said in a template is different. -/
theorem carried_below (h : host.Level) : Carried host .whole State.Below where
  lookup := by
    rintro d s s' name ⟨-, rfl⟩ -
    exact ⟨rfl, Value.within_whole _⟩
  autoescape := by
    rintro d s s' ⟨-, rfl⟩
    rfl
  recursionLimit := by
    rintro d s s' ⟨-, rfl⟩
    rfl
  room := by
    rintro d s s' ⟨rfl, rfl⟩ hroom
    exact Nat.lt_of_succ_lt hroom
  out := by
    rintro d s s' ⟨-, rfl⟩
    rfl
  output := by
    rintro d s s' out ⟨rfl, rfl⟩
    exact ⟨rfl, rfl⟩
  bind := by
    rintro d s s' name v ⟨rfl, rfl⟩ -
    unfold State.bind
    dsimp only
    split <;> exact ⟨rfl, rfl⟩
  bodies := by
    rintro d s s' name ⟨-, rfl⟩ -
    exact ⟨rfl, fun _ _ n _ => n.within_whole⟩
  overridden := by
    rintro d s s' ⟨-, rfl⟩
    exact ⟨rfl, fun _ _ n _ => n.within_whole⟩
  set := by
    rintro d s s' ⟨-, rfl⟩ -
    rfl
  load := by
    rintro d s s' l referrer name ⟨rfl, rfl⟩ - -
    exact ⟨fun t _ => t.within_whole, rfl, rfl⟩
  links _ := Template.within_whole _
  imported _ := Macro.within_whole _
  scope _ := surrounds_below (fun _ _ => rfl) (fun _ _ _ => rfl) fun _ _ _ => rfl
  isolated _ := surrounds_below (fun _ _ => rfl) (fun _ _ _ => rfl) fun _ _ _ => rfl
  escaping _ := surrounds_below (fun _ _ => rfl) (fun _ _ _ => rfl) fun _ _ _ => rfl
  deeper := by
    rintro d s s' ⟨rfl, rfl⟩
    refine ⟨s'.depth + 1, ⟨rfl, rfl⟩, ?_⟩
    rintro t t' ⟨ht, rfl⟩
    refine ⟨?_, ?_⟩
    · change t'.depth - 1 = s'.depth
      rw [ht, Nat.add_sub_cancel]
    · rfl
  chain _ := surrounds_below (fun _ _ => rfl) (fun _ _ _ => rfl) fun _ _ _ => rfl
  block _ := surrounds_below (fun _ _ => rfl) (fun _ _ _ => rfl) fun _ _ _ => rfl
  function := by
    rintro d s s' key data args v t ⟨rfl, rfl⟩ - - hrun
    rw [h.function] at hrun
    have hkept := congrArg (fun e => e.2.depth) (h.function key data args s' s'.depth)
    obtain ⟨hend, rfl⟩ := Prod.mk.inj hrun
    exact ⟨v.within_whole, _, Prod.ext hend rfl, hkept, rfl⟩
  method _ _ := Value.within_whole _
  filter _ _ _ := Value.within_whole _
  captured := h.captured

section Level

variable (h : host.Level) (fuel : Nat)
include h

theorem carries_run_up (body : Body) :
    Carries host State.Below ((Jumps.upTo fuel).run body) (execNodes (.upTo fuel) body)
      fun _ => True := by
  cases fuel with
  | zero => exact carries_throw _ _
  | succ fuel =>
    exact carries_execNodes (carried_below h) (carry_upTo (carried_below h) (Nat.le_succ fuel)) body
      fun n _ => n.within_whole

theorem carries_eval_up (e : Expr) :
    Carries host State.Below ((Jumps.upTo fuel).eval e) (e.eval (.upTo fuel))
      (Value.Within .whole) := by
  cases fuel with
  | zero => exact carries_throw _ _
  | succ fuel =>
    exact carries_eval (carried_below h) (carry_upTo (carried_below h) (Nat.le_succ fuel)) e
      e.within_whole

end Level

/-! ### The body on the spot -/

/-- The bindings of a `with` tag that give the parameters of a macro their arguments and, behind
them, their defaults. There are none for too many arguments, or where a default is missing. -/
def inlineBindings : List (String × Option Expr) → List Expr → Option (List (String × Expr))
  | [], [] => some []
  | [], _ :: _ => none
  | (name, _) :: params, e :: args => (inlineBindings params args).map ((name, e) :: ·)
  | (name, some e) :: params, [] => (inlineBindings params []).map ((name, e) :: ·)
  | (_, none) :: _, [] => none

section Inline

variable (h : host.Level) {fuel : Nat}
include h

/-- Arguments, and defaults one level deeper, have the values that the bindings of the tag have. -/
theorem evalBindings_inline {params : List (String × Option Expr)} {args : List Expr}
    {bindings : List (String × Expr)} (hbindings : inlineBindings params args = some bindings)
    {s t u : State} {vs : List Value} {values : List (String × Value)}
    (hargs : evalAll (.upTo fuel) args host s = (.ok vs, t))
    (hparams : bindParameters (.upTo fuel) params vs host { t with depth := t.depth + 1 } =
      (.ok values, u)) :
    ∃ u', evalBindings (.upTo fuel) bindings host s = (.ok values, u') ∧
      State.Below t.depth u u' := by
  induction params, args using inlineBindings.induct generalizing bindings s t u vs values with
  | case1 =>
    cases hbindings
    cases hargs
    cases hparams
    exact ⟨s, rfl, s.below⟩
  | case2 => cases hbindings
  | case3 name default params e args ih =>
    obtain ⟨rest, hrest, rfl⟩ := Option.map_eq_some_iff.mp hbindings
    obtain ⟨v, s₁, hv, hmore⟩ := exists_of_run_bind hargs
    obtain ⟨vs', s₂, hvs, hpure⟩ := exists_of_run_bind hmore
    cases hpure
    obtain ⟨values', u₁, hvalues, hpure⟩ := exists_of_run_bind hparams
    cases hpure
    obtain ⟨u', hu', hbelow⟩ := ih hrest hvs hvalues
    exact ⟨u', (run_bind_of_ok hv).trans (run_bind_of_ok hu'), hbelow⟩
  | case4 name e params ih =>
    obtain ⟨rest, hrest, rfl⟩ := Option.map_eq_some_iff.mp hbindings
    cases hargs
    obtain ⟨v, s₁, hv, hmore⟩ := exists_of_run_bind hparams
    obtain ⟨values', u₁, hvalues, hpure⟩ := exists_of_run_bind hmore
    cases hpure
    obtain ⟨-, s₁', hv', hdepth, rfl⟩ := carries_eval_up h fuel e _ _ _ s.below v s₁ hv
    rw [← hdepth] at hvalues ⊢
    obtain ⟨u', hu', hbelow⟩ := ih hrest rfl hvalues
    exact ⟨u', (run_bind_of_ok hv').trans (run_bind_of_ok hu'), hbelow⟩
  | case5 => cases hbindings

end Inline

/-- What a body wrote into a sink of its own it writes into any sink that takes that text. -/
theorem execNodes_onto (hmodest : host.Modest) {fuel : Nat} {body : Body}
    {s t : State}
    (hrun : execNodes (.upTo fuel) body host { s with out := .empty } = (.ok (), t))
    (htaken : (s.out.write t.out.contents).2 = true) :
    ∃ out, execNodes (.upTo fuel) body host s = (.ok (), { t with out }) ∧
      out.Alike (s.out.write t.out.contents).1 := by
  have hL := lawful_same hmodest
  have hagrees := agrees_execNodes hL (agree_upTo hL fuel) body body
    (forall₂_refl Node.congruent_same body)
  have hstart : State.Alike .same { s with out := .empty } s :=
    alike_same.mpr ⟨rfl, rfl, rfl, rfl, rfl, rfl, rfl, rfl, rfl⟩
  have hempty : (s.out.write Sink.empty.contents).2 = true ∧
      s.out.Alike (s.out.write Sink.empty.contents).1 := s.out.write_empty
  have houtcome := hagrees.outcome (.onto s.out) _ s hstart ⟨⟨[], rfl⟩, hempty⟩
  rw [hrun] at houtcome
  generalize execNodes (.upTo fuel) body host s = e at houtcome ⊢
  cases houtcome with
  | @together x x' t t' hend hleft hblocks hblocks' hout =>
    obtain ⟨-, -, hsame⟩ := hout
    obtain ⟨hset, hcontext, hglobals, hscopes, hautoescape, hchain, -, hdepth, hlimit⟩ :=
      alike_same.mp hleft
    cases hend
    refine ⟨t'.out, ?_, hsame⟩
    have heq : t' = { t with out := t'.out } := by
      cases t
      cases t'
      simp_all
    rw [← heq]
  | parted hout =>
    cases htaken.symm.trans hout.2

/-! ### Calls -/

/-- What happens where a call of a macro succeeds. -/
theorem exists_of_call {j : Jumps} {s t : State} {m : Macro} {name : String} {args : List Expr}
    {p q : Position} (hm : s.lookup name = .func (.ofMacro m))
    (h : (Node.output p (.path name [.call args] q)).exec j host s = (.ok (), t)) :
    ∃ vs s₁ values s₂ text s₃, evalAll j args host s = (.ok vs, s₁) ∧
      bindParameters j m.params vs host { s₁ with depth := s₁.depth + 1 } = (.ok values, s₂) ∧
      inScope values (capture (j.run m.body)) host s₂ = (.ok text, s₃) ∧
      write text host { s₃ with depth := s₃.depth - 1 } = (.ok (), t) := by
  obtain ⟨v, u, hpath, hwrite⟩ := exists_of_run_bind (ok_of_located h)
  have hpath := ok_of_located hpath
  rw [run_get_bind, hm, evalPath.eq_def] at hpath
  obtain ⟨vs, s₁, hvs, hrest⟩ := exists_of_run_bind hpath
  obtain ⟨w, s₄, hcalled, hrest⟩ := exists_of_run_bind hrest
  have hcalled : (ofFault ((Function.ofMacro m).check vs) >>= fun _ => callMacro j m vs) host s₁ =
      (.ok w, s₄) := hcalled
  obtain ⟨⟨⟩, s₅, hchecked, hmacro⟩ := exists_of_run_bind hcalled
  have hkept : s₅ = s₁ := by
    generalize (Function.ofMacro m).check vs = checked at hchecked
    cases checked <;> cases hchecked
    rfl
  subst hkept
  obtain ⟨s₆, hbody, rfl⟩ := exists_of_deeper hmacro
  obtain ⟨values, s₂, hvalues, hbody⟩ := exists_of_run_bind hbody
  obtain ⟨text, s₃, htext, hend⟩ := exists_of_run_bind hbody
  obtain ⟨hend, rfl⟩ := Prod.mk.inj hend
  cases hend
  cases hrest
  refine ⟨vs, s₅, values, s₂, text, _, hvs, hvalues, htext, ?_⟩
  rw [writeValue, run_get_bind] at hwrite
  simpa [Value.isSafe, Value.text] using hwrite

/-- Evaluating writes nothing. -/
theorem out_evalBindings (hmodest : host.Modest) (fuel : Nat) (bindings : List (String × Expr))
    (s : State) : (evalBindings (.upTo fuel) bindings host s).2.out = s.out :=
  have hL := lawful_same hmodest
  (echoes_evalBindings hL (agree_upTo hL fuel) (forall₂_refl (entry_same fun _ => rfl) bindings) s s
    (alike_same.mpr (.refl s))).2.2.1.out

/-- Where a call of a macro succeeds and writes a text, a `with` tag that binds the parameters to
the arguments, and those behind them to their defaults, and that holds the body of the macro,
succeeds in the same state, writes the same text and leaves the same state. -/
theorem call_inlined (hmodest : host.Modest) (hlevel : host.Level) {m : Macro} {args : List Expr}
    {bindings : List (String × Expr)} (hbindings : inlineBindings m.params args = some bindings)
    {fuel : Nat} {s t : State} {name tag : String} {p q r : Position}
    (hm : s.lookup name = .func (.ofMacro m))
    (hcall : (Node.output p (.path name [.call args] q)).exec (.upTo fuel) host s = (.ok (), t)) :
    ∃ w t', s.out.write w = (t.out, true) ∧
      (Node.tag tag r (.bind bindings m.body)).exec (.upTo fuel) host s = (.ok (), t') ∧
      t'.out.Alike t.out ∧ t = { t' with out := t.out } := by
  obtain ⟨vs, s₁, values, s₂, text, s₃, hargs, hvalues, hbody, hwrite⟩ := exists_of_call hm hcall
  obtain ⟨s₂', hvalues', hbelow⟩ := evalBindings_inline hlevel hbindings hargs hvalues
  have hb := carried_below hlevel
  -- The body as it runs inside of the call, one level up but still with a sink of its own.
  obtain ⟨-, s₃', hbody', hdepth, heq⟩ :=
    carries_inScope hb (fun b _ => b.2.within_whole)
      (carries_capture hb (carries_run_up hlevel fuel m.body)) _ _ _ hbelow text s₃ hbody
  have hup : { s₃ with depth := s₃.depth - 1 } = s₃' := by
    rw [heq, ← hdepth]
    rfl
  rw [hup] at hwrite
  obtain ⟨htaken, rfl⟩ := exists_of_write hwrite
  obtain ⟨_, hcaptured, rfl⟩ := exists_of_within hbody'
  obtain ⟨u, hrun, rfl, rfl⟩ := exists_of_capture hcaptured
  -- The same run, writing on to the sink that took its text as a whole.
  obtain ⟨out, hrun', hout⟩ := execNodes_onto hmodest hrun htaken
  have hkept : s₂'.out = s.out := by
    have h := out_evalBindings hmodest fuel bindings s
    rwa [hvalues'] at h
  refine ⟨u.out.contents, { u with out, scopes := u.scopes.tail }, ?_, ?_, hout, rfl⟩
  · rw [← hkept]
    exact Prod.ext rfl htaken
  · have hscope : inScope values (execNodes (.upTo fuel) m.body) host s₂' =
        (.ok (), { u with out, scopes := u.scopes.tail }) := by
      unfold inScope within
      rw [hrun']
    exact located_of_ok r ((run_bind_of_ok hvalues').trans hscope)

/-- A host that adds nothing does not see how deep the render is. -/
theorem level_bare (now : Calendar.Moment) : (Host.bare now).Level where
  function _ _ _ _ _ := rfl
  captured _ e := ⟨e, rfl⟩

/-- A macro with a parameter that has a default; it shows both and calls itself for the number
below. -/
def countdown : Macro where
  name := "count"
  params := [("n", none), ("mark", some (.literal (.string "<")))]
  body :=
    [.output default (.path "n" [] default), .output default (.path "mark" [] default),
      .tag "if" default (.branch [(.binary .gt (.path "n" [] default) (.literal (.int 0)) default,
        [.output default (.path "count"
          [.call [.binary .sub (.path "n" [] default) (.literal (.int 1)) default]]
            default)])] none)]
  exported := false

/-- A state in which the macro is bound. -/
def countdownState : State where
  set := none
  context := []
  globals := []
  scopes := [[("count", .func (.ofMacro countdown))]]
  autoescape := true
  recursionLimit := 100

/-- Escaped once in the call and once in the tag. -/
theorem call_inlined_countdown :
    let host := Host.bare fixedMoment
    let call := Node.output default (.path "count" [.call [.literal (.int 1)]] default)
    let bindings := [("n", .literal (.int 1)), ("mark", .literal (.string "<"))]
    host.Modest ∧ host.Level ∧
      inlineBindings countdown.params [.literal (.int 1)] = some bindings ∧
      countdownState.lookup "count" = .func (.ofMacro countdown) ∧
      (call.exec (.upTo 3) host countdownState).2.out.contents = "1&lt;0&lt;" ∧
      ∃ t, call.exec (.upTo 3) host countdownState = (.ok (), t) ∧
        ∃ w t', countdownState.out.write w = (t.out, true) ∧
          (Node.tag "with" default (.bind bindings countdown.body)).exec (.upTo 3) host
            countdownState = (.ok (), t') ∧
          t'.out.Alike t.out ∧ t = { t' with out := t.out } := by
  intro host call bindings
  have hmodest : host.Modest := modest_bare fixedMoment
  have hlevel : host.Level := level_bare fixedMoment
  have hbindings : inlineBindings countdown.params [.literal (.int 1)] = some bindings := rfl
  have hm : countdownState.lookup "count" = .func (.ofMacro countdown) := rfl
  have hshown : (call.exec (.upTo 3) host countdownState).2.out.contents = "1&lt;0&lt;" := by
    decide +kernel
  have hend : (call.exec (.upTo 3) host countdownState).1.isOk = true := by decide +kernel
  obtain ⟨⟨⟩, t, hcall⟩ := exists_run_of_isOk hend
  exact ⟨hmodest, hlevel, hbindings, hm, hshown, t, hcall,
    call_inlined hmodest hlevel hbindings hm hcall⟩

end Calls

end Stencil
