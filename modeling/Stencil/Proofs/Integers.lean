import Mathlib.Data.Int.Basic
import Stencil.Proofs.Keeping
import Stencil.Render.Exec

/-!
# Arithmetic on integers

Templates compute with integers of 64 bits. An expression of integers has an exact value over all
integers, unless it divides by zero, and so has each of its parts. If all of these have 64 bits, the
exact value is what the expression evaluates to; otherwise it fails at the first operator whose
result has not (`eval_integral`).
-/

namespace Stencil

/-! ## Exact values -/

namespace BinaryOp

/-- The operators of arithmetic on integers. -/
def isIntegral : BinaryOp → Bool
  | add | sub | mul | div | mod => true
  | _ => false

/-- The exact result on integers, where quotients are cut toward zero. Division by zero has none. -/
def exactValue? : BinaryOp → Int → Int → Option Int
  | add, m, n => some (m + n)
  | sub, m, n => some (m - n)
  | mul, m, n => some (m * n)
  | div, m, n => if n = 0 then none else some (m.tdiv n)
  | mod, m, n => if n = 0 then none else some (m.tmod n)
  | _, _, _ => none

/-- The exact results that the operator comes to. With a remainder goes the quotient. -/
def results (op : BinaryOp) (m n : Int) : List Int :=
  match op with
  | mod => if n = 0 then [] else [m.tdiv n, m.tmod n]
  | op => (op.exactValue? m n).toList

end BinaryOp

namespace Expr

/-- The exact value of an expression of integers; there is none if it divides by zero. -/
def exactValue? (s : State) : Expr → Option Int
  | literal (.int n) => some n
  | path name [] _ => (s.lookup name).int?
  | unary .plus e _ => e.exactValue? s
  | unary .minus e _ => (e.exactValue? s).map (- ·)
  | binary op a b _ => do op.exactValue? (← a.exactValue? s) (← b.exactValue? s)
  | _ => none

/-- The exact values of an expression of integers and of all its parts, as far as they have one, and
the quotients that go with remainders. -/
def exactResults (s : State) : Expr → List Int
  | unary op e p => e.exactResults s ++ ((unary op e p).exactValue? s).toList
  | binary op a b _ =>
    a.exactResults s ++ b.exactResults s ++
      match a.exactValue? s, b.exactValue? s with
      | some m, some n => op.results m n
      | _, _ => []
  | e => (e.exactValue? s).toList

/-- An expression of integers in a state: literals and variables of 64 bits, signs, and the
operators `+`, `-`, `*`, `/` and `%`. -/
inductive Integral (s : State) : Expr → Prop where
  | literal {n : Int} (hn : Integer.fits n = true) : Integral s (.literal (.int n))
  | bound {name : String} {p : Position} {n : Int} (h : s.lookup name = .int n)
      (hn : Integer.fits n = true) : Integral s (.path name [] p)
  | plus {e : Expr} {p : Position} (he : Integral s e) : Integral s (.unary .plus e p)
  | minus {e : Expr} {p : Position} (he : Integral s e) : Integral s (.unary .minus e p)
  | binary {op : BinaryOp} {a b : Expr} {p : Position} (hop : op.isIntegral = true)
      (ha : Integral s a) (hb : Integral s b) : Integral s (.binary op a b p)

/-- A part of the expression is divided by another one, the exact value of which is zero. -/
inductive DividesByZero (s : State) : Expr → Prop where
  | here {op : BinaryOp} {a b : Expr} {p : Position} (hop : op = .div ∨ op = .mod)
      (hb : b.exactValue? s = some 0) : DividesByZero s (.binary op a b p)
  | operand {op : UnaryOp} {e : Expr} {p : Position} (he : DividesByZero s e) :
      DividesByZero s (.unary op e p)
  | left {op : BinaryOp} {a b : Expr} {p : Position} (ha : DividesByZero s a) :
      DividesByZero s (.binary op a b p)
  | right {op : BinaryOp} {a b : Expr} {p : Position} (hb : DividesByZero s b) :
      DividesByZero s (.binary op a b p)

end Expr

/-- The faults of arithmetic on integers. -/
inductive RunFault.OfIntegers : RunFault → Prop where
  | overflow (op : String) : RunFault.OfIntegers (.overflow op)
  | divisionByZero : RunFault.OfIntegers .divisionByZero
  | moduloByZero : RunFault.OfIntegers .moduloByZero

/-! ## Operators -/

/-- What comes of an exact value, if there is one, and of the exact results on the way to it. -/
inductive Checked (exact : Option Int) (results : List Int) : Except RunFault Value → Prop where
  | value {n : Int} (hexact : exact = some n) (hfits : ∀ m ∈ results, Integer.fits m = true) :
      Checked exact results (.ok (.int n))
  | fault {fault : RunFault} (hfault : fault.OfIntegers)
      (hbeyond : exact = none ∨ ∃ m ∈ results, Integer.fits m = false) :
      Checked exact results (.error fault)

/-- A remainder lies between zero and the dividend. -/
theorem fits_tmod {m : Int} (hm : Integer.fits m = true) (n : Int) :
    Integer.fits (m.tmod n) = true := by
  rw [Integer.fits_iff] at hm ⊢
  have hle : (m.tmod n).natAbs ≤ m.natAbs := by
    rw [Int.natAbs_tmod]
    exact Nat.mod_le _ _
  rcases Int.le_total 0 m with hpos | hneg
  · have h := Int.tmod_nonneg n hpos
    omega
  · have h := Int.tmod_nonneg n (a := -m) (by omega)
    rw [Int.neg_tmod] at h
    omega

theorem checked_inRange (op : String) (n : Int) :
    Checked (some n) [n] (Value.inRange op n) := by
  unfold Value.inRange
  by_cases hn : Integer.fits n = true
  · rw [if_pos hn]
    exact .value rfl (List.forall_mem_singleton.mpr hn)
  · rw [if_neg hn]
    exact .fault (.overflow op) (.inr ⟨n, List.mem_singleton_self n, Bool.not_eq_true _ ▸ hn⟩)

theorem checked_minus (n : Int) :
    Checked (some (-n)) [-n] ((Value.int n).applyUnary .minus) := checked_inRange "-" (-n)

theorem checked_divide (m n : Int) :
    Checked (BinaryOp.div.exactValue? m n) (BinaryOp.div.results m n)
      ((Value.int m).divide (.int n)) := by
  show Checked _ _ (if n = 0 then .error .divisionByZero else Value.inRange "/" (m.tdiv n))
  simp only [BinaryOp.results, BinaryOp.exactValue?]
  by_cases hn : n = 0
  · simp only [if_pos hn]
    exact .fault .divisionByZero (.inl rfl)
  · simp only [if_neg hn]
    exact checked_inRange "/" (m.tdiv n)

theorem checked_modulo {m : Int} (hm : Integer.fits m = true) (n : Int) :
    Checked (BinaryOp.mod.exactValue? m n) (BinaryOp.mod.results m n)
      ((Value.int m).modulo (.int n)) := by
  show Checked _ _ (if n = 0 then .error .moduloByZero
    else if Integer.fits (m.tdiv n) then .ok (.int (m.tmod n)) else .error (.overflow "%"))
  simp only [BinaryOp.results, BinaryOp.exactValue?]
  by_cases hn : n = 0
  · simp only [if_pos hn]
    exact .fault .moduloByZero (.inl rfl)
  · simp only [if_neg hn]
    by_cases hquotient : Integer.fits (m.tdiv n) = true
    · rw [if_pos hquotient]
      exact .value rfl (by simp [hquotient, fits_tmod hm n])
    · rw [if_neg hquotient]
      exact .fault (.overflow "%") (.inr ⟨_, List.mem_cons_self .., Bool.not_eq_true _ ▸ hquotient⟩)

/-- An operator gives the exact result if that, and for `%` the quotient, has 64 bits. -/
theorem checked_binary {op : BinaryOp} (hop : op.isIntegral = true) {m : Int}
    (hm : Integer.fits m = true) (n : Int) :
    Checked (op.exactValue? m n) (op.results m n) ((Value.int m).applyBinary op (.int n)) := by
  cases op with
  | add => exact checked_inRange "+" (m + n)
  | sub => exact checked_inRange "-" (m - n)
  | mul => exact checked_inRange "*" (m * n)
  | div => exact checked_divide m n
  | mod => exact checked_modulo hm n
  | _ => cases hop

/-! ## Expressions -/

/-- What is refused for a part is refused for the whole. -/
theorem Checked.refused {exact : Option Int} {results : List Int} {fault : RunFault}
    (h : Checked exact results (.error fault)) {whole : Option Int} {more : List Int}
    (hwhole : exact = none → whole = none) (hmore : results ⊆ more) :
    Checked whole more (.error fault) := by
  cases h with
  | fault hfault hbeyond =>
    apply Checked.fault hfault
    rcases hbeyond with hnone | ⟨m, hm, hfits⟩
    · exact .inl (hwhole hnone)
    · exact .inr ⟨m, hmore hm, hfits⟩

/-- An operator that comes behind results of 64 bits. -/
theorem Checked.behind {exact : Option Int} {results before : List Int}
    {result : Except RunFault Value} (h : Checked exact results result)
    (hbefore : ∀ m ∈ before, Integer.fits m = true) : Checked exact (before ++ results) result := by
  cases h with
  | value hexact hfits => exact .value hexact (List.forall_mem_append.mpr ⟨hbefore, hfits⟩)
  | fault hfault hbeyond =>
    refine .fault hfault (hbeyond.imp_right ?_)
    rintro ⟨m, hm, hfits⟩
    exact ⟨m, List.mem_append_right _ hm, hfits⟩

namespace Expr

open Render

variable {s : State} {e : Expr}

/-- The exact value is one of the exact results. -/
theorem Integral.mem_exactResults (h : e.Integral s) {n : Int} (hn : e.exactValue? s = some n) :
    n ∈ e.exactResults s := by
  cases h with
  | literal | bound => exact Option.mem_toList.mpr hn
  | plus | minus => exact List.mem_append_right _ (Option.mem_toList.mpr hn)
  | @binary op a b p hop _ _ =>
    obtain ⟨m, hm, hbind⟩ := Option.bind_eq_some_iff.mp hn
    obtain ⟨k, hk, hresult⟩ := Option.bind_eq_some_iff.mp hbind
    apply List.mem_append_right
    rw [hm, hk]
    show n ∈ op.results m k
    cases op with
    | mod =>
      simp only [BinaryOp.exactValue?, BinaryOp.results] at hresult ⊢
      split at hresult <;> simp_all
    | _ => exact Option.mem_toList.mpr hresult

/-- The expression comes to the result and leaves the state as it was; a fault is reported with a
position. -/
def ComesTo (e : Expr) (j : Jumps) (host : Host) (s : State) : Except RunFault Value → Prop
  | .ok v => e.eval j host s = (.ok v, s)
  | .error fault => ∃ p, e.eval j host s = (.error (.error (.execution (some p) fault none)), s)

theorem comesTo_located {j : Jumps} {host : Host} {p : Position} {result : Except RunFault Value}
    (h : e.eval j host s = located p (ofFault result) host s) : e.ComesTo j host s result := by
  cases result with
  | ok v => exact h
  | error fault => exact ⟨p, h⟩

/-- A part that fails ends the evaluation. -/
theorem ComesTo.of_part {part : Expr} {j : Jumps} {host : Host} {fault : RunFault}
    (hpart : part.ComesTo j host s (.error fault))
    (h : ∀ halt, part.eval j host s = (.error halt, s) → e.eval j host s = (.error halt, s)) :
    e.ComesTo j host s (.error fault) := by
  obtain ⟨p, hp⟩ := hpart
  exact ⟨p, h _ hp⟩

theorem eval_unary_of_ok {j : Jumps} {host : Host} {op : UnaryOp} {p : Position} {v : Value}
    (h : e.eval j host s = (.ok v, s)) :
    (unary op e p).eval j host s = located p (ofFault (v.applyUnary op)) host s := by
  unfold eval
  exact run_bind_of_ok h

theorem eval_unary_of_error {j : Jumps} {host : Host} {op : UnaryOp} {p : Position} {halt : Halt}
    (h : e.eval j host s = (.error halt, s)) :
    (unary op e p).eval j host s = (.error halt, s) := by
  unfold eval
  rw [run_bind, h]

theorem eval_binary_of_ok {j : Jumps} {host : Host} {op : BinaryOp} (hop : op.isIntegral = true)
    {a b : Expr} {p : Position} {v w : Value} (ha : a.eval j host s = (.ok v, s))
    (hb : b.eval j host s = (.ok w, s)) :
    (binary op a b p).eval j host s = located p (ofFault (v.applyBinary op w)) host s := by
  unfold eval
  rw [run_bind_of_ok ha]
  cases op with
  | add | sub | mul | div | mod => exact run_bind_of_ok hb
  | _ => cases hop

theorem eval_binary_of_error_left {j : Jumps} {host : Host} {op : BinaryOp} {a b : Expr}
    {p : Position} {halt : Halt} (ha : a.eval j host s = (.error halt, s)) :
    (binary op a b p).eval j host s = (.error halt, s) := by
  unfold eval
  rw [run_bind, ha]

theorem eval_binary_of_error_right {j : Jumps} {host : Host} {op : BinaryOp}
    (hop : op.isIntegral = true) {a b : Expr} {p : Position} {v : Value} {halt : Halt}
    (ha : a.eval j host s = (.ok v, s)) (hb : b.eval j host s = (.error halt, s)) :
    (binary op a b p).eval j host s = (.error halt, s) := by
  unfold eval
  rw [run_bind_of_ok ha]
  cases op with
  | add | sub | mul | div | mod =>
    show (_ >>= _ : Render Value) host s = _
    rw [run_bind, hb]
  | _ => cases hop

/-- An expression of integers comes to what is made of its exact results. -/
theorem Integral.exists_comesTo (h : e.Integral s) (j : Jumps) (host : Host) :
    ∃ result, Checked (e.exactValue? s) (e.exactResults s) result ∧ e.ComesTo j host s result := by
  induction h with
  | @literal n hn => exact ⟨.ok (.int n), .value rfl (List.forall_mem_singleton.mpr hn), rfl⟩
  | @bound name p n h hn =>
    have hexact : (path name [] p).exactValue? s = some n := by
      show (s.lookup name).int? = some n
      rw [h]
      rfl
    refine ⟨.ok (.int n), .value hexact ?_, ?_⟩
    · show ∀ m ∈ ((path name [] p).exactValue? s).toList, _
      rw [hexact]
      exact List.forall_mem_singleton.mpr hn
    · show located p (evalPath j (s.lookup name) []) host s = _
      rw [h]
      rfl
  | @plus e p he ih =>
    obtain ⟨result, hchecked, hcomes⟩ := ih
    cases hchecked with
    | @value n hexact hfits =>
      refine ⟨.ok (.int n), ?_, comesTo_located (eval_unary_of_ok hcomes)⟩
      apply Checked.behind _ hfits
      show Checked (e.exactValue? s) (e.exactValue? s).toList _
      rw [hexact]
      exact .value rfl (List.forall_mem_singleton.mpr (hfits n (he.mem_exactResults hexact)))
    | @fault fault hfault hbeyond =>
      refine ⟨.error fault, ?_, hcomes.of_part fun _ => eval_unary_of_error⟩
      exact (Checked.fault hfault hbeyond).refused id (List.subset_append_left _ _)
  | @minus e p he ih =>
    obtain ⟨result, hchecked, hcomes⟩ := ih
    cases hchecked with
    | @value n hexact hfits =>
      refine ⟨(Value.int n).applyUnary .minus, ?_, comesTo_located (eval_unary_of_ok hcomes)⟩
      apply Checked.behind _ hfits
      show Checked ((e.exactValue? s).map (- ·)) ((e.exactValue? s).map (- ·)).toList _
      rw [hexact]
      exact checked_minus n
    | @fault fault hfault hbeyond =>
      refine ⟨.error fault, ?_, hcomes.of_part fun _ => eval_unary_of_error⟩
      refine (Checked.fault hfault hbeyond).refused (fun hnone => ?_) (List.subset_append_left _ _)
      show (e.exactValue? s).map (- ·) = none
      rw [hnone]
      rfl
  | @binary op a b p hop ha hb iha ihb =>
    obtain ⟨left, hleft, hcomesLeft⟩ := iha
    obtain ⟨right, hright, hcomesRight⟩ := ihb
    have hsubset : a.exactResults s ++ b.exactResults s ⊆ (Expr.binary op a b p).exactResults s :=
      List.subset_append_left _ _
    cases hleft with
    | @fault fault hfault hbeyond =>
      refine ⟨.error fault, ?_, hcomesLeft.of_part fun _ => eval_binary_of_error_left⟩
      refine (Checked.fault hfault hbeyond).refused (fun hnone => ?_)
        (List.Subset.trans (List.subset_append_left _ _) hsubset)
      show (a.exactValue? s).bind _ = none
      rw [hnone]
      rfl
    | @value m hexact hfits =>
      cases hright with
      | @fault fault hfault hbeyond =>
        refine ⟨.error fault, ?_,
          hcomesRight.of_part fun _ => eval_binary_of_error_right hop hcomesLeft⟩
        refine (Checked.fault hfault hbeyond).refused (fun hnone => ?_)
          (List.Subset.trans (List.subset_append_right _ _) hsubset)
        show (a.exactValue? s).bind (fun m => (b.exactValue? s).bind (op.exactValue? m)) = none
        rw [hnone, hexact]
        rfl
      | @value n hexact' hfits' =>
        refine ⟨_, ?_, comesTo_located (eval_binary_of_ok hop hcomesLeft hcomesRight)⟩
        apply Checked.behind _ (List.forall_mem_append.mpr ⟨hfits, hfits'⟩)
        show Checked ((a.exactValue? s).bind fun m => (b.exactValue? s).bind (op.exactValue? m)) _ _
        rw [hexact, hexact']
        exact checked_binary hop (hfits m (ha.mem_exactResults hexact)) n

/-- Only a division by zero has no exact value. -/
theorem Integral.exactValue?_eq_none_iff (h : e.Integral s) :
    e.exactValue? s = none ↔ e.DividesByZero s := by
  induction h with
  | literal => exact ⟨nofun, nofun⟩
  | @bound name p n h =>
    have hexact : (path name [] p).exactValue? s = some n := by
      show (s.lookup name).int? = some n
      rw [h]
      rfl
    rw [hexact]
    exact ⟨nofun, nofun⟩
  | @plus e p he ih =>
    rw [show (unary .plus e p).exactValue? s = e.exactValue? s from rfl, ih]
    exact ⟨.operand, fun | .operand he => he⟩
  | @minus e p he ih =>
    rw [show (unary .minus e p).exactValue? s = (e.exactValue? s).map (- ·) from rfl,
      Option.map_eq_none_iff, ih]
    exact ⟨.operand, fun | .operand he => he⟩
  | @binary op a b p hop ha hb iha ihb =>
    show ((a.exactValue? s).bind fun m => (b.exactValue? s).bind (op.exactValue? m)) = none ↔ _
    cases hleft : a.exactValue? s with
    | none => exact ⟨fun _ => .left (iha.mp hleft), fun _ => rfl⟩
    | some m =>
      cases hright : b.exactValue? s with
      | none => exact ⟨fun _ => .right (ihb.mp hright), fun _ => rfl⟩
      | some n =>
        show op.exactValue? m n = none ↔ _
        constructor
        · intro hnone
          have hdivides : (op = .div ∨ op = .mod) ∧ n = 0 := by
            cases op <;> simp_all [BinaryOp.exactValue?, BinaryOp.isIntegral]
          exact .here hdivides.1 (hdivides.2 ▸ hright)
        · intro hzero
          cases hzero with
          | here hop hb =>
            obtain rfl : n = 0 := Option.some.inj (hright.symm.trans hb)
            rcases hop with rfl | rfl <;> rfl
          | left ha => rw [iha.mpr ha] at hleft; cases hleft
          | right hb => rw [ihb.mpr hb] at hright; cases hright

end Expr

/-- An expression of integers evaluates to nothing but its exact value. It does so if it does not
divide by zero and all exact results on the way, for `%` also the quotient, have 64 bits, and
otherwise fails with an error of arithmetic. The state is left as it was. -/
theorem eval_integral (j : Jumps) (host : Host) {s : State} {e : Expr} (h : e.Integral s) :
    (∀ n s', e.eval j host s = (.ok (.int n), s') → e.exactValue? s = some n) ∧
    (¬e.DividesByZero s → (∀ m ∈ e.exactResults s, Integer.fits m = true) →
      ∃ n, e.exactValue? s = some n ∧ e.eval j host s = (.ok (.int n), s)) ∧
    (e.DividesByZero s ∨ (∃ m ∈ e.exactResults s, Integer.fits m = false) →
      ∃ p fault, RunFault.OfIntegers fault ∧
        e.eval j host s = (.error (.error (.execution (some p) fault none)), s)) := by
  obtain ⟨result, hchecked, hcomes⟩ := h.exists_comesTo j host
  rw [← h.exactValue?_eq_none_iff]
  cases hchecked with
  | @value n hexact hfits =>
    refine ⟨fun m s' heval => ?_, fun _ _ => ⟨n, hexact, hcomes⟩, fun hbeyond => ?_⟩
    · have hsame := heval.symm.trans hcomes
      cases hsame
      exact hexact
    · exfalso
      rcases hbeyond with hnone | ⟨m, hm, hbeyond⟩
      · rw [hexact] at hnone
        cases hnone
      · rw [hfits m hm] at hbeyond
        cases hbeyond
  | @fault fault hfault hbeyond =>
    obtain ⟨p, heval⟩ := hcomes
    refine ⟨fun m s' hok => ?_, fun hsome hfits => ?_, fun _ => ⟨p, fault, hfault, heval⟩⟩
    · have hsame := hok.symm.trans heval
      cases hsame
    · exfalso
      rcases hbeyond with hnone | ⟨m, hm, hbeyond⟩
      · exact hsome hnone
      · rw [hfits m hm] at hbeyond
        cases hbeyond

/-- At the end of the range: the negation of the least integer plus one is the greatest integer, but
the least integer divided by minus one has no 64 bits. -/
theorem eval_integral_least :
    let s := State.start none [("x", .int Integer.least)] default .empty
    let x := Expr.path "x" [] default
    let one := Expr.literal (.int 1)
    let within := Expr.binary .mod (.unary .minus (.binary .add x one default) default)
      (.literal (.int 10)) default
    let beyond := Expr.binary .div x (.unary .minus one default) default
    within.Integral s ∧ beyond.Integral s ∧
      within.eval (.upTo 0) (.bare fixedMoment) s = (.ok (.int 7), s) ∧
      ∃ p fault, RunFault.OfIntegers fault ∧ beyond.eval (.upTo 0) (.bare fixedMoment) s =
        (.error (.error (.execution (some p) fault none)), s) := by
  intro s x one within beyond
  have hx : x.Integral s := .bound rfl (by decide)
  have hone : one.Integral s := .literal (by decide)
  have hwithin : within.Integral s :=
    .binary rfl (.minus (.binary rfl hx hone)) (.literal (by decide))
  have hbeyond : beyond.Integral s := .binary rfl hx (.minus hone)
  refine ⟨hwithin, hbeyond, ?_, ?_⟩
  · have hdivides : ¬within.DividesByZero s := by
      rw [← hwithin.exactValue?_eq_none_iff]
      decide
    obtain ⟨n, hn, heval⟩ :=
      (eval_integral (.upTo 0) (.bare fixedMoment) hwithin).2.1 hdivides (by decide)
    obtain rfl : 7 = n := Option.some.inj hn
    exact heval
  · exact (eval_integral (.upTo 0) (.bare fixedMoment) hbeyond).2.2 (.inr (by decide))

end Stencil
