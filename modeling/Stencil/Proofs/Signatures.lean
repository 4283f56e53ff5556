import Stencil.Proofs.Keeping
import Stencil.Render.Exec

/-!
# What a signature lets through

A function is built by declaring its parameters one after another: required ones, ones that may be
left out, and the kind of further arguments.  How many arguments there must be is derived from the
number of required parameters, and kinds are checked by position.  The two views agree as long as no
required parameter is declared behind one that may be left out.  Otherwise arguments are let through
that leave a required parameter without one.
-/

namespace Stencil

/-- Does what a callback stands for. -/
def Callback.run (j : Jumps) : Callback → List Value → Render Value
  | .body m, args => callMacro j m args
  | .super, _ => renderSuper j
  | .host key data, args => callHost key data args

theorem callFunction_of_check {j : Jumps} {f : Function} {args : List Value}
    (h : f.check args = .ok ()) : callFunction j f args = f.callback.run j args := by
  unfold callFunction
  rw [h]
  cases f.callback <;> rfl

theorem callFunction_of_fault {j : Jumps} {f : Function} {args : List Value} {fault : RunFault}
    (h : f.check args = .error fault) : callFunction j f args = Render.fail fault := by
  unfold callFunction
  rw [h]
  rfl

namespace Signature

/-! ## Declarations -/

/-- A positional parameter. -/
structure Parameter where
  kind : ParamKind
  required : Bool

/-- A step in building a function. -/
inductive Declaration where
  | required (kind : ParamKind)
  | optional (kind : ParamKind)
  | variadic (kind : ParamKind)

namespace Declaration

/-- The positional parameter that is declared. -/
def parameter? : Declaration → Option Parameter
  | required kind => some ⟨kind, true⟩
  | optional kind => some ⟨kind, false⟩
  | variadic _ => none

/-- The kind of further arguments that is declared. -/
def further? : Declaration → Option ParamKind
  | variadic kind => some kind
  | _ => none

/-- The function with one more declaration. -/
def extend (f : Function) : Declaration → Function
  | required kind => f.param kind
  | optional kind => f.optionalParam kind
  | variadic kind => f.variadicParam kind

end Declaration

/-- The function with the given declarations, in this order. -/
def build (name : String) (callback : Callback) (ds : List Declaration) : Function :=
  ds.foldl Declaration.extend (.new name callback)

/-- The positional parameters that are declared. -/
def parameters (ds : List Declaration) : List Parameter := ds.filterMap Declaration.parameter?

/-- The kind of further arguments, if there may be any; the last declaration counts. -/
def further? (ds : List Declaration) : Option ParamKind :=
  (ds.filterMap Declaration.further?).getLast?

/-- The kind of the parameter that the argument at `i` is for, if there is one. -/
def kindAt? (ds : List Declaration) (i : Nat) : Option ParamKind :=
  ((parameters ds)[i]?.map Parameter.kind).or (further? ds)

/-- The arguments fit the declarations. -/
structure Fits (ds : List Declaration) (args : List Value) : Prop where
  /-- Every required parameter receives an argument. -/
  given : ∀ i p, (parameters ds)[i]? = some p → p.required = true → i < args.length
  /-- Every argument has a parameter, the kind of which accepts it. -/
  accepted : ∀ i v, args[i]? = some v → ∃ kind, kindAt? ds i = some kind ∧ kind.accepts v = true

/-- The signature is enforced on the arguments: the callback runs on those that fit, and all others
are refused, whatever the callback. -/
structure Enforced (j : Jumps) (name : String) (ds : List Declaration) (args : List Value) :
    Prop where
  runs : Fits ds args →
    ∀ callback, callFunction j (build name callback ds) args = callback.run j args
  refuses : ¬Fits ds args →
    ∃ fault, ∀ callback, callFunction j (build name callback ds) args = Render.fail fault

/-- No required parameter is declared behind one that may be left out. -/
def Ordered (ds : List Declaration) : Prop :=
  (parameters ds).Pairwise fun p q => q.required = true → p.required = true

/-! ## The function that was built -/

section Build

variable {j : Jumps} {name : String} {callback : Callback} {ds : List Declaration}
  {args : List Value}

theorem further?_variadic (kind : ParamKind) :
    further? (.variadic kind :: ds) = (further? ds).or (some kind) := by
  change (kind :: ds.filterMap Declaration.further?).getLast? = _
  rw [List.getLast?_cons]
  unfold further?
  cases (ds.filterMap Declaration.further?).getLast? <;> rfl

theorem foldl_extend (ds : List Declaration) (f : Function) :
    ds.foldl Declaration.extend f =
      { f with
        params := f.params ++ (parameters ds).map Parameter.kind
        optional := f.optional + (parameters ds).countP fun p => !p.required
        variadic := (further? ds).or f.variadic } := by
  induction ds generalizing f with
  | nil =>
    cases f
    simp [parameters, further?]
  | cons d ds ih =>
    rw [List.foldl_cons, ih]
    cases d with
    | required kind =>
      simp [Declaration.extend, Function.param, parameters, further?, Declaration.parameter?,
        Declaration.further?]
    | optional kind =>
      simp [Declaration.extend, Function.optionalParam, parameters, further?,
        Declaration.parameter?, Declaration.further?, Nat.add_assoc, Nat.add_comm 1]
    | variadic kind =>
      rw [further?_variadic, Option.or_assoc]
      rfl

theorem build_eq (name : String) (callback : Callback) (ds : List Declaration) :
    build name callback ds =
      { name
        params := (parameters ds).map Parameter.kind
        optional := (parameters ds).countP fun p => !p.required
        variadic := further? ds
        callback } := by
  rw [build, foldl_extend]
  simp [Function.new]

theorem minArgs_build :
    (build name callback ds).minArgs = (parameters ds).countP Parameter.required := by
  rw [build_eq, Function.minArgs, List.length_map,
    List.length_eq_countP_add_countP Parameter.required]
  simp

theorem maxArgs?_of_further {kind : ParamKind} (h : further? ds = some kind) :
    (build name callback ds).maxArgs? = none := by
  rw [build_eq, Function.maxArgs?, h]

theorem maxArgs?_of_no_further (h : further? ds = none) :
    (build name callback ds).maxArgs? = some (parameters ds).length := by
  rw [build_eq, Function.maxArgs?, h]
  exact congrArg some (List.length_map _)

theorem kindAt_build (i : Nat) :
    (build name callback ds).kindAt i = (kindAt? ds i).getD .any := by
  rw [build_eq, Function.kindAt, List.getElem?_map, kindAt?]
  cases (parameters ds)[i]? <;> rfl

end Build

/-! ## The check -/

/-- The arguments are let through: there are as many as there are required parameters, and every
argument has a parameter that accepts it. -/
structure Admits (ds : List Declaration) (args : List Value) : Prop where
  enough : (parameters ds).countP Parameter.required ≤ args.length
  accepted : ∀ i v, args[i]? = some v → ∃ kind, kindAt? ds i = some kind ∧ kind.accepts v = true

section Check

variable {j : Jumps} {name : String} {callback : Callback} {ds : List Declaration}
  {args : List Value}

theorem checkKinds_eq_ok {f : Function} {i : Nat} :
    f.checkKinds i args = .ok () ↔
      ∀ k v, args[k]? = some v → (f.kindAt (i + k)).accepts v = true := by
  induction args generalizing i with
  | nil => simp [Function.checkKinds]
  | cons v vs ih =>
    rw [Function.checkKinds, ← Nat.and_forall_add_one]
    simp only [List.getElem?_cons_zero, List.getElem?_cons_succ, Option.some.injEq, forall_eq',
      Nat.add_zero]
    split
    case isTrue haccepts => simp only [ih, haccepts, true_and, Nat.add_right_comm, Nat.add_assoc]
    case isFalse hrefuses => simp only [reduceCtorEq, hrefuses, false_and]

theorem accepted_iff :
    (∀ i v, args[i]? = some v → ∃ kind, kindAt? ds i = some kind ∧ kind.accepts v = true) ↔
      (further? ds = none → args.length ≤ (parameters ds).length) ∧
        ∀ i v, args[i]? = some v → ((kindAt? ds i).getD .any).accepts v = true := by
  refine ⟨fun h => ⟨fun hnone => ?_, fun i v hi => ?_⟩, fun ⟨hmost, hkinds⟩ i v hi => ?_⟩
  · refine Nat.le_of_not_lt fun hmore => ?_
    obtain ⟨kind, hkind, -⟩ := h _ _ (List.getElem?_eq_getElem hmore)
    rw [kindAt?, List.getElem?_eq_none (Nat.le_refl _), hnone] at hkind
    cases hkind
  · obtain ⟨kind, hkind, haccepts⟩ := h i v hi
    rwa [hkind]
  · have haccepts := hkinds i v hi
    cases hkind : kindAt? ds i with
    | some kind => exact ⟨kind, rfl, by rwa [hkind] at haccepts⟩
    | none =>
      -- the argument would be beyond the last parameter, and there are no further ones
      obtain ⟨hi', hnone⟩ := Option.or_eq_none_iff.mp hkind
      have hlast := List.getElem?_eq_none_iff.mp (Option.map_eq_none_iff.mp hi')
      have hlt := (List.getElem?_eq_some_iff.mp hi).1
      exact absurd (hmost hnone) (by omega)

/-- The check of a function that was built lets exactly these arguments through. -/
theorem check_build_iff : (build name callback ds).check args = .ok () ↔ Admits ds args := by
  have hkinds : (build name callback ds).checkKinds 0 args = .ok () ↔
      ∀ i v, args[i]? = some v → ((kindAt? ds i).getD .any).accepts v = true := by
    simp only [checkKinds_eq_ok, kindAt_build, Nat.zero_add]
  have hadmits : Admits ds args ↔ (parameters ds).countP Parameter.required ≤ args.length ∧
      (further? ds = none → args.length ≤ (parameters ds).length) ∧
        ∀ i v, args[i]? = some v → ((kindAt? ds i).getD .any).accepts v = true := by
    rw [← accepted_iff]
    exact ⟨fun h => ⟨h.enough, h.accepted⟩, fun h => ⟨h.1, h.2⟩⟩
  rw [hadmits, Function.check, minArgs_build, ← hkinds]
  split
  case isTrue hfew => exact iff_of_false nofun fun h => absurd h.1 (by omega)
  case isFalse henough =>
    cases hfurther : further? ds with
    | some kind =>
      rw [maxArgs?_of_further hfurther]
      simp [Nat.le_of_not_lt henough]
    | none =>
      rw [maxArgs?_of_no_further hfurther]
      simp only [forall_const]
      split
      case isTrue hmany => exact iff_of_false nofun fun h => absurd h.2.1 (by omega)
      case isFalse hfit => simp [Nat.le_of_not_lt henough, Nat.le_of_not_lt hfit]

theorem callFunction_of_admits (h : Admits ds args) :
    callFunction j (build name callback ds) args = callback.run j args := by
  rw [callFunction_of_check (check_build_iff.mpr h), build_eq]

theorem checkKinds_withCallback (callback : Callback) (f : Function) (i : Nat) :
    { f with callback }.checkKinds i args = f.checkKinds i args := by
  induction args generalizing i with
  | nil => rfl
  | cons v vs ih =>
    unfold Function.checkKinds
    rw [ih]
    rfl

/-- What a function does has no part in the check of its arguments. -/
theorem check_withCallback (callback : Callback) (f : Function) :
    { f with callback }.check args = f.check args := by
  unfold Function.check
  simp only [checkKinds_withCallback]
  rfl

/-- What is not let through is refused, whatever the function would have done. -/
theorem exists_fault_of_not_admits (h : ¬Admits ds args) :
    ∃ fault, ∀ callback, callFunction j (build name callback ds) args = Render.fail fault := by
  cases hcheck : (build name .super ds).check args with
  | ok => exact absurd (check_build_iff.mp hcheck) h
  | error fault =>
    refine ⟨fault, fun callback => callFunction_of_fault ?_⟩
    rw [← hcheck, ← check_withCallback callback (build name .super ds)]
    rw [build_eq, build_eq]

end Check

/-! ## The order of declarations -/

section Order

variable {ds : List Declaration} {args : List Value}

/-- All required parameters are counted in the first `n` places if there are none behind. -/
theorem countP_take_required {ps : List Parameter} {n : Nat}
    (h : ∀ i p, ps[i]? = some p → p.required = true → i < n) :
    (ps.take n).countP Parameter.required = ps.countP Parameter.required := by
  have hrest : (ps.drop n).countP Parameter.required = 0 := by
    refine List.countP_eq_zero.mpr fun p hp hrequired => ?_
    obtain ⟨i, hi⟩ := List.getElem?_of_mem hp
    rw [List.getElem?_drop] at hi
    exact absurd (h _ p hi hrequired) (by omega)
  have hsplit := congrArg (List.countP Parameter.required) (List.take_append_drop n ps)
  rwa [List.countP_append, hrest] at hsplit

/-- If every required parameter is in front of the `n`-th place, there are at most `n` of them. -/
theorem countP_required_le {ps : List Parameter} {n : Nat}
    (h : ∀ i p, ps[i]? = some p → p.required = true → i < n) :
    ps.countP Parameter.required ≤ n := by
  rw [← countP_take_required h]
  exact Nat.le_trans List.countP_le_length (List.length_take_le n ps)

/-- Where required parameters come first, the first places hold all of them. -/
theorem lt_of_countP_required {ps : List Parameter} {n : Nat}
    (hordered : ps.Pairwise fun p q => q.required = true → p.required = true)
    (hn : ps.countP Parameter.required ≤ n) :
    ∀ i p, ps[i]? = some p → p.required = true → i < n := by
  intro i p hi hrequired
  obtain ⟨hlt, rfl⟩ := List.getElem?_eq_some_iff.mp hi
  have hall : ∀ q ∈ ps.take (i + 1), q.required = true := by
    intro q hq
    obtain ⟨k, hk, rfl⟩ := List.mem_take_iff_getElem.mp hq
    rcases Nat.lt_or_eq_of_le (Nat.le_of_lt_succ (Nat.lt_of_lt_of_le hk (Nat.min_le_left ..))) with
      hki | rfl
    · exact List.pairwise_iff_getElem.mp hordered k i _ hlt hki hrequired
    · exact hrequired
  have hcount := (List.take_sublist (i + 1) ps).countP_le (p := Parameter.required)
  rw [List.countP_eq_length.mpr hall, List.length_take] at hcount
  omega

/-- If the first places hold all required parameters, these come first. -/
theorem pairwise_of_lt_countP {ps : List Parameter}
    (h : ∀ i p, ps[i]? = some p → p.required = true → i < ps.countP Parameter.required) :
    ps.Pairwise fun p q => q.required = true → p.required = true := by
  generalize hn : ps.countP Parameter.required = n at h
  have hall : ∀ p ∈ ps.take n, p.required = true := by
    have hle : n ≤ ps.length := hn ▸ List.countP_le_length
    refine List.countP_eq_length.mp ?_
    rw [countP_take_required h, hn, List.length_take, Nat.min_eq_left hle]
  refine List.pairwise_iff_getElem.mpr fun i k hi hk hik hrequired => hall _ ?_
  have := h k _ (List.getElem?_eq_getElem hk) hrequired
  exact List.mem_take_iff_getElem.mpr ⟨i, by omega, rfl⟩

/-- Arguments that fit are let through. -/
theorem Fits.admits (h : Fits ds args) : Admits ds args := ⟨countP_required_le h.given, h.accepted⟩

theorem Ordered.fits (hordered : Ordered ds) (h : Admits ds args) : Fits ds args :=
  ⟨lt_of_countP_required hordered h.enough, h.accepted⟩

/-- A value of the kind. -/
def sample : ParamKind → Value
  | .any => .nil
  | .bool => .bool false
  | .int | .number => .int 0
  | .float => .float 0
  | .string => .str ""
  | .seq => .seq []
  | .map => .map []

theorem accepts_sample (kind : ParamKind) : kind.accepts (sample kind) = true := by
  cases kind <;> rfl

/-- As many arguments as there are required parameters, each of the kind of its parameter. -/
def fewest (ds : List Declaration) : List Value :=
  ((parameters ds).take ((parameters ds).countP Parameter.required)).map fun p => sample p.kind

theorem length_fewest : (fewest ds).length = (parameters ds).countP Parameter.required := by
  rw [fewest, List.length_map, List.length_take]
  exact Nat.min_eq_left List.countP_le_length

theorem fewest_admitted (ds : List Declaration) : Admits ds (fewest ds) := by
  refine ⟨Nat.le_of_eq length_fewest.symm, fun i v hi => ?_⟩
  rw [fewest, List.getElem?_map, Option.map_eq_some_iff] at hi
  obtain ⟨p, hp, rfl⟩ := hi
  refine ⟨p.kind, ?_, accepts_sample p.kind⟩
  rw [List.getElem?_take, Option.ite_none_right_eq_some] at hp
  rw [kindAt?, hp.2]
  rfl

end Order

/-! ## Enforcement -/

/-- A function that does something is not refused. -/
theorem run_super_ne_fail (j : Jumps) (fault : RunFault) {args : List Value} :
    Callback.super.run j args ≠ Render.fail fault := by
  intro h
  have hrun := congrFun (congrFun h (Host.bare fixedMoment)) (State.start none [] default .empty)
  exact nomatch hrun

/-- Where the signature is enforced, all arguments that are let through fit. -/
theorem Enforced.fits {j : Jumps} {name : String} {ds : List Declaration} {args : List Value}
    (h : Enforced j name ds args) (hadmits : Admits ds args) : Fits ds args :=
  Classical.byContradiction fun hnot =>
    have ⟨fault, hfault⟩ := h.refuses hnot
    run_super_ne_fail j fault ((callFunction_of_admits hadmits).symm.trans (hfault .super))

/-- A signature is enforced on all arguments if and only if no required parameter is declared behind
one that may be left out. -/
theorem enforced_iff_ordered (j : Jumps) (name : String) (ds : List Declaration) :
    (∀ args, Enforced j name ds args) ↔ Ordered ds := by
  constructor
  case mp =>
    intro henforced
    refine pairwise_of_lt_countP fun i p hi hrequired => ?_
    rw [← length_fewest]
    exact ((henforced _).fits (fewest_admitted ds)).given i p hi hrequired
  case mpr =>
    intro hordered args
    exact ⟨fun hfits callback => callFunction_of_admits hfits.admits,
      fun hnot => exists_fault_of_not_admits fun hadmits => hnot (hordered.fits hadmits)⟩

/-- A required parameter behind one that may be left out can go without an argument. -/
theorem not_enforced_behind_optional :
    ¬Enforced (.upTo jumpDepth) "f" [.optional .int, .required .string] [.int 5] := by
  intro h
  have hadmits : Admits [.optional .int, .required .string] [.int 5] := by
    refine ⟨by decide, fun i v hi => ?_⟩
    obtain ⟨rfl, rfl⟩ : i = 0 ∧ Value.int 5 = v := by simpa [List.getElem?_singleton] using hi
    exact ⟨.int, rfl, rfl⟩
  exact absurd ((h.fits hadmits).given 1 ⟨.string, true⟩ rfl rfl) (by decide)

end Signature

end Stencil
