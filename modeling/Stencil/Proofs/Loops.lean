import Stencil.Proofs.Render.Rounds

/-!
# Loops

A loop runs its body once at each visit, in a scope of its own, and hands it the variable `forloop`,
which counts the visits and knows what `forloop` was outside. Loops may stand inside each other to
any depth, with other tags, blocks, includes and calls between; at every point the variable tells of
the loops around it (`loop_bookkeeping`).
-/

namespace Stencil

open Render

/-! ## What a loop visits -/

section Visits

theorem perm_sorted (entries : Bindings) : (Table.sorted entries).Perm entries :=
  List.mergeSort_perm entries _

/-- The keys of a sorted table rise if none stands twice. -/
theorem pairwise_keys_sorted {entries : Bindings} (h : entries.keys.Nodup) :
    (Table.sorted entries).keys.Pairwise (· < ·) := by
  have hle : (Table.sorted entries).Pairwise fun a b => decide (a.1 ≤ b.1) = true := by
    apply List.pairwise_mergeSort
    · intro a b c hab hbc
      rw [decide_eq_true_eq] at hab hbc ⊢
      exact String.le_trans hab hbc
    · intro a b
      rw [Bool.or_eq_true, decide_eq_true_eq, decide_eq_true_eq]
      exact String.le_total a.1 b.1
  have hkeys : (Table.sorted entries).keys.Pairwise (· ≤ ·) :=
    List.pairwise_map.mpr (hle.imp fun h => of_decide_eq_true h)
  have hnodup : (Table.sorted entries).keys.Nodup :=
    ((perm_sorted entries).map _).nodup_iff.mpr h
  exact (hkeys.and hnodup).imp fun h => Std.lt_of_le_of_ne h.1 h.2

/-- What a loop visits that has nothing but items: each with its index. -/
def numbered (items : List Value) : List (Value × Value) :=
  items.zipIdx.map fun e => (.int e.2, e.1)

theorem visits_reversed (sorter : Sorter) (v : Value) (two sorted : Bool) :
    Loop.visits sorter v two true sorted =
      (Loop.visits sorter v two false sorted).map List.reverse := rfl

theorem visits_string {v : Value} {text : String} (h : v.string? = some text) (sorter : Sorter)
    (two : Bool) :
    Loop.visits sorter v two false false = some (numbered (text.toList.map .ofChar)) := by
  cases v with
  | str s | safe s =>
    cases h
    rfl
  | _ => cases h

/-- Only sorting can break down. -/
theorem isSome_visits (sorter : Sorter) (v : Value) (two reversed : Bool) :
    (Loop.visits sorter v two reversed false).isSome := by
  have hforward : (Loop.visits sorter v two false false).isSome := by
    simp only [Loop.visits, Bool.false_eq_true, if_false]
    split <;> rfl
  cases reversed with
  | false => exact hforward
  | true => exact (Option.isSome_map ..).trans hforward

end Visits

/-! ## What a loop runs -/

section Runs

variable {host : Host} {j : Jumps} {s s₁ : State}

theorem forEach_eq_forM (first : String) (second : Option String) (parent : Value) (total : Nat)
    (body : Render Unit) (i : Nat) (visits : List (Value × Value)) :
    forEach first second parent total body i visits =
      forM (visits.zipIdx i) fun e =>
        inScope (Loop.bindings first second (Loop.counters e.2 total parent) e.1) body := by
  induction visits generalizing i with
  | nil => rfl
  | cons visit visits ih =>
    rw [List.zipIdx_cons, List.forM_cons, ← ih (i + 1)]
    rfl

section Loop

variable {first : String} {second : Option String} {source : Expr} {reversed sorted : Bool}
  {body : List Node} {empty : Option (List Node)} {v : Value} {visits : List (Value × Value)}
  (h : source.eval j host s = (.ok v, s₁))
include h

/-- Without an entry a loop comes to its other body, in the scope around it. -/
theorem exec_loop_empty
    (hvisits : Loop.visits host.sorter v second.isSome reversed sorted = some []) :
    (Statement.loop first second source reversed sorted body empty).exec j host s =
      execOptional j empty host s₁ := by
  unfold Statement.exec
  rw [run_bind_of_ok h, run_bind_of_ok (run_visitsOf hvisits)]

/-- A loop runs its body once for each visit, in order. -/
theorem exec_loop
    (hvisits : Loop.visits host.sorter v second.isSome reversed sorted = some visits)
    (hne : visits ≠ []) :
    (Statement.loop first second source reversed sorted body empty).exec j host s =
      (forM visits.zipIdx fun e => inScope (Loop.bindings first second
        (Loop.counters e.2 visits.length (s₁.lookup "forloop")) e.1) (execNodes j body))
          host s₁ := by
  unfold Statement.exec
  rw [run_bind_of_ok h, run_bind_of_ok (run_visitsOf hvisits)]
  cases visits with
  | nil => exact absurd rfl hne
  | cons visit visits =>
    rw [← forEach_eq_forM]
    rfl

end Loop

/-- The scopes and all data are those of another state. -/
structure State.Restores (s s' : State) : Prop where
  scopes : s'.scopes = s.scopes
  context : s'.context = s.context
  globals : s'.globals = s.globals

theorem State.Restores.lookup_eq {s s' : State} (h : s.Restores s') (name : String) :
    s'.lookup name = s.lookup name := by
  unfold State.lookup
  rw [h.scopes, h.context, h.globals]

/-- What is bound in a scope of its own is gone behind it, however it ends. -/
theorem restores_inScope {α : Type} (bindings : List (String × Value)) {r : Render α}
    (hr : Keeps host State.Balanced r) : Keeps host State.Restores (inScope bindings r) := by
  intro s
  have h := hr { s with scopes := Table.ofList bindings :: s.scopes }
  exact ⟨h.scopes.tail_eq, h.context, h.globals⟩

theorem restores_forM {α : Type} {f : α → Render Unit} (hf : ∀ a, Keeps host State.Restores (f a))
    (as : List α) : Keeps host State.Restores (forM as f) := by
  induction as with
  | nil => exact fun s => ⟨rfl, rfl, rfl⟩
  | cons a as ih =>
    intro s
    rw [List.forM_cons, run_bind]
    have ha := hf a s
    split
    · have has := ih ((f a host s).2)
      exact ⟨has.scopes.trans ha.scopes, has.context.trans ha.context, has.globals.trans ha.globals⟩
    · exact ha

end Runs

/-! ## What a body reads -/

/-- `forloop`, and behind it `Parentloop` as often as `depth` says and what else stands there. -/
def forloopPath (depth : Nat) (rest : List Segment) (p : Position) : Expr :=
  .path "forloop" (List.replicate depth (.attr "Parentloop") ++ rest) p

/-- What `forloop` tells at the `k`-th of `n` visits. -/
def roundFields (k n : Nat) : List (String × Value) :=
  [("Counter", .int k), ("Counter0", .int (k - 1)), ("Revcounter", .int (n - k + 1)),
    ("Revcounter0", .int (n - k)), ("First", .bool (k = 1)), ("Last", .bool (k = n))]

/-- Evaluates the expression that a cycle has come to, and binds and writes what it is asked to. -/
def showCycled (j : Jumps) (e : Expr) (target : Option String) (silent : Bool) : Render Unit := do
  let v ← e.eval j
  if let some name := target then modify (·.bind name v)
  if !silent then Render.writeValue v

section Reads

variable {host : Host} {j : Jumps} {rounds : Rounds} {s : State}

/-- From nil every path leads to nil. -/
theorem evalPath_of_nil (segments : List Segment) :
    evalPath j .nil segments host s = (.ok .nil, s) := by
  rcases segments with _ | ⟨segment, rest⟩
  · rfl
  · cases segment with
    | attr name =>
      rcases rest with _ | ⟨_ | _ | _ | _, rest⟩ <;> rfl
    | _ => rfl

/-- A member of a record leads to what follows it, unless that is a call. -/
theorem evalPath_member {i total : Nat} {parent v : Value} {name : String} {rest : List Segment}
    (hmember : (Loop.counters i total parent).member name = .ok v)
    (hrest : ∀ args rest', rest ≠ .call args :: rest') :
    evalPath j (Loop.counters i total parent) (.attr name :: rest) host s =
      evalPath j v rest host s := by
  rw [evalPath]
  · show (ofFault ((Loop.counters i total parent).member name) >>= fun w =>
      evalPath j w rest) host s =
      _
    rw [hmember]
    rfl
  · exact hrest

/-- Each `Parentloop` leads one loop out, and past the outermost to nil. -/
theorem evalPath_parents (rounds : Rounds) (depth : Nat) {rest : List Segment}
    (hrest : ∀ args rest', rest ≠ .call args :: rest') :
    evalPath j rounds.record (List.replicate depth (.attr "Parentloop") ++ rest) host s =
      evalPath j (Rounds.record (rounds.drop depth)) rest host s := by
  induction depth generalizing rounds with
  | zero => rfl
  | succ depth ih =>
    cases rounds with
    | nil =>
      rw [List.drop_nil]
      exact (evalPath_of_nil _).trans (evalPath_of_nil rest).symm
    | cons round outer =>
      have hinner : ∀ args rest',
          List.replicate depth (.attr "Parentloop") ++ rest ≠ .call args :: rest' := by
        cases depth with
        | zero => exact hrest
        | succ depth => exact nofun
      rw [List.drop_succ_cons, ← ih outer]
      exact evalPath_member rfl hinner

theorem eval_forloopPath (h : s.Around rounds) (depth : Nat) {rest : List Segment}
    (hrest : ∀ args rest', rest ≠ .call args :: rest') {v : Value}
    (heval : evalPath j (Rounds.record (rounds.drop depth)) rest host s = (.ok v, s))
    (p : Position) : (forloopPath depth rest p).eval j host s = (.ok v, s) := by
  apply located_of_ok
  show evalPath j (s.lookup "forloop") _ host s = _
  rw [h.lookup, evalPath_parents rounds depth hrest, heval]

/-- `Parentloop` followed `depth` times leads to the record of the loop that is so many loops
out. -/
theorem eval_parents (h : s.Around rounds) (depth : Nat) (p : Position) :
    (forloopPath depth [] p).eval j host s = (.ok (Rounds.record (rounds.drop depth)), s) := by
  refine eval_forloopPath h depth (by simp) ?_ p
  cases rounds.drop depth <;> rfl

/-- The counters at the `k`-th of `n` visits. -/
theorem member_counters {k n : Nat} (hk : 1 ≤ k) (hkn : k ≤ n) (parent : Value)
    {e : String × Value} (he : e ∈ roundFields k n) :
    (Loop.counters (k - 1) n parent).member e.1 = .ok e.2 := by
  have hint {a b : Int} (h : a = b) : (Except.ok (.int a) : Except RunFault Value) =
    .ok (.int b) := by
    rw [h]
  have hbool {a b : Bool} (h : a = true ↔ b = true) :
      (Except.ok (.bool a) : Except RunFault Value) = .ok (.bool b) := by
    rw [Bool.eq_iff_iff.mpr h]
  simp only [roundFields, List.mem_cons, List.not_mem_nil, or_false] at he
  rcases he with rfl | rfl | rfl | rfl | rfl | rfl
  · exact hint (by omega)
  · exact hint (by omega)
  · exact hint (by omega)
  · exact hint (by omega)
  · exact hbool (by rw [beq_iff_eq, decide_eq_true_eq]; omega)
  · exact hbool (by rw [beq_iff_eq, decide_eq_true_eq]; omega)

/-- The record of a loop tells how far it is. -/
theorem eval_field (h : s.Around rounds) {depth k n : Nat} {outer : Rounds}
    (hdrop : rounds.drop depth = (k, n) :: outer) {e : String × Value} (he : e ∈ roundFields k n)
    (p : Position) : (forloopPath depth [.attr e.1] p).eval j host s = (.ok e.2, s) := by
  obtain ⟨hk, hkn⟩ : 1 ≤ k ∧ k ≤ n :=
    h.rounds_le (k, n) (List.mem_of_mem_drop (hdrop ▸ List.mem_cons_self ..))
  refine eval_forloopPath h depth (by simp) ?_ p
  rw [hdrop]
  refine (evalPath_member (member_counters hk hkn _ he) (by simp)).trans ?_
  simp only [roundFields, List.mem_cons, List.not_mem_nil, or_false] at he
  rcases he with rfl | rfl | rfl | rfl | rfl | rfl <;> rfl

/-- A cycle shows the expression that the innermost loop has come to. -/
theorem exec_cycle {k n : Nat} {outer : Rounds} (h : s.Around ((k, n) :: outer))
    {values : List Expr}
    {e : Expr} (he : values[(k - 1) % values.length]? = some e) (target : Option String)
    (silent : Bool) :
    (Statement.cycle values target silent).exec j host s = showCycled j e target silent host s := by
  have hindex : Loop.cycleIndex (s.lookup "forloop") values.length = (k - 1) % values.length := by
    rw [h.lookup]
    show (((k - 1 : Nat) : Int) % values.length).toNat = _
    rw [← Int.natCast_emod, Int.toNat_natCast]
  unfold Statement.exec
  rw [run_get_bind, hindex, List.getD_eq_getElem?_getD, he]
  rfl

end Reads

/-! ## The theorem -/

/-- What a loop does and what its body knows.

A loop visits the items of a sequence, the characters of a string or the keys of a map, these in
rising order and each once, numbered if it has a second variable, or the entries of a map with their
keys; a reversed loop visits the same in the opposite order.

Without an entry it comes to its other body; otherwise it runs its body once for each visit, in
order, with the counters and the entry in a scope of its own, and when it is over, however it ends,
all names have their values again.

Inside of any loops, in whatever way they are nested, `forloop` is the record of the innermost one
and `Parentloop` leads from each to the next one out, past the outermost to nil. The record of a
loop at the `k`-th of its `n` visits says so, and a cycle shows its values in turn. -/
theorem loop_bookkeeping {host : Host} (hhost : host.Spares "forloop") (fuel : Nat) :
    ((∀ sorter v two sorted, Loop.visits sorter v two true sorted =
        (Loop.visits sorter v two false sorted).map List.reverse) ∧
      (∀ sorter v two reversed, (Loop.visits sorter v two reversed false).isSome) ∧
      (∀ sorter items two, Loop.visits sorter (.seq items) two false false =
        some (numbered items)) ∧
      (∀ sorter v text two, v.string? = some text →
        Loop.visits sorter v two false false = some (numbered (text.toList.map .ofChar))) ∧
      ∀ sorter, ∀ entries : Bindings, entries.keys.Nodup →
        ∃ order : Bindings, order.Perm entries ∧ order.keys.Pairwise (· < ·) ∧
          Loop.visits sorter (.map entries) false false false =
            some (numbered (order.keys.map .str)) ∧
          Loop.visits sorter (.map entries) true false false =
            some (order.map fun e => (.str e.1, e.2))) ∧
    (∀ first second source reversed sorted body empty s v s₁,
      source.eval (.upTo fuel) host s = (.ok v, s₁) →
      let found := Loop.visits host.sorter v second.isSome reversed sorted
      let ended := (Statement.loop first second source reversed sorted body empty).exec (.upTo fuel)
        host s
      (found = some [] → ended = execOptional (.upTo fuel) empty host s₁) ∧
      (∀ visits, found = some visits → visits ≠ [] →
        ended = (forM visits.zipIdx fun e => inScope (Loop.bindings first second
          (Loop.counters e.2 visits.length (s₁.lookup "forloop")) e.1)
            (execNodes (.upTo fuel) body)) host s₁ ∧
        ended.2.scopes = s₁.scopes ∧ ∀ name, ended.2.lookup name = s₁.lookup name)) ∧
    ∀ rounds task s, Inside host fuel rounds task s →
      (∀ r ∈ rounds, 1 ≤ r.1 ∧ r.1 ≤ r.2) ∧ s.lookup "forloop" = rounds.record ∧
      (∀ depth p, (forloopPath depth [] p).eval (.upTo fuel) host s =
        (.ok (Rounds.record (rounds.drop depth)), s)) ∧
      (∀ depth k n outer, rounds.drop depth = (k, n) :: outer → ∀ e ∈ roundFields k n, ∀ p,
        (forloopPath depth [.attr e.1] p).eval (.upTo fuel) host s = (.ok e.2, s)) ∧
      ∀ k n outer, rounds = (k, n) :: outer →
        ∀ values e target silent, values[(k - 1) % values.length]? = some e →
          (Statement.cycle values target silent).exec (.upTo fuel) host s =
            showCycled (.upTo fuel) e target silent host s := by
  refine ⟨⟨visits_reversed, isSome_visits, fun _ _ _ => rfl,
    fun sorter _ _ two h => visits_string h sorter two, ?_⟩, ?_, ?_⟩
  · exact fun _ entries hkeys =>
      ⟨Table.sorted entries, perm_sorted entries, pairwise_keys_sorted hkeys, rfl, rfl⟩
  · intro first second source reversed sorted body empty s v s₁ hsource found ended
    refine ⟨exec_loop_empty hsource, fun visits hvisits hne => ?_⟩
    have hrun : ended = _ := exec_loop hsource hvisits hne
    have hbalanced := respected_balanced hhost.balanced
    have hbody := keeps_execNodes hbalanced (keeps_upTo hbalanced fuel) body
    have hrestores : s₁.Restores ended.2 := by
      rw [hrun]
      exact restores_forM (fun e => restores_inScope _ hbody) visits.zipIdx s₁
    exact ⟨hrun, hrestores.scopes, hrestores.lookup_eq⟩
  · intro rounds task s hinside
    have h := (hinside.situated hhost).toAround
    refine ⟨h.rounds_le, h.lookup, eval_parents h,
      fun _ _ _ _ hdrop _ he => eval_field h hdrop he, ?_⟩
    rintro k n outer rfl values e target silent he
    exact exec_cycle h he target silent

/-- Shows two letters in turn. -/
def parity : Statement :=
  .cycle [.literal (.string "e"), .literal (.string "o")] none false

/-- A loop over the characters of a text, whose body is a cycle. -/
def innerLoop : Statement :=
  .loop "c" none (.literal (.string "xyz")) false false [.tag "cycle" default parity] none

/-- A reversed loop with two variables around another loop. -/
def outerLoop : Statement :=
  .loop "i" (some "v") (.path "items" [] default) true false [.tag "for" default innerLoop] none

theorem spares_outerLoop : outerLoop.Spares "forloop" := by
  have hinner : innerLoop.Spares "forloop" :=
    .loop (by decide) nofun (List.forall_mem_singleton.mpr (.tag (.cycle nofun))) nofun
  refine .loop (by decide) ?_ (List.forall_mem_singleton.mpr (.tag hinner)) nofun
  rintro _ ⟨⟩
  decide

theorem loop_bookkeeping_nested :
    let host := Host.bare fixedMoment
    let entries := [("b", Value.int 2), ("a", .int 1)]
    let s := State.start none [("items", .seq [.int 5, .int 6])] default .empty
    let missing := Statement.loop "x" none (.path "none" [] default) false false []
      (some [.text "-"])
    (∃ order : Bindings, order.Perm entries ∧ order.keys.Pairwise (· < ·) ∧
      Loop.visits host.sorter (.map entries) true false false =
        some (order.map fun e => (.str e.1, e.2))) ∧
    Loop.visits host.sorter (.safe "xy") false false false =
      some (numbered ("xy".toList.map .ofChar)) ∧
    missing.exec (.upTo 0) host s = execNodes (.upTo 0) [.text "-"] host s ∧
    (∀ name, (outerLoop.exec (.upTo 0) host s).2.lookup name = s.lookup name) ∧
    ∃ s', Inside host 0 [(2, 3), (1, 2)] (.nodes [.tag "cycle" default parity]) s' ∧
      (forloopPath 1 [.attr "Revcounter"] default).eval (.upTo 0) host s' = (.ok (.int 2), s') ∧
      (forloopPath 2 [] default).eval (.upTo 0) host s' = (.ok .nil, s') ∧
      parity.exec (.upTo 0) host s' =
        showCycled (.upTo 0) (.literal (.string "o")) none false host s' := by
  intro host entries s missing
  have hhost : host.Spares "forloop" := ⟨fun _ _ _ s => .refl s, fun _ _ _ _ => rfl⟩
  obtain ⟨⟨-, -, -, hstring, hmap⟩, hloop, hinside⟩ := loop_bookkeeping hhost 0
  obtain ⟨order, hperm, hrising, -, hentries⟩ := hmap host.sorter entries (by decide)
  have hmissing := (hloop "x" none (.path "none" [] default) false false []
    (some [.text "-"]) s .nil s
    rfl).1 rfl
  have hrestored := (hloop "i" (some "v") (.path "items" [] default) true false
    [.tag "for" default innerLoop] none s (.seq [.int 5, .int 6]) s rfl).2 _ rfl
    (List.cons_ne_nil _ _)
  -- In the first visit of the outer loop the inner one comes to its second visit.
  let s₁ : State := { s with
    scopes := Table.ofList
      (Loop.bindings "i" (some "v") (Loop.counters 0 2 .nil) (.int 1, .int 6)) ::
      s.scopes }
  let s₂ : State := { s₁ with out := .text ["e"] none }
  have hstart : Inside host 0 [] (.nodes [.tag "for" default outerLoop]) s := by
    refine .start (List.forall_mem_singleton.mpr (.tag spares_outerLoop)) ⟨nofun, nofun⟩
      ⟨?_, rfl, rfl⟩
    exact List.forall_mem_singleton.mpr rfl
  have hbody : Inside host 0 [(1, 2)] (.nodes [.tag "for" default innerLoop]) s₁ :=
    ((hstart.turn .tag).turn (.visits rfl rfl)).turn .visit
  have hshown : inScope (Loop.bindings "c" none (Loop.counters 0 3 (s₁.lookup "forloop"))
      (.int 0, .ofChar 'x')) (execNodes (.upTo 0) [.tag "cycle" default parity]) host s₁ =
        (.ok (), s₂) := rfl
  have hinner : Inside host 0 [(1, 2)] (.visits "c" none (s₁.lookup "forloop") 3
      [.tag "cycle" default parity] 1 [(.int 1, .ofChar 'y'), (.int 2, .ofChar 'z')]) s₂ :=
    ((hbody.turn .tag).turn (.visits rfl rfl)).turn (.nextVisit hshown)
  have hcycle := hinner.turn .visit
  obtain ⟨-, -, hparents, hfields, hcycles⟩ := hinside _ _ _ hcycle
  refine ⟨⟨order, hperm, hrising, hentries⟩, hstring _ _ "xy" _ rfl, hmissing, hrestored.2.2,
    _, hcycle,
    ?_, ?_, ?_⟩
  · exact hfields 1 1 2 [] rfl ("Revcounter", .int 2) (by simp [roundFields]) default
  · exact hparents 2 default
  · exact hcycles 2 3 [(1, 2)] rfl _ _ none false rfl

end Stencil
