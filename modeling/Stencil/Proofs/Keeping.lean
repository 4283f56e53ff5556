import Stencil.Halt
import Stencil.Render.State

/-!
# Computations that keep their state

What follows about the state and the end of a computation from its steps.
-/

namespace Stencil

variable {ρ σ α β : Type}

/-- A computation goes on with what its first part left behind, unless that part halted. -/
theorem keeping_bind (m : Keeping σ α) (f : α → Keeping σ β) (s : σ) :
    (m >>= f) s =
      match (m s).1 with
      | .ok a => f a (m s).2
      | .error h => (.error h, (m s).2) := by
  change (match m s with
    | (a, t) => ExceptT.bindCont f a t : Except Halt β × σ) = _
  rcases m s with ⟨_ | _, t⟩ <;> rfl

theorem keeping_get_bind (f : σ → Keeping σ α) (s : σ) : (get >>= f) s = f s s := rfl

theorem keeping_ofExcept_bind (result : Except Error α) (f : α → Keeping σ β) (s : σ) :
    (Halt.ofExcept result >>= f) s =
      match result with
      | .ok a => f a s
      | .error e => (.error (.error e), s) := by
  cases result <;> rfl

theorem run_bind (r : ReaderT ρ (Keeping σ) α) (f : α → ReaderT ρ (Keeping σ) β) (env : ρ) (s : σ) :
    (r >>= f) env s =
      match (r env s).1 with
      | .ok a => f a env (r env s).2
      | .error h => (.error h, (r env s).2) := keeping_bind (r env) (fun a => f a env) s

theorem run_bind_of_ok {r : ReaderT ρ (Keeping σ) α} {f : α → ReaderT ρ (Keeping σ) β} {env : ρ}
    {s t : σ} {a : α} (h : r env s = (.ok a, t)) : (r >>= f) env s = f a env t := by
  rw [run_bind, h]

/-- A result that was computed behind another one. -/
theorem exists_of_run_bind {r : ReaderT ρ (Keeping σ) α} {f : α → ReaderT ρ (Keeping σ) β} {env : ρ}
    {s u : σ} {b : β} (h : (r >>= f) env s = (.ok b, u)) :
    ∃ a t, r env s = (.ok a, t) ∧ f a env t = (.ok b, u) := by
  rw [run_bind] at h
  rcases hx : r env s with ⟨_ | a, t⟩
  · rw [hx] at h
    cases h
  · rw [hx] at h
    exact ⟨a, t, rfl, h⟩

theorem run_get_bind (f : σ → ReaderT ρ (Keeping σ) α) (env : ρ) (s : σ) :
    (get >>= f) env s = f s env s := rfl

/-- A result that was computed from another one. -/
theorem ok_of_bind {ε : Type} {x : Except ε α} {f : α → Except ε β} {b : β}
    (h : (x >>= f) = .ok b) : ∃ a, x = .ok a ∧ f a = .ok b := by
  cases x with
  | ok a => exact ⟨a, rfl, h⟩
  | error e => cases h

theorem ok_of_toOption {ε : Type} {x : Except ε α} {a : α} (h : x.toOption = some a) :
    x = .ok a := by
  cases x with
  | ok b => exact congrArg Except.ok (Option.some.inj h)
  | error e => cases h

theorem exists_ok_of_isOk {ε : Type} {x : Except ε α} (h : x.isOk = true) : ∃ a, x = .ok a := by
  cases x with
  | ok a => exact ⟨a, rfl⟩
  | error => cases h

theorem exists_run_of_isOk {ε : Type} {e : Except ε α × σ} (h : e.1.isOk = true) :
    ∃ a t, e = (.ok a, t) :=
  have ⟨a, ha⟩ := exists_ok_of_isOk h
  ⟨a, e.2, Prod.ext ha rfl⟩

/-- A computation ended with what `A` holds for, or with a halt for which `H` holds. -/
def Ends (A : α → Prop) (H : Halt → Prop) : Except Halt α → Prop
  | .ok a => A a
  | .error h => H h

theorem Ends.imp {A A' : α → Prop} {H : Halt → Prop} {result : Except Halt α}
    (h : Ends A H result) (hA : ∀ a, A a → A' a) : Ends A' H result := by
  cases result with
  | ok a => exact hA a h
  | error e => exact h

theorem Ends.of_eq_ok {A : α → Prop} {H : Halt → Prop} {result : Except Halt α} {a : α}
    (h : Ends A H result) (ha : result = .ok a) : A a := by
  rw [ha] at h
  exact h

theorem Ends.of_eq_error {A : α → Prop} {H : Halt → Prop} {result : Except Halt α} {halt : Halt}
    (h : Ends A H result) (he : result = .error halt) : H halt := by
  rw [he] at h
  exact h

/-!
## Steps that end well

What a step of a render did where it has a result: the step inside of it had one, and the state that
it left was set back.
-/

section Ends

open Render

variable {host : Host} {s t : State} {α : Type} {r : Render α} {a : α}

theorem located_of_ok (p : Position) (h : r host s = (.ok a, t)) :
    located p r host s = (.ok a, t) := by
  unfold located
  rw [h]

theorem ok_of_located {p : Position} (h : located p r host s = (.ok a, t)) :
    r host s = (.ok a, t) := by
  unfold located at h
  rcases hx : r host s with ⟨_ | _, _⟩ <;> rw [hx] at h <;> cases h
  rfl

theorem attempt_of_ok (h : r host s = (.ok a, t)) : attempt r host s = (.ok (.ok a), t) := by
  unfold attempt
  rw [h]

theorem exists_of_within {enter : State → State} {leave : State → State → State}
    (h : within enter leave r host s = (.ok a, t)) :
    ∃ u, r host (enter s) = (.ok a, u) ∧ t = leave s u := by
  obtain ⟨hend, rfl⟩ := Prod.mk.inj h
  exact ⟨_, Prod.ext hend rfl, rfl⟩

theorem exists_of_deeper {what : String} (h : deeper what r host s = (.ok a, t)) :
    ∃ u, r host { s with depth := s.depth + 1 } = (.ok a, u) ∧
      t = { u with depth := u.depth - 1 } := by
  unfold deeper at h
  rw [run_get_bind] at h
  split at h
  · cases h
  · exact exists_of_within h

theorem exists_of_write {text : String} (h : write text host s = (.ok (), t)) :
    (s.out.write text).2 = true ∧ t = { s with out := (s.out.write text).1 } := by
  unfold write at h
  generalize s.out.write text = written at h ⊢
  obtain ⟨out, _ | _⟩ := written <;> cases h
  exact ⟨rfl, rfl⟩

theorem exists_of_capture {r : Render Unit} {text : String} (h : capture r host s = (.ok text, t)) :
    ∃ u, r host { s with out := .empty } = (.ok (), u) ∧ text = u.out.contents ∧
      t = { u with out := s.out } := by
  unfold capture at h
  rcases hx : r host { s with out := .empty } with ⟨_ | _, u⟩ <;> rw [hx] at h <;> cases h
  exact ⟨u, rfl, rfl, rfl⟩

end Ends

end Stencil
