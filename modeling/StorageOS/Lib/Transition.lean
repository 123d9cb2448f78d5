import Mathlib.Data.List.Basic
import Mathlib.Tactic.Cases

/-! Transition systems given by a partial step function: runs all of whose steps meet a condition
on the state and the action, the induction rule for what every such run keeps, and the execution
of a list of actions. -/

namespace Transition

variable {σ α : Type*}

/-- `Run step ok s t`: from `s`, a sequence of actions leads to `t`, and each action is `ok` in the
state it is taken in. -/
inductive Run (step : σ → α → Option σ) (ok : σ → α → Prop) : σ → σ → Prop
  | refl (s : σ) : Run step ok s s
  | tail {s t u : σ} {a : α} : Run step ok s t → ok t a → step t a = some u → Run step ok s u

/-- A run without a condition on its steps. -/
abbrev Reaches (step : σ → α → Option σ) : σ → σ → Prop := Run step fun _ _ => True

/-- The states after each action of the list in turn, `none` as soon as one is refused. -/
def exec (step : σ → α → Option σ) : σ → List α → Option σ
  | s, [] => some s
  | s, a :: rest => (step s a).bind (exec step · rest)

section

variable {step : σ → α → Option σ} {ok ok' : σ → α → Prop} {s t u : σ}

/-- What holds at the start and is kept by every admitted step holds at the end of every run. -/
theorem Run.invariant {P : σ → Prop} (run : Run step ok s t) (start : P s)
    (keep : ∀ {x a y}, P x → ok x a → step x a = some y → P y) : P t := by
  induction run with
  | refl => exact start
  | tail _ admitted taken ih => exact keep ih admitted taken

theorem Run.mono (run : Run step ok s t) (weaker : ∀ x a, ok x a → ok' x a) :
    Run step ok' s t := by
  induction run with
  | refl => exact .refl _
  | tail _ admitted taken ih => exact .tail ih (weaker _ _ admitted) taken

theorem Run.trans (first : Run step ok s t) (second : Run step ok t u) : Run step ok s u := by
  induction second with
  | refl => exact first
  | tail _ admitted taken ih => exact .tail ih admitted taken

/-- An executed list of actions is a run of the steps that the guard admits. -/
theorem Run.of_exec [∀ x a, Decidable (ok x a)] {actions : List α}
    (h : exec (fun x a => if ok x a then step x a else none) s actions = some t) :
    Run step ok s t := by
  induction actions generalizing s with
  | nil =>
    cases h
    exact .refl _
  | cons a rest ih =>
    simp only [exec] at h
    by_cases admitted : ok s a
    · rw [if_pos admitted] at h
      cases taken : step s a with
      | none => simp [taken] at h
      | some x =>
        rw [taken] at h
        exact Run.trans (.tail (.refl _) admitted taken) (ih h)
    · simp [admitted] at h

theorem Run.exists_of_exec (step : σ → α → Option σ) (ok : σ → α → Prop)
    [∀ x a, Decidable (ok x a)] (s : σ) (actions : List α) (p : σ → Bool)
    (h : (exec (fun x a => if ok x a then step x a else none) s actions).any p = true) :
    ∃ t, Run step ok s t ∧ p t = true := by
  cases reached : exec (fun x a => if ok x a then step x a else none) s actions with
  | none => simp [reached] at h
  | some t => exact ⟨t, .of_exec reached, by simpa [reached] using h⟩

/-- A run that is replayed and then continued, with properties of the state between and of the last. -/
theorem Run.exists_continued (step : σ → α → Option σ) (ok : σ → α → Prop)
    [∀ x a, Decidable (ok x a)] (s : σ) (first second : List α) (p q : σ → Bool)
    (h : (exec (fun x a => if ok x a then step x a else none) s first).any (fun x =>
      p x && (exec (fun x a => if ok x a then step x a else none) x second).any q) = true) :
    ∃ x t, Run step ok s x ∧ Run step ok x t ∧ p x = true ∧ q t = true := by
  obtain ⟨x, reached, held⟩ := (Option.any_eq_true _ _).mp h
  obtain ⟨between, continued⟩ := Bool.and_eq_true_iff.mp held
  obtain ⟨t, run, last⟩ := Run.exists_of_exec step ok x second q continued
  exact ⟨x, t, .of_exec reached, run, between, last⟩

end

end Transition
