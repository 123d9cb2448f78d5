import StorageOS.Lib.Processes

/-! Things done at most once by requests that reserve them first. A reservation is a mark in the database that
another request finds closed; the request that made it holds it until it has done the thing or lets go. -/

namespace Processes

/-- How often each thing has been done, which requests hold its reservation, and whether the database shows
it as closed. -/
structure Custody (σ ρ κ : Type*) where
  made : σ → κ → ℕ
  holds : ρ → κ → ℕ
  closed : σ → κ → Prop

namespace Custody

variable {σ ρ κ : Type*} (R : Custody σ ρ κ) {db db' : σ} {running : List ρ} {i : ℕ} {r : ρ}
  {rest : Option ρ} {k : κ}

/-- The times a thing has been done, and the requests that are about to do it. -/
def total (s : State σ ρ) (k : κ) : ℕ := R.made s.db k + (s.running.map fun r => R.holds r k).sum

/-- A thing is done or about to be done at most once, and is closed to others then. -/
def Once (s : State σ ρ) : Prop := ∀ k, R.total s k ≤ 1 ∧ (R.total s k ≠ 0 → R.closed s.db k)

/-- What a request and the database count of a thing after a step. -/
def after (db' : σ) (rest : Option ρ) (k : κ) : ℕ := R.made db' k + (rest.map (R.holds · k)).getD 0

/-- What a step may do with a thing: pass on what is held, reserve what is not closed, let go of what is
not done, or leave one that nobody holds. -/
inductive Keeps (s : State σ ρ) (r : ρ) (db' : σ) (rest : Option ρ) (k : κ) : Prop
  | passes (count : R.after db' rest k ≤ R.made s.db k + R.holds r k)
      (closed : R.closed s.db k → R.closed db' k)
  | reserves (opened : ¬R.closed s.db k) (count : R.after db' rest k ≤ R.made s.db k + R.holds r k + 1)
      (closed : R.closed db' k)
  | releases (held : R.holds r k = 1) (count : R.after db' rest k = R.made s.db k)
  | idle (idle : R.total s k = 0) (count : R.after db' rest k ≤ R.made s.db k + R.holds r k)

theorem total_resume (found : running[i]? = some r) (k : κ) :
    R.total ⟨db', resume running i rest⟩ k + (R.made db k + R.holds r k) =
      R.total ⟨db, running⟩ k + R.after db' rest k := by
  have sums := sum_resume (fun r => R.holds r k) found rest
  have handed : (rest.map fun r => R.holds r k).getD 0 = (rest.map (R.holds · k)).getD 0 := rfl
  rw [total, total, after]
  dsimp only
  omega

theorem total_eq_zero {s : State σ ρ} : R.total s k = 0 ↔ R.made s.db k = 0 ∧ ∀ r ∈ s.running, R.holds r k = 0 := by
  rw [total, Nat.add_eq_zero_iff, List.sum_eq_zero_iff_forall_eq_nat]
  simp

variable {R}

variable (once : R.Once ⟨db, running⟩)
include once

theorem once_resume (found : running[i]? = some r) (keeps : ∀ k, R.Keeps ⟨db, running⟩ r db' rest k) :
    R.Once ⟨db', resume running i rest⟩ := by
  intro k
  have counted : R.total ⟨db', resume running i rest⟩ k + (R.made db k + R.holds r k) =
      R.total ⟨db, running⟩ k + R.after db' rest k := R.total_resume found k
  obtain ⟨atMost, shut⟩ := once k
  cases keeps k with
  | passes count closed =>
    dsimp only at count
    exact ⟨by omega, fun some_ => closed (shut (by omega))⟩
  | reserves opened count closed =>
    dsimp only at count
    have none_ : R.total ⟨db, running⟩ k = 0 := by
      by_contra held
      exact opened (shut held)
    exact ⟨by omega, fun _ => closed⟩
  | releases held count =>
    dsimp only at count
    exact ⟨by omega, fun some_ => (some_ (by omega)).elim⟩
  | idle idle count =>
    dsimp only at count
    exact ⟨by omega, fun some_ => (some_ (by omega)).elim⟩

theorem once_start (empty : ∀ k, R.holds r k = 0) : R.Once ⟨db, running ++ [r]⟩ := by
  intro k
  have same : R.total ⟨db, running ++ [r]⟩ k = R.total ⟨db, running⟩ k := by
    simp [total, empty k]
  rw [same]
  exact once k

theorem once_made (k : κ) : R.made db k ≤ 1 :=
  (Nat.le_add_right _ _).trans (once k).1

theorem once_alone (found : running[i]? = some r) (held : R.holds r k = 1) :
    R.made db k = 0 ∧ ∀ j r', running[j]? = some r' → j ≠ i → R.holds r' k = 0 := by
  have most : R.total ⟨db, running⟩ k ≤ 1 := (once k).1
  have sums := sum_resume (fun r => R.holds r k) found none
  simp only [total, held, Option.map_none, Option.getD_none] at most sums
  have others : ((resume running i none).map fun r => R.holds r k).sum = 0 := by omega
  rw [List.sum_eq_zero_iff_forall_eq_nat] at others
  refine ⟨by omega, fun j r' there other => ?_⟩
  exact others _ (List.mem_map_of_mem (mem_resume_of_ne there other none))

end Custody

end Processes
