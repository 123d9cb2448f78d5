import Mathlib.Data.List.Basic
import Mathlib.Data.List.Perm.Basic

/-! Append-only sequences: each entry is linked to the entry before it, the first one to none. -/

/-- A sequence that grew by one entry at a time, each linked to the last one at that moment. -/
inductive Linked {α : Type*} (link : Option α → α → Prop) : List α → Prop
  | nil : Linked link []
  | snoc {l : List α} {x : α} : Linked link l → link l.getLast? x → Linked link (l ++ [x])

namespace Linked

variable {α β : Type*} {link : Option α → α → Prop} {l : List α}

theorem map {link' : Option β → β → Prop} {g : α → β}
    (respects : ∀ previous x, link previous x → link' (previous.map g) (g x))
    (h : Linked link l) : Linked link' (l.map g) := by
  induction h with
  | nil => exact .nil
  | snoc before linked ih =>
    rw [List.map_append]
    refine .snoc ih ?_
    rw [List.getLast?_map]
    exact respects _ _ linked

theorem mono {link' : Option α → α → Prop} (weaker : ∀ previous x, link previous x → link' previous x)
    (h : Linked link l) : Linked link' l := by
  simpa using h.map (g := id) fun previous x linked => by simpa using weaker previous x linked

theorem getElem (h : Linked link l) (i : ℕ) (hi : i < l.length) :
    link (if i = 0 then none else l[i - 1]?) l[i] := by
  induction h with
  | nil => simp at hi
  | @snoc l x before linked ih =>
    by_cases last : i = l.length
    · subst last
      rw [List.getElem_append_right (by omega)]
      simp only [Nat.sub_self, List.getElem_cons_zero]
      split
      · rename_i empty
        rw [List.length_eq_zero_iff] at empty
        subst empty
        exact linked
      · rw [List.getElem?_append_left (by omega), ← List.getLast?_eq_getElem?]
        exact linked
    · have hi' : i < l.length := by
        simp only [List.length_append, List.length_singleton] at hi
        omega
      rw [List.getElem_append_left hi', List.getElem?_append_left (by omega)]
      exact ih hi'

theorem forall_mem {P : α → Prop} (h : Linked link l)
    (step : ∀ previous x, (∀ y ∈ previous, P y) → link previous x → P x) : ∀ x ∈ l, P x := by
  induction h with
  | nil => simp
  | snoc before linked ih =>
    intro y hy
    rcases List.mem_append.mp hy with hy | hy
    · exact ih y hy
    · rw [List.mem_singleton] at hy
      subst hy
      exact step _ _ (fun z hz => ih z (List.mem_of_getLast? hz)) linked

end Linked
