import Mathlib.Algebra.BigOperators.Group.List.Basic
import Mathlib.Data.List.Nodup

/-! Amounts by key, each key in the place where it was first added, as a map that is read and set again. -/

namespace Grouping

variable {κ μ : Type*} [DecidableEq κ] [AddCommMonoid μ]

def addAt (key : κ) (m : μ) : List (κ × μ) → List (κ × μ)
  | [] => [(key, m)]
  | g :: rest => if g.1 = key then (key, g.2 + m) :: rest else g :: addAt key m rest

def addAll (entries groups : List (κ × μ)) : List (κ × μ) :=
  entries.foldl (fun groups e => addAt e.1 e.2 groups) groups

theorem sum_addAt (key : κ) (m : μ) (groups : List (κ × μ)) :
    ((addAt key m groups).map Prod.snd).sum = (groups.map Prod.snd).sum + m := by
  induction groups with
  | nil => simp [addAt]
  | cons g rest ih =>
    rw [addAt]
    split
    · simp only [List.map_cons, List.sum_cons]
      exact add_right_comm _ _ _
    · rw [List.map_cons, List.sum_cons, ih, List.map_cons, List.sum_cons, add_assoc]

/-- Nothing that is added is lost. -/
theorem sum_addAll (entries groups : List (κ × μ)) :
    ((addAll entries groups).map Prod.snd).sum = (groups.map Prod.snd).sum + (entries.map Prod.snd).sum := by
  induction entries generalizing groups with
  | nil => simp [addAll]
  | cons e entries ih =>
    change ((addAll entries (addAt e.1 e.2 groups)).map Prod.snd).sum = _
    rw [ih, sum_addAt, List.map_cons, List.sum_cons, add_assoc]

/-! ### Each key -/

/-- What the entries with a key add up to. -/
def amountAt (key : κ) (groups : List (κ × μ)) : μ := ((groups.filter fun g => g.1 = key).map Prod.snd).sum

variable {k key : κ} {m : μ} {groups entries entries' : List (κ × μ)}

theorem amountAt_cons (g : κ × μ) : amountAt k (g :: groups) = (if g.1 = k then g.2 else 0) + amountAt k groups := by
  by_cases same : g.1 = k <;> simp [amountAt, same]

theorem amountAt_perm (perm : entries.Perm entries') : amountAt k entries = amountAt k entries' :=
  ((perm.filter _).map _).sum_eq

theorem amountAt_append : amountAt k (entries ++ entries') = amountAt k entries + amountAt k entries' := by
  simp [amountAt]

theorem amountAt_flatMap {α : Type*} (rows : List α) (f : α → List (κ × μ)) :
    amountAt k (rows.flatMap f) = (rows.map fun r => amountAt k (f r)).sum := by
  induction rows with
  | nil => rfl
  | cons r rows ih => rw [List.flatMap_cons, amountAt_append, ih, List.map_cons, List.sum_cons]

theorem amountAt_addAt : amountAt k (addAt key m groups) = (if key = k then m else 0) + amountAt k groups := by
  induction groups with
  | nil => rw [addAt, amountAt_cons]
  | cons g rest ih =>
    rw [addAt]
    split
    · rename_i same
      rw [amountAt_cons, amountAt_cons, same, ← add_assoc]
      congr 1
      split
      · exact add_comm _ _
      · exact (add_zero _).symm
    · rw [amountAt_cons, ih, amountAt_cons, add_left_comm]

theorem amountAt_addAll : amountAt k (addAll entries groups) = amountAt k entries + amountAt k groups := by
  induction entries generalizing groups with
  | nil => exact (zero_add _).symm
  | cons e entries ih =>
    change amountAt k (addAll entries (addAt e.1 e.2 groups)) = _
    rw [ih, amountAt_addAt, amountAt_cons, add_left_comm, add_assoc]

theorem keys_addAt : (addAt key m groups).map Prod.fst =
    if key ∈ groups.map Prod.fst then groups.map Prod.fst else groups.map Prod.fst ++ [key] := by
  induction groups with
  | nil => rfl
  | cons g rest ih =>
    rw [addAt]
    by_cases same : g.1 = key
    · simp [same]
    · rw [if_neg same, List.map_cons, ih]
      by_cases there : key ∈ rest.map Prod.fst
      · simp [there]
      · simp [there, Ne.symm same]

theorem mem_keys_addAll :
    k ∈ (addAll entries groups).map Prod.fst ↔ k ∈ entries.map Prod.fst ∨ k ∈ groups.map Prod.fst := by
  induction entries generalizing groups with
  | nil => simp [addAll]
  | cons e entries ih =>
    change k ∈ (addAll entries (addAt e.1 e.2 groups)).map Prod.fst ↔ _
    rw [ih, keys_addAt, List.map_cons, List.mem_cons]
    split <;> grind

theorem nodup_addAll (distinct : (groups.map Prod.fst).Nodup) : ((addAll entries groups).map Prod.fst).Nodup := by
  induction entries generalizing groups with
  | nil => exact distinct
  | cons e entries ih =>
    apply ih
    rw [keys_addAt]
    split
    · exact distinct
    · rename_i new
      exact distinct.append (List.nodup_singleton _) (by simpa using new)

theorem nodup_keys : ((addAll entries ([] : List (κ × μ))).map Prod.fst).Nodup := nodup_addAll List.nodup_nil

theorem amountAt_of_notMem (absent : k ∉ groups.map Prod.fst) : amountAt k groups = 0 := by
  rw [amountAt, List.filter_eq_nil_iff.mpr]
  · rfl
  · intro q mem same
    exact absent (List.mem_map.mpr ⟨q, mem, of_decide_eq_true same⟩)

theorem amountAt_of_mem (distinct : (groups.map Prod.fst).Nodup) (mem : (k, m) ∈ groups) : amountAt k groups = m := by
  induction groups with
  | nil => cases mem
  | cons g rest ih =>
    rw [List.map_cons, List.nodup_cons] at distinct
    rw [amountAt_cons]
    rcases List.mem_cons.mp mem with rfl | mem
    · rw [if_pos rfl, amountAt_of_notMem distinct.1, add_zero]
    · rw [if_neg fun same => distinct.1 (List.mem_map.mpr ⟨_, mem, same.symm⟩), ih distinct.2 mem, zero_add]

theorem mem_addAll : (k, m) ∈ addAll entries [] ↔ k ∈ entries.map Prod.fst ∧ amountAt k entries = m := by
  have total : amountAt k (addAll entries []) = amountAt k entries := amountAt_addAll.trans (add_zero _)
  rw [← total]
  constructor
  · intro mem
    have there := mem_keys_addAll.mp (List.mem_map_of_mem mem)
    exact ⟨there.resolve_right (List.not_mem_nil), amountAt_of_mem nodup_keys mem⟩
  · rintro ⟨there, rfl⟩
    obtain ⟨⟨_, m⟩, mem, rfl⟩ := List.mem_map.mp (mem_keys_addAll.mpr (.inl there) : k ∈ (addAll entries []).map Prod.fst)
    rwa [amountAt_of_mem nodup_keys mem]

/-- Entries with the same keys and the same amount at each give the same groups. -/
theorem addAll_perm (keys : ∀ k, k ∈ entries.map Prod.fst ↔ k ∈ entries'.map Prod.fst)
    (amounts : ∀ k, amountAt k entries = amountAt k entries') : (addAll entries []).Perm (addAll entries' []) := by
  rw [List.perm_ext_iff_of_nodup nodup_keys.of_map nodup_keys.of_map]
  rintro ⟨k, m⟩
  rw [mem_addAll, mem_addAll, keys, amounts]

theorem addAll_congr (perm : entries.Perm entries') : (addAll entries []).Perm (addAll entries' []) :=
  addAll_perm (fun _ => (perm.map _).mem_iff) fun _ => amountAt_perm perm

/-- What is grouped row by row and then in one is grouped at once. -/
theorem addAll_flatMap {α : Type*} (rows : List α) (f : α → List (κ × μ)) :
    (addAll (rows.flatMap fun r => addAll (f r) []) []).Perm (addAll (rows.flatMap f) []) := by
  refine addAll_perm (fun k => ?_) fun k => ?_
  · simp only [List.map_flatMap, List.mem_flatMap, mem_keys_addAll, List.map_nil, List.not_mem_nil, or_false]
  · simp only [amountAt_flatMap, amountAt_addAll]
    exact congrArg List.sum (List.map_congr_left fun r _ => add_zero _)

end Grouping
