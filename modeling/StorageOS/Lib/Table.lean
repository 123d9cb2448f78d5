import Mathlib.Data.List.Perm.Basic
import Mathlib.Data.List.Nodup
import Mathlib.Algebra.BigOperators.Group.List.Basic
import Mathlib.Algebra.Order.BigOperators.Group.List
import Mathlib.Algebra.Order.Group.Int
import Mathlib.Tactic.Ring
import Mathlib.Tactic.Abel

/-! Database tables: rows under distinct primary keys. A row is read and changed by its key, and
rows are added under a fresh key. Sums, views and selections of rows change with one row. -/

structure Table (κ ρ : Type*) where
  rows : List (κ × ρ)
  distinct : (rows.map Prod.fst).Nodup

namespace Table

variable {κ ρ ρ' β : Type*}

instance [DecidableEq κ] [DecidableEq ρ] : DecidableEq (Table κ ρ) := fun s t =>
  decidable_of_iff (s.rows = t.rows) ⟨fun h => by cases s; cases t; cases h; rfl, fun h => h ▸ rfl⟩

@[ext] theorem ext {s t : Table κ ρ} (h : s.rows = t.rows) : s = t := by
  cases s
  cases t
  cases h
  rfl

def empty : Table κ ρ := ⟨[], List.nodup_nil⟩

def values (t : Table κ ρ) : List ρ := t.rows.map Prod.snd

/-- The table of what `g` reads from each row. -/
def view (t : Table κ ρ) (g : ρ → ρ') : Table κ ρ' where
  rows := t.rows.map fun p => (p.1, g p.2)
  distinct := by simpa [List.map_map, Function.comp_def] using t.distinct

def sum (t : Table κ ρ) (w : ρ → ℤ) : ℤ := (t.values.map w).sum

@[simp] theorem view_view (t : Table κ ρ) (g : ρ → ρ') (g' : ρ' → β) :
    (t.view g).view g' = t.view (g' ∘ g) := by
  ext1
  simp [view, Function.comp_def]

theorem sum_view (t : Table κ ρ) (g : ρ → ρ') (w : ρ' → ℤ) :
    (t.view g).sum w = t.sum (w ∘ g) := by
  simp [sum, values, view, Function.comp_def]

theorem sum_add (t : Table κ ρ) (w w' : ρ → ℤ) :
    t.sum (fun r => w r + w' r) = t.sum w + t.sum w' := by
  simp [sum, List.sum_map_add]

/-- A sum of selected rows is a sum of all rows where the others weigh nothing. -/
theorem sum_filter {α : Type*} (rows : List α) (p : α → Bool) (w : α → ℤ) :
    ((rows.filter p).map w).sum = (rows.map fun r => if p r then w r else 0).sum := by
  induction rows with
  | nil => rfl
  | cons r rest ih => by_cases selected : p r = true <;> simp [selected, ih]

variable {t : Table κ ρ} {w : ρ → ℤ} {p : κ × ρ → Bool} {f : ρ → ρ} {k : κ} {r : ρ}

theorem sum_eq_zero (h : ∀ r ∈ t.values, w r = 0) : t.sum w = 0 := by
  rw [sum, List.map_congr_left h]
  simp

theorem sum_le_sum {w w' : ρ → ℤ} (h : ∀ r ∈ t.values, w r ≤ w' r) : t.sum w ≤ t.sum w' :=
  List.sum_le_sum h

def updateMany (t : Table κ ρ) (p : κ × ρ → Bool) (f : ρ → ρ) : Table κ ρ where
  rows := t.rows.map fun q => if p q then (q.1, f q.2) else q
  distinct := by
    have same : Prod.fst ∘ (fun q : κ × ρ => if p q then (q.1, f q.2) else q) = Prod.fst := by
      funext q
      simp only [Function.comp_apply]
      split <;> rfl
    rw [List.map_map, same]
    exact t.distinct

theorem sum_updateMany (t : Table κ ρ) (p : κ × ρ → Bool) (f : ρ → ρ) (w : ρ → ℤ) :
    (t.updateMany p f).sum w =
      t.sum w + ((t.rows.filter p).map fun q => w (f q.2) - w q.2).sum := by
  obtain ⟨rows, distinct⟩ := t
  simp only [sum, values, updateMany, List.map_map]
  clear distinct
  induction rows with
  | nil => simp
  | cons q rest ih =>
    by_cases selected : p q
    · simp only [List.map_cons, List.sum_cons, ih, List.filter_cons_of_pos selected]
      simp only [Function.comp_apply, if_pos selected]
      ring
    · simp only [List.map_cons, List.sum_cons, ih, List.filter_cons_of_neg selected]
      simp only [Function.comp_apply, if_neg selected]
      ring

theorem sum_updateMany_le (h : ∀ q ∈ t.rows, p q = true → w (f q.2) ≤ w q.2) : (t.updateMany p f).sum w ≤ t.sum w := by
  simp only [sum, values, updateMany, List.map_map]
  refine List.sum_le_sum fun q mem => ?_
  simp only [Function.comp_apply]
  split
  · rename_i selected
    exact h q mem selected
  · exact le_rfl

/-- As many rows of a kind are left by a change that does not tell them from the others. -/
theorem length_filter_updateMany (t : Table κ ρ) (p : κ × ρ → Bool) (f : ρ → ρ)
    {kind : κ × ρ → Bool} (same : ∀ q, kind (q.1, f q.2) = kind q) :
    ((t.updateMany p f).rows.filter kind).length = (t.rows.filter kind).length := by
  rw [updateMany, List.filter_map, List.length_map]
  congr 2
  funext q
  simp only [Function.comp_apply]
  split
  · exact same q
  · rfl

theorem forall_updateMany {P : ρ → Prop} (h : ∀ r ∈ t.values, P r) (keep : ∀ r, P r → P (f r)) :
    ∀ r ∈ (t.updateMany p f).values, P r := by
  intro r mem
  simp only [values, updateMany, List.map_map, List.mem_map, Function.comp_apply] at mem h
  obtain ⟨q, row, rfl⟩ := mem
  have hq := h q.2 ⟨q, row, rfl⟩
  split
  · exact keep q.2 hq
  · exact hq

def deleteMany (t : Table κ ρ) (p : κ × ρ → Bool) : Table κ ρ where
  rows := t.rows.filter fun q => !p q
  distinct := t.distinct.sublist (List.filter_sublist.map _)

section

variable [DecidableEq κ]

def find (t : Table κ ρ) (k : κ) : Option ρ := (t.rows.find? fun p => p.1 = k).map Prod.snd

def modify (t : Table κ ρ) (k : κ) (f : ρ → ρ) : Table κ ρ where
  rows := t.rows.map fun p => if p.1 = k then (p.1, f p.2) else p
  distinct := by
    have same : Prod.fst ∘ (fun p : κ × ρ => if p.1 = k then (p.1, f p.2) else p) = Prod.fst := by
      funext p
      simp only [Function.comp_apply]
      split <;> rfl
    rw [List.map_map, same]
    exact t.distinct

theorem find_eq_some : t.find k = some r ↔ (k, r) ∈ t.rows := by
  obtain ⟨rows, distinct⟩ := t
  simp only [find]
  induction rows with
  | nil => simp
  | cons p rest ih =>
    obtain ⟨j, v⟩ := p
    have hrest := ih (List.nodup_cons.mp distinct).2
    have hj : ∀ v', (j, v') ∉ rest := fun v' hmem =>
      (List.nodup_cons.mp distinct).1 (List.mem_map.mpr ⟨(j, v'), hmem, rfl⟩)
    rw [List.find?_cons]
    by_cases h : j = k
    · subst h
      have : (j, r) ∉ rest := hj r
      simp [this, eq_comm]
    · have : ¬ k = j := fun h' => h h'.symm
      simpa [h, this] using hrest

theorem find_of_mem (h : (k, r) ∈ t.rows) : t.find k = some r :=
  Iff.mpr find_eq_some h

theorem mem_of_find (h : t.find k = some r) : (k, r) ∈ t.rows :=
  Iff.mp find_eq_some h

theorem find_updateMany (t : Table κ ρ) (p : κ × ρ → Bool) (f : ρ → ρ) (k : κ) :
    (t.updateMany p f).find k = (t.find k).map fun r => if p (k, r) then f r else r := by
  have same : (fun q : κ × ρ => decide (q.1 = k)) ∘
      (fun q : κ × ρ => if p q then (q.1, f q.2) else q) = fun q => decide (q.1 = k) := by
    funext q
    simp only [Function.comp_apply]
    split <;> rfl
  simp only [find, updateMany, List.find?_map, same]
  cases found : t.rows.find? fun q => q.1 = k with
  | none => simp
  | some q =>
    obtain ⟨j, r⟩ := q
    obtain rfl : j = k := by simpa using List.find?_some found
    simp only [Option.map_some]
    split <;> rfl

theorem mem_values : r ∈ t.values ↔ ∃ k, t.find k = some r := by
  simp [values, find_eq_some]

theorem find_of_mem_values (h : r ∈ t.values) : ∃ k, t.find k = some r :=
  Iff.mp mem_values h

theorem mem_values_of_find (h : t.find k = some r) :
    r ∈ t.values :=
  Iff.mpr mem_values ⟨k, h⟩

theorem any_rows :
    t.rows.any p = true ↔ ∃ k r, t.find k = some r ∧ p (k, r) = true := by
  rw [List.any_eq_true]
  constructor
  · rintro ⟨⟨k, r⟩, mem, selected⟩
    exact ⟨k, r, find_of_mem mem, selected⟩
  · rintro ⟨k, r, found, selected⟩
    exact ⟨(k, r), mem_of_find found, selected⟩

theorem find_view (t : Table κ ρ) (g : ρ → ρ') (k : κ) : (t.view g).find k = (t.find k).map g := by
  simp [find, view, List.find?_map, Function.comp_def]

theorem find_modify (t : Table κ ρ) (k j : κ) (f : ρ → ρ) :
    (t.modify k f).find j = if j = k then (t.find j).map f else t.find j := by
  have same : (fun p : κ × ρ => decide (p.1 = j)) ∘
      (fun p : κ × ρ => if p.1 = k then (p.1, f p.2) else p) = fun p => decide (p.1 = j) := by
    funext p
    simp only [Function.comp_apply]
    split <;> rfl
  simp only [find, modify, List.find?_map, same]
  cases found : t.rows.find? fun p => p.1 = j with
  | none => simp
  | some p =>
    have hp : p.1 = j := by simpa using List.find?_some found
    by_cases h : j = k <;> simp [hp, h]

@[simp] theorem find_modify_self (t : Table κ ρ) (k : κ) (f : ρ → ρ) :
    (t.modify k f).find k = (t.find k).map f := by
  simp [find_modify]

theorem find_modify_ne (t : Table κ ρ) {k j : κ} (h : j ≠ k) (f : ρ → ρ) :
    (t.modify k f).find j = t.find j := by
  simp [find_modify, h]

theorem find_modify_cases {k j : κ} (h : (t.modify k f).find j = some r) :
    (j ≠ k ∧ t.find j = some r) ∨ (j = k ∧ ∃ r', t.find k = some r' ∧ r = f r') := by
  rw [find_modify] at h
  by_cases hj : j = k
  · subst hj
    rw [if_pos rfl, Option.map_eq_some_iff] at h
    obtain ⟨r', hr', rfl⟩ := h
    exact .inr ⟨rfl, r', hr', rfl⟩
  · rw [if_neg hj] at h
    exact .inl ⟨hj, h⟩

theorem exists_find_modify {k j : κ} {P : ρ → Prop} (found : t.find j = some r)
    (own : t.find k = some r → P (f r)) (other : P r) : ∃ r', (t.modify k f).find j = some r' ∧ P r' := by
  rw [find_modify]
  split
  · rename_i same
    exact ⟨f r, by rw [found]; rfl, own (same ▸ found)⟩
  · exact ⟨r, found, other⟩

theorem modify_of_find_none (h : t.find k = none) (f : ρ → ρ) :
    t.modify k f = t := by
  ext1
  refine (List.map_congr_left fun p hp => ?_).trans (List.map_id _)
  rw [if_neg]
  · rfl
  · rintro rfl
    rw [find_of_mem (show (p.1, p.2) ∈ t.rows from hp)] at h
    cases h

theorem modify_modify (t : Table κ ρ) (k : κ) (f g : ρ → ρ) :
    (t.modify k f).modify k g = t.modify k fun r => g (f r) := by
  ext1
  simp only [modify, List.map_map]
  refine List.map_congr_left fun p _ => ?_
  simp only [Function.comp_apply]
  by_cases own : p.1 = k <;> simp [own]

theorem modify_congr {f f' : ρ → ρ} (h : ∀ r, t.find k = some r → f r = f' r) : t.modify k f = t.modify k f' := by
  ext1
  refine List.map_congr_left fun p hp => ?_
  split
  · rename_i hk
    rw [h p.2 (find_of_mem (hk ▸ hp))]
  · rfl

theorem modify_found (found : t.find k = some r) (f : ρ → ρ) :
    t.modify k f = t.modify k fun _ => f r := by
  refine modify_congr fun r' there => ?_
  rw [found] at there
  cases there
  rfl

theorem modify_same (h : ∀ r, t.find k = some r → f r = r) :
    t.modify k f = t := by
  ext1
  refine (List.map_congr_left fun p hp => ?_).trans (List.map_id _)
  split
  · rename_i hk
    rw [h p.2 (find_of_mem (hk ▸ hp))]
    rfl
  · rfl

theorem view_modify {g : ρ → ρ'} {f' : ρ' → ρ'} (h : ∀ r, t.find k = some r → g (f r) = f' (g r)) :
    (t.modify k f).view g = (t.view g).modify k f' := by
  ext1
  simp only [view, modify, List.map_map]
  refine List.map_congr_left fun p hp => ?_
  simp only [Function.comp_apply]
  split
  · rename_i hk
    simp [h p.2 (find_of_mem (hk ▸ hp))]
  · rfl

theorem view_modify_same {g : ρ → ρ'} (h : ∀ r, t.find k = some r → g (f r) = g r) :
    (t.modify k f).view g = t.view g := by
  ext1
  simp only [view, modify, List.map_map]
  refine List.map_congr_left fun p hp => ?_
  simp only [Function.comp_apply]
  split
  · rename_i hk
    simp [h p.2 (find_of_mem (hk ▸ hp))]
  · rfl

theorem sum_congr {w w' : ρ → ℤ} (h : ∀ k r, t.find k = some r → w r = w' r) :
    t.sum w = t.sum w' := by
  unfold sum
  refine congrArg List.sum (List.map_congr_left fun r mem => ?_)
  obtain ⟨k, found⟩ := find_of_mem_values mem
  exact h k r found

theorem sum_modify (found : t.find k = some r) (f : ρ → ρ) (w : ρ → ℤ) :
    (t.modify k f).sum w = t.sum w + (w (f r) - w r) := by
  obtain ⟨rows, distinct⟩ := t
  have hmem := mem_of_find found
  simp only [sum, values, modify, List.map_map] at hmem ⊢
  clear found
  induction rows with
  | nil => simp at hmem
  | cons p rest ih =>
    obtain ⟨hnot, hnodup⟩ := List.nodup_cons.mp distinct
    rcases List.mem_cons.mp hmem with rfl | hmem
    · have others : rest.map (w ∘ Prod.snd ∘ fun p => if p.1 = k then (p.1, f p.2) else p) =
          rest.map (w ∘ Prod.snd) := by
        refine List.map_congr_left fun p hp => ?_
        have : p.1 ≠ k := fun h => hnot (List.mem_map.mpr ⟨p, hp, h⟩)
        simp [this]
      simp only [List.map_cons, List.sum_cons, others]
      simp only [Function.comp_apply, if_true]
      ring
    · have hne : p.1 ≠ k := fun h => hnot (List.mem_map.mpr ⟨(k, r), hmem, h.symm⟩)
      simp only [List.map_cons, List.sum_cons, ih hnodup hmem]
      simp only [Function.comp_apply, if_neg hne]
      ring

theorem sum_modify_le {n : ℤ} (nonneg : 0 ≤ n) (h : ∀ r, t.find k = some r → w (f r) ≤ w r + n) :
    (t.modify k f).sum w ≤ t.sum w + n := by
  cases found : t.find k with
  | none =>
    rw [modify_of_find_none found]
    omega
  | some r =>
    have change := h r found
    rw [sum_modify found]
    omega

theorem sum_modify_same (h : ∀ r, t.find k = some r → w (f r) = w r) : (t.modify k f).sum w = t.sum w := by
  cases found : t.find k with
  | none => rw [modify_of_find_none found]
  | some r => rw [sum_modify found, h r found, sub_self, add_zero]

theorem sum_others (found : t.find k = some r) (p : ρ → Bool) (w : ρ → ℤ) :
    ((t.rows.filter fun q => p q.2 && decide (q.1 ≠ k)).map fun q => w q.2).sum =
      t.sum (fun r => if p r then w r else 0) - if p r then w r else 0 := by
  obtain ⟨rows, distinct⟩ := t
  have hmem := mem_of_find found
  simp only [sum, values, List.map_map] at hmem ⊢
  clear found
  induction rows with
  | nil => simp at hmem
  | cons q rest ih =>
    obtain ⟨hnot, hnodup⟩ := List.nodup_cons.mp distinct
    rcases List.mem_cons.mp hmem with rfl | hmem
    · have others : (rest.filter fun q => p q.2 && decide (q.1 ≠ k)) = rest.filter fun q => p q.2 := by
        refine List.filter_congr fun q hq => ?_
        have : q.1 ≠ k := fun h => hnot (List.mem_map.mpr ⟨q, hq, h⟩)
        simp [this]
      rw [List.filter_cons_of_neg (by simp), others, sum_filter]
      simp [Function.comp_def]
    · have hne : q.1 ≠ k := fun h => hnot (List.mem_map.mpr ⟨(k, r), hmem, h.symm⟩)
      have ih := ih hnodup hmem
      by_cases selected : p q.2 = true
      · rw [List.filter_cons_of_pos (by simp [selected, hne])]
        simp only [List.map_cons, List.sum_cons, ih, Function.comp_apply, selected, if_true]
        ring
      · rw [List.filter_cons_of_neg (by simp [selected])]
        simp only [List.map_cons, List.sum_cons, ih, Function.comp_apply, selected]
        simp

theorem filter_keys_perm {chosen : List (κ × ρ)} (distinct : (chosen.map Prod.fst).Nodup)
    (rows : ∀ q ∈ chosen, q ∈ t.rows) :
    (t.rows.filter fun q => q.1 ∈ chosen.map Prod.fst).Perm chosen := by
  rw [List.perm_ext_iff_of_nodup (t.distinct.of_map.filter _) distinct.of_map]
  rintro ⟨k, r⟩
  simp only [List.mem_filter, List.mem_map, decide_eq_true_eq]
  constructor
  · rintro ⟨row, ⟨k', r'⟩, mem, rfl⟩
    have := (find_of_mem (rows _ mem)).symm.trans (find_of_mem row)
    cases this
    exact mem
  · intro mem
    exact ⟨rows _ mem, (k, r), mem, rfl⟩

theorem forall_modify {P : ρ → Prop} (h : ∀ r ∈ t.values, P r) (keep : ∀ r, P r → P (f r)) :
    ∀ r ∈ (t.modify k f).values, P r := by
  intro r mem
  obtain ⟨j, found⟩ := find_of_mem_values mem
  rcases find_modify_cases found with ⟨-, same⟩ | ⟨-, r', before, rfl⟩
  · exact h r (mem_values_of_find same)
  · exact keep r' (h r' (mem_values_of_find before))

/-- A changed row that starts to be selected joins the rows selected before. -/
theorem filter_modify_perm (found : t.find k = some r) (before : p (k, r) = false) (after : p (k, f r) = true) :
    ((t.modify k f).rows.filter p).Perm (t.rows.filter p ++ [(k, f r)]) := by
  obtain ⟨rows, distinct⟩ := t
  have hmem := mem_of_find found
  simp only [modify] at hmem ⊢
  clear found
  induction rows with
  | nil => simp at hmem
  | cons q rest ih =>
    obtain ⟨hnot, hnodup⟩ := List.nodup_cons.mp distinct
    rcases List.mem_cons.mp hmem with rfl | hmem
    · have others : rest.map (fun p => if p.1 = k then (p.1, f p.2) else p) = rest := by
        refine (List.map_congr_left fun p hp => ?_).trans (List.map_id _)
        have : p.1 ≠ k := fun h => hnot (List.mem_map.mpr ⟨p, hp, h⟩)
        simp [this]
      simp only [List.map_cons, others, if_true]
      rw [List.filter_cons_of_pos after, List.filter_cons_of_neg (by simp [before])]
      exact (List.perm_append_singleton _ _).symm
    · have hne : q.1 ≠ k := fun h => hnot (List.mem_map.mpr ⟨(k, r), hmem, h.symm⟩)
      simp only [List.map_cons, if_neg hne, List.filter_cons]
      split
      · exact (ih hnodup hmem).cons q
      · exact ih hnodup hmem

/-- A change that does not alter the selection of its row changes the selected rows in place. -/
theorem filter_modify_map (h : ∀ r, p (k, f r) = p (k, r)) :
    (t.modify k f).rows.filter p =
      (t.rows.filter p).map fun q => if q.1 = k then (q.1, f q.2) else q := by
  rw [modify, List.filter_map]
  congr 1
  refine List.filter_congr fun q _ => ?_
  simp only [Function.comp_apply]
  split
  · rename_i hk
    rw [hk, h, ← hk]
  · rfl

/-- A change that neither selects nor drops its row, and does not alter a selected one, keeps the
selection. -/
theorem filter_modify_same (h : ∀ r, t.find k = some r → p (k, r) = false ∧ p (k, f r) = false) :
    (t.modify k f).rows.filter p = t.rows.filter p := by
  obtain ⟨rows, distinct⟩ := t
  have hrows : ∀ r, (k, r) ∈ rows → p (k, r) = false ∧ p (k, f r) = false :=
    fun r hr => h r (find_of_mem hr)
  simp only [modify]
  clear h distinct
  induction rows with
  | nil => rfl
  | cons q rest ih =>
    have hrest := ih fun r hr => hrows r (List.mem_cons_of_mem _ hr)
    obtain ⟨j, v⟩ := q
    by_cases hj : j = k
    · subst hj
      obtain ⟨h1, h2⟩ := hrows v List.mem_cons_self
      simp [h1, h2, hrest]
    · simp [List.filter_cons, hj, hrest]

end

/-! ### Rows added and deleted by key -/

section

variable [DecidableEq κ]

theorem find_deleteMany (t : Table κ ρ) (p : κ × ρ → Bool) (k : κ) :
    (t.deleteMany p).find k = (t.find k).filter fun r => !p (k, r) := by
  ext r
  simp only [Option.filter_eq_some_iff, find_eq_some, deleteMany, List.mem_filter]

def upsert (t : Table κ ρ) (k : κ) (create : ρ) (update : ρ → ρ) : Table κ ρ :=
  if h : t.find k = none then
    { rows := t.rows ++ [(k, create)]
      distinct := by
        rw [List.map_append, List.nodup_append]
        refine ⟨t.distinct, by simp, fun a ha b hb => ?_⟩
        obtain ⟨⟨j, r⟩, hp, rfl⟩ := List.mem_map.mp ha
        obtain rfl : b = k := by simpa using hb
        rintro rfl
        rw [find_of_mem hp] at h
        cases h }
  else t.modify k update

theorem find_upsert (t : Table κ ρ) (k j : κ) (create : ρ) (update : ρ → ρ) :
    (t.upsert k create update).find j =
      if j = k then some ((t.find k).elim create update) else t.find j := by
  rw [upsert]
  split
  · rename_i h
    ext r
    rw [find_eq_some]
    simp only [List.mem_append, List.mem_singleton, Prod.mk.injEq]
    by_cases same : j = k
    · subst same
      rw [if_pos rfl, h, Option.elim_none, Option.some_inj, ← find_eq_some, h]
      simp [eq_comm]
    · rw [if_neg same, ← find_eq_some]
      simp [same]
  · rename_i h
    obtain ⟨r, found⟩ := Option.ne_none_iff_exists'.mp h
    rw [find_modify]
    split
    · rename_i same
      rw [same, found]
      rfl
    · rfl

@[simp] theorem find_upsert_self (t : Table κ ρ) (k : κ) (create : ρ) (update : ρ → ρ) :
    (t.upsert k create update).find k = some ((t.find k).elim create update) := by
  rw [find_upsert, if_pos rfl]

theorem rows_upsert_new (new : t.find k = none) (create : ρ) (update : ρ → ρ) :
    (t.upsert k create update).rows = t.rows ++ [(k, create)] := by
  rw [upsert, dif_pos new]

theorem find_foldl_upsert {ω : Type*} (key : ω → κ) (row : ω → ρ) {writes : List ω}
    (distinct : (writes.map key).Nodup) (t : Table κ ρ) (k : κ) :
    (writes.foldl (fun t w => t.upsert (key w) (row w) fun _ => row w) t).find k =
      ((writes.find? fun w => key w = k).map row).or (t.find k) := by
  induction writes generalizing t with
  | nil => rfl
  | cons w rest ih =>
    rw [List.map_cons, List.nodup_cons] at distinct
    rw [List.foldl_cons, ih distinct.2, List.find?_cons]
    by_cases own : key w = k
    · have absent : rest.find? (fun w => decide (key w = k)) = none := by
        rw [List.find?_eq_none]
        intro w' mem same
        exact distinct.1 (List.mem_map.mpr ⟨w', mem, (of_decide_eq_true same).trans own.symm⟩)
      rw [absent, decide_eq_true own, ← own, find_upsert_self]
      cases t.find (key w) <;> rfl
    · rw [decide_eq_false own, find_upsert, if_neg (Ne.symm own)]

end

/-! ### Tables numbered by naturals -/

def nextKey (t : Table ℕ ρ) : ℕ := t.rows.foldr (fun p n => max (p.1 + 1) n) 0

theorem lt_nextKey {t : Table ℕ ρ} {p : ℕ × ρ} (h : p ∈ t.rows) : p.1 < t.nextKey := by
  obtain ⟨rows, distinct⟩ := t
  simp only [nextKey] at h ⊢
  clear distinct
  induction rows with
  | nil => simp at h
  | cons q rest ih =>
    rcases List.mem_cons.mp h with rfl | h
    · simp
    · have := ih h
      simp only [List.foldr_cons]
      omega

def push (t : Table ℕ ρ) (r : ρ) : Table ℕ ρ where
  rows := t.rows ++ [(t.nextKey, r)]
  distinct := by
    rw [List.map_append, List.nodup_append]
    refine ⟨t.distinct, by simp, fun a ha b hb => ?_⟩
    obtain ⟨p, hp, rfl⟩ := List.mem_map.mp ha
    have : b = t.nextKey := by simpa using hb
    have := lt_nextKey hp
    omega

@[simp] theorem rows_push (t : Table ℕ ρ) (r : ρ) :
    (t.push r).rows = t.rows ++ [(t.nextKey, r)] := rfl

@[simp] theorem sum_push (t : Table ℕ ρ) (r : ρ) (w : ρ → ℤ) :
    (t.push r).sum w = t.sum w + w r := by
  simp [sum, values, push]

@[simp] theorem nextKey_view (t : Table ℕ ρ) (g : ρ → ρ') : (t.view g).nextKey = t.nextKey := by
  simp [nextKey, view, List.foldr_map]

@[simp] theorem nextKey_updateMany (t : Table ℕ ρ) (p : ℕ × ρ → Bool) (f : ρ → ρ) :
    (t.updateMany p f).nextKey = t.nextKey := by
  simp only [nextKey, updateMany, List.foldr_map]
  congr 1
  funext q n
  split <;> rfl

@[simp] theorem view_push (t : Table ℕ ρ) (r : ρ) (g : ρ → ρ') :
    (t.push r).view g = (t.view g).push (g r) := by
  ext1
  rw [rows_push, nextKey_view]
  simp [view]

@[simp] theorem values_empty : (empty : Table κ ρ).values = [] := rfl

@[simp] theorem values_push (t : Table ℕ ρ) (r : ρ) : (t.push r).values = t.values ++ [r] := by
  simp [values, push]

theorem find_nextKey (t : Table ℕ ρ) : t.find t.nextKey = none := by
  rw [Option.eq_none_iff_forall_ne_some]
  intro r found
  exact absurd (lt_nextKey (mem_of_find found)) (lt_irrefl _)

theorem find_push (t : Table ℕ ρ) (r : ρ) (k : ℕ) :
    (t.push r).find k = if k = t.nextKey then some r else t.find k := by
  by_cases hk : k = t.nextKey
  · rw [if_pos hk, find_eq_some, hk]
    simp
  · rw [if_neg hk]
    cases found : t.find k with
    | some v =>
      rw [find_eq_some] at found ⊢
      simp [found]
    | none =>
      rw [Option.eq_none_iff_forall_ne_some] at found ⊢
      intro v hv
      rw [find_eq_some, rows_push, List.mem_append] at hv
      rcases hv with hv | hv
      · exact found v (find_of_mem hv)
      · simp only [List.mem_singleton, Prod.mk.injEq] at hv
        exact hk hv.1

theorem find_push_cases {t : Table ℕ ρ} {k : ℕ} {r v : ρ} (h : (t.push r).find k = some v) :
    t.find k = some v ∨ (k = t.nextKey ∧ v = r) := by
  rw [find_push] at h
  split at h
  · rename_i own
    cases h
    exact .inr ⟨own, rfl⟩
  · exact .inl h

theorem find_push_of_some {t : Table ℕ ρ} {k : ℕ} {v : ρ} (found : t.find k = some v) (r : ρ) :
    (t.push r).find k = some v := by
  rw [find_push, if_neg]
  · exact found
  · rintro rfl
    rw [find_nextKey] at found
    cases found

end Table
