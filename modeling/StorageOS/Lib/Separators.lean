import Mathlib.Data.List.Infix
import Mathlib.Data.List.Basic
import Mathlib.Data.List.DropRight
import Mathlib.Data.List.TakeWhile

/-! Texts whose parts are joined by a separator, and by two of them in a row at one place. -/

/-! What holds of every member of a list is decided member by member, also for a type with finitely many values. -/

namespace MemberByMember

scoped instance (priority := high) decidableForallMem {α : Type*} (l : List α) (p : α → Prop) [DecidablePred p] :
    Decidable (∀ a ∈ l, p a) :=
  List.decidableBAll p l

end MemberByMember

namespace Separators

variable {α : Type*} [DecidableEq α] (s : α)

/-- How often two separators come in a row, from the left and without overlap. -/
def doubles : List α → ℕ
  | [] => 0
  | [_] => 0
  | a :: b :: rest => if a = s ∧ b = s then doubles rest + 1 else doubles (b :: rest)

def splitDoubles : List α → List (List α)
  | [] => [[]]
  | [a] => [[a]]
  | a :: b :: rest =>
    if a = s ∧ b = s then [] :: splitDoubles rest else (splitDoubles (b :: rest)).modifyHead (a :: ·)

def Plain (parts : List (List α)) : Prop := ∀ p ∈ parts, p ≠ [] ∧ s ∉ p

variable {s} {parts : List (List α)} {a : α} {l : List α}

omit [DecidableEq α] in
theorem mem_intercalate (mem : a ∈ [s].intercalate parts) : a = s ∨ ∃ p ∈ parts, a ∈ p := by
  induction parts with
  | nil => cases mem
  | cons p parts ih =>
    cases parts with
    | nil =>
      rw [List.intercalate_singleton] at mem
      exact .inr ⟨p, List.mem_cons_self, mem⟩
    | cons q parts =>
      rw [List.intercalate_cons_cons, List.mem_append, List.mem_append, List.mem_singleton] at mem
      rcases mem with (first | separator) | after
      · exact .inr ⟨p, List.mem_cons_self, first⟩
      · exact .inl separator
      · rcases ih after with same | ⟨r, has, inside⟩
        · exact .inl same
        · exact .inr ⟨r, List.mem_cons_of_mem _ has, inside⟩

omit [DecidableEq α] in
theorem map_intercalate {β : Type*} (f : α → β) :
    ([s].intercalate parts).map f = [f s].intercalate (parts.map (List.map f)) := by
  induction parts with
  | nil => rfl
  | cons p parts ih =>
    cases parts with
    | nil => rw [List.intercalate_singleton, List.map_cons, List.map_nil, List.intercalate_singleton]
    | cons q parts =>
      rw [List.intercalate_cons_cons, List.map_append, List.map_append, ih]
      simp only [List.map_cons, List.map_nil, List.intercalate_cons_cons]

theorem doubles_other (other : a ≠ s) : doubles s (a :: l) = doubles s l := by
  cases l with
  | nil => rfl
  | cons b l => rw [doubles, if_neg fun both => other both.1]

theorem doubles_single (other : a ≠ s) : doubles s (s :: a :: l) = doubles s (a :: l) := by
  rw [doubles, if_neg fun both => other both.2]

theorem splitDoubles_other (other : a ≠ s) :
    splitDoubles s (a :: l) = (splitDoubles s l).modifyHead (a :: ·) := by
  cases l with
  | nil => rfl
  | cons b l => rw [splitDoubles, if_neg fun both => other both.1]

theorem splitDoubles_single (other : a ≠ s) :
    splitDoubles s (s :: a :: l) = (splitDoubles s (a :: l)).modifyHead (s :: ·) := by
  rw [splitDoubles, if_neg fun both => other both.2]

omit [DecidableEq α] in
theorem intercalate_starts {q : List α} (plain : Plain s (q :: parts)) :
    ∃ a tail, [s].intercalate (q :: parts) = a :: tail ∧ a ≠ s := by
  obtain ⟨some_, clean⟩ := plain q List.mem_cons_self
  cases q with
  | nil => exact absurd rfl some_
  | cons a q =>
    rw [List.mem_cons, not_or] at clean
    cases parts with
    | nil => exact ⟨a, q, List.intercalate_singleton, Ne.symm clean.1⟩
    | cons r parts => exact ⟨a, _, List.intercalate_cons_cons, Ne.symm clean.1⟩

omit [DecidableEq α] in
/-- What holds before any text, and of a symbol and of a separator that another symbol follows, holds of
parts that are joined. -/
theorem intercalate_induction {motive : List α → Prop} (nil : motive [])
    (other : ∀ a t, a ≠ s → motive t → motive (a :: t))
    (single : ∀ a t, a ≠ s → motive (a :: t) → motive (s :: a :: t)) (plain : Plain s parts) :
    motive ([s].intercalate parts) := by
  have append : ∀ {p t : List α}, s ∉ p → motive t → motive (p ++ t) := by
    intro p t clean holds
    induction p with
    | nil => exact holds
    | cons a p ih =>
      rw [List.mem_cons, not_or] at clean
      exact other a _ (Ne.symm clean.1) (ih clean.2)
  induction parts with
  | nil => exact nil
  | cons p parts ih =>
    have first := plain p List.mem_cons_self
    have after := ih fun q mem => plain q (List.mem_cons_of_mem _ mem)
    cases parts with
    | nil =>
      rw [List.intercalate_singleton, ← List.append_nil p]
      exact append first.2 nil
    | cons q parts =>
      rw [List.intercalate_cons_cons, List.append_assoc]
      refine append first.2 ?_
      obtain ⟨a, tail, starts, other⟩ := intercalate_starts fun r mem => plain r (List.mem_cons_of_mem _ mem)
      rw [starts] at after ⊢
      exact single a tail other after

theorem doubles_intercalate (plain : Plain s parts) (rest : List α) :
    doubles s ([s].intercalate parts ++ rest) = doubles s rest := by
  apply intercalate_induction (motive := fun t => doubles s (t ++ rest) = doubles s rest) rfl _ _ plain
  · intro a t other ih
    rw [List.cons_append, doubles_other other, ih]
  · intro a t other ih
    rw [List.cons_append, List.cons_append, doubles_single other, ← List.cons_append, ih]

theorem splitDoubles_intercalate (plain : Plain s parts) (rest : List α) :
    splitDoubles s ([s].intercalate parts ++ rest) =
      (splitDoubles s rest).modifyHead ([s].intercalate parts ++ ·) := by
  apply intercalate_induction
    (motive := fun t => splitDoubles s (t ++ rest) = (splitDoubles s rest).modifyHead (t ++ ·)) _ _ _ plain
  · exact (congrFun List.modifyHead_id _).symm
  · intro a t other ih
    rw [List.cons_append, splitDoubles_other other, ih, List.modifyHead_modifyHead]
    rfl
  · intro a t other ih
    rw [List.cons_append, List.cons_append, splitDoubles_single other, ← List.cons_append, ih,
      List.modifyHead_modifyHead]
    rfl

omit [DecidableEq α] in
theorem triple_intercalate (plain : Plain s parts) (rest : List α) :
    [s, s, s] <:+: [s].intercalate parts ++ rest ↔ [s, s, s] <:+: rest := by
  apply intercalate_induction (motive := fun t => [s, s, s] <:+: t ++ rest ↔ [s, s, s] <:+: rest) Iff.rfl _ _
    plain
  · intro a t other ih
    rw [List.cons_append, List.infix_cons_iff, ih]
    simp [Ne.symm other]
  · intro a t other ih
    rw [List.cons_append, List.infix_cons_iff, ih]
    simp [Ne.symm other]

/-! ### Parts before and after two separators -/

variable {left right : List (List α)}

theorem doubles_between (before : Plain s left) (after : Plain s right) :
    doubles s ([s].intercalate left ++ [s, s] ++ [s].intercalate right) = 1 := by
  have last := doubles_intercalate after []
  rw [List.append_nil] at last
  rw [List.append_assoc, doubles_intercalate before, List.cons_append, List.cons_append, List.nil_append, doubles,
    if_pos ⟨rfl, rfl⟩, last, doubles]

theorem splitDoubles_between (before : Plain s left) (after : Plain s right) :
    splitDoubles s ([s].intercalate left ++ [s, s] ++ [s].intercalate right) =
      [[s].intercalate left, [s].intercalate right] := by
  have last := splitDoubles_intercalate after []
  rw [List.append_nil] at last
  rw [List.append_assoc, splitDoubles_intercalate before, List.cons_append, List.cons_append, List.nil_append,
    splitDoubles, if_pos ⟨rfl, rfl⟩, last]
  simp [splitDoubles]

omit [DecidableEq α] in
theorem not_triple_between (before : Plain s left) (after : Plain s right) :
    ¬[s, s, s] <:+: [s].intercalate left ++ [s, s] ++ [s].intercalate right := by
  have last := triple_intercalate after []
  rw [List.append_nil] at last
  rw [List.append_assoc, triple_intercalate before, List.cons_append, List.cons_append, List.nil_append,
    List.infix_cons_iff, List.infix_cons_iff, last]
  cases right with
  | nil => simp
  | cons q right =>
    obtain ⟨a, tail, starts, other⟩ := intercalate_starts after
    simp [starts, Ne.symm other]

end Separators

/-! Texts in which one symbol stands alone: its runs are squeezed to one and its runs at the ends are
stripped. -/

namespace Squeeze

variable {α : Type*} [DecidableEq α] (a : α)

def squeeze : List α → List α
  | [] => []
  | [x] => [x]
  | x :: y :: rest => if x = a ∧ y = a then squeeze (y :: rest) else x :: squeeze (y :: rest)

def strip (l : List α) : List α := (l.dropWhile (· = a)).rdropWhile (· = a)

def Single (l : List α) : Prop := ¬[a, a] <:+: l

variable {a} {l m : List α}

/-! ### Squeezing -/

theorem squeeze_cons (x : α) (l : List α) : ∃ rest, squeeze a (x :: l) = x :: rest := by
  induction l generalizing x with
  | nil => exact ⟨[], rfl⟩
  | cons y l ih =>
    rw [squeeze]
    split
    next both =>
      obtain ⟨rfl, rfl⟩ := both
      exact ih y
    next => exact ⟨_, rfl⟩

theorem squeeze_sublist (l : List α) : (squeeze a l).Sublist l := by
  fun_induction squeeze a l with
  | case1 => exact List.Sublist.refl _
  | case2 x => exact List.Sublist.refl _
  | case3 x y rest _ ih => exact ih.cons x
  | case4 x y rest _ ih => exact ih.cons_cons x

theorem mem_squeeze {b : α} : b ∈ squeeze a l ↔ b ∈ l := by
  refine ⟨fun mem => (squeeze_sublist l).subset mem, fun mem => ?_⟩
  fun_induction squeeze a l with
  | case1 => exact mem
  | case2 x => exact mem
  | case3 x y rest both ih =>
    rcases List.mem_cons.mp mem with rfl | mem
    · exact ih (by rw [both.1, both.2]; exact List.mem_cons_self)
    · exact ih mem
  | case4 x y rest _ ih =>
    rcases List.mem_cons.mp mem with rfl | mem
    · exact List.mem_cons_self
    · exact List.mem_cons_of_mem _ (ih mem)

theorem single_squeeze (l : List α) : Single a (squeeze a l) := by
  fun_induction squeeze a l with
  | case1 => simp [Single]
  | case2 x => exact fun twice => absurd twice.length_le (by simp)
  | case3 x y rest _ ih => exact ih
  | case4 x y rest other ih =>
    rw [Single, List.infix_cons_iff, not_or]
    refine ⟨fun starts => ?_, ih⟩
    obtain ⟨tail, shape⟩ := squeeze_cons (a := a) y rest
    rw [shape, List.cons_prefix_cons, List.cons_prefix_cons] at starts
    exact other ⟨starts.1.symm, starts.2.1.symm⟩

theorem squeeze_of_single (single : Single a l) : squeeze a l = l := by
  fun_induction squeeze a l with
  | case1 => rfl
  | case2 x => rfl
  | case3 x y rest both _ =>
    refine absurd ?_ single
    rw [both.1, both.2]
    exact (List.prefix_append [a, a] rest).isInfix
  | case4 x y rest _ ih => rw [ih fun twice => single (twice.trans (List.suffix_cons x _).isInfix)]

omit [DecidableEq α] in
theorem Single.of_part (single : Single a l) (part : m <:+: l) : Single a m := fun twice =>
  single (twice.trans part)

theorem Single.other {b : α} (single : Single a l) (mem : b ∈ l) (other : b ≠ a) : ∃ c ∈ l.take 2, c ≠ a := by
  cases l with
  | nil => cases mem
  | cons x l =>
    by_cases first : x = a
    · subst first
      cases l with
      | nil => exact absurd (List.mem_singleton.mp mem) other
      | cons y l =>
        refine ⟨y, by simp, ?_⟩
        rintro rfl
        exact single (List.prefix_append [y, y] l).isInfix
    · exact ⟨x, by simp, first⟩

/-! ### Stripping -/

theorem strip_part (l : List α) : strip a l <:+: l :=
  (List.rdropWhile_prefix _ _).isInfix.trans (List.dropWhile_suffix _).isInfix

theorem strip_eq_nil : strip a l = [] ↔ ∀ b ∈ l, b = a := by
  rw [strip, List.rdropWhile_eq_nil_iff]
  simp only [decide_eq_true_eq]
  constructor
  · intro all b mem
    by_contra other
    have kept : l.dropWhile (· = a) ≠ [] := by
      rw [ne_eq, List.dropWhile_eq_nil_iff]
      exact fun every => other (of_decide_eq_true (every b mem))
    have first := List.head_dropWhile_not (fun b => decide (b = a)) kept
    exact of_decide_eq_false first (all _ (List.head_mem kept))
  · exact fun all b mem => all b ((List.dropWhile_suffix _).subset mem)

theorem strip_of_ends (first : l.head? ≠ some a) (last : l.getLast? ≠ some a) : strip a l = l := by
  cases l with
  | nil => rfl
  | cons b l =>
    have start : (b :: l).dropWhile (· = a) = b :: l :=
      List.dropWhile_cons_of_neg (by simpa using first)
    rw [strip, start, List.rdropWhile_eq_self_iff]
    intro some_ same
    exact last (by rw [List.getLast?_eq_some_getLast some_, of_decide_eq_true same])

theorem strip_last (l : List α) : (strip a l).getLast? ≠ some a := by
  intro last
  have some_ : strip a l ≠ [] := by
    intro none
    rw [none] at last
    cases last
  rw [List.getLast?_eq_some_getLast some_, Option.some.injEq] at last
  exact List.rdropWhile_last_not _ _ some_ (decide_eq_true last)

theorem strip_head (l : List α) : (strip a l).head? ≠ some a := by
  intro first
  obtain ⟨tail, whole⟩ := List.rdropWhile_prefix (fun b => decide (b = a)) (l.dropWhile (· = a))
  cases shape : strip a l with
  | nil =>
    rw [shape] at first
    cases first
  | cons b rest =>
    rw [shape] at first
    obtain rfl := Option.some.inj first
    rw [strip] at shape
    rw [shape] at whole
    have kept : l.dropWhile (· = b) ≠ [] := by
      rw [← whole]
      exact List.cons_ne_nil _ _
    have other := List.head_dropWhile_not (fun c => decide (c = b)) kept
    simp only [← whole] at other
    exact absurd other (by simp)

end Squeeze
