import Mathlib.Algebra.Field.ZMod
import Mathlib.Tactic.LinearCombination
import Mathlib.Tactic.Ring

/-! Check digits: symbols of different widths are written one after the other in a base, and the
number they write is compared modulo a prime. -/

namespace CheckDigits

variable {α : Type*} (base : ℕ) (width value : α → ℕ)

def number (l : List α) : ℕ := l.foldl (fun n c => n * base ^ width c + value c) 0

def totalWidth (l : List α) : ℕ := (l.map width).sum

def remainder (modulus : ℕ) (l : List α) : ℕ :=
  l.foldl (fun r c => (r * base ^ width c + value c) % modulus) 0

section

variable {width}

@[simp] theorem totalWidth_cons (c : α) (l : List α) :
    totalWidth width (c :: l) = width c + totalWidth width l := by
  simp [totalWidth]

theorem totalWidth_le {w : ℕ} {l : List α} (each : ∀ c ∈ l, width c ≤ w) :
    totalWidth width l ≤ w * l.length := by
  induction l with
  | nil => simp [totalWidth]
  | cons c l ih =>
    have first := each c List.mem_cons_self
    have rest := ih fun d mem => each d (List.mem_cons_of_mem _ mem)
    rw [totalWidth_cons, List.length_cons, mul_add, mul_one]
    omega

end

section

variable {base} {width value}

theorem foldl_number (l : List α) (n : ℕ) :
    l.foldl (fun n c => n * base ^ width c + value c) n =
      n * base ^ totalWidth width l + number base width value l := by
  induction l generalizing n with
  | nil => simp [totalWidth, number]
  | cons c l ih =>
    have whole : number base width value (c :: l) =
        value c * base ^ totalWidth width l + number base width value l := by
      rw [number, List.foldl_cons, ih, zero_mul, zero_add]
    rw [List.foldl_cons, ih, whole, totalWidth_cons, pow_add]
    ring

theorem number_append (l m : List α) : number base width value (l ++ m) =
    number base width value l * base ^ totalWidth width m + number base width value m := by
  rw [number, List.foldl_append, foldl_number]
  rfl

theorem number_cons (c : α) (l : List α) : number base width value (c :: l) =
    value c * base ^ totalWidth width l + number base width value l := by
  rw [number, List.foldl_cons, foldl_number, zero_mul, zero_add]

theorem remainder_eq (modulus : ℕ) (l : List α) :
    remainder base width value modulus l = number base width value l % modulus := by
  have along : ∀ n, l.foldl (fun r c => (r * base ^ width c + value c) % modulus) (n % modulus) =
      l.foldl (fun n c => n * base ^ width c + value c) n % modulus := by
    induction l with
    | nil => intro n; rfl
    | cons c l ih =>
      intro n
      have step : (n % modulus * base ^ width c + value c) % modulus =
          (n * base ^ width c + value c) % modulus := by
        rw [Nat.add_mod, Nat.mod_mul_mod, ← Nat.add_mod]
      rw [List.foldl_cons, List.foldl_cons, step, ih]
  have := along 0
  rwa [Nat.zero_mod] at this

end

/-! ### What is detected -/

section

variable {base} {width value} {p : ℕ} [Fact p.Prime] {a b : α}

/-- One symbol for another of its width: the numbers agree only if the values do. -/
theorem value_eq_of_substitution (coprime : (base : ZMod p) ≠ 0) (same : width a = width b)
    {x y : List α} (h : (number base width value (x ++ a :: y) : ZMod p) =
      number base width value (x ++ b :: y)) : (value a : ZMod p) = value b := by
  rw [number_append, number_append, number_cons, number_cons, totalWidth_cons, totalWidth_cons,
    same] at h
  push_cast at h
  have shifted : (value a : ZMod p) * base ^ totalWidth width y =
      value b * base ^ totalWidth width y := by
    linear_combination h
  exact mul_right_cancel₀ (pow_ne_zero _ coprime) shifted

/-- Two symbols of one width in each other's place: the numbers agree only if the values do, or if
the places count the same. -/
theorem value_eq_of_transposition (coprime : (base : ZMod p) ≠ 0) (same : width a = width b)
    {x m y : List α} (places : (base : ZMod p) ^ (width b + totalWidth width m) ≠ 1)
    (h : (number base width value (x ++ a :: m ++ b :: y) : ZMod p) =
      number base width value (x ++ b :: m ++ a :: y)) : (value a : ZMod p) = value b := by
  simp only [number_append, number_cons, totalWidth_cons, same, pow_add] at h
  push_cast at h
  rw [pow_add] at places
  have product : ((value a : ZMod p) - value b) *
      ((base ^ width b * base ^ totalWidth width m - 1) * base ^ totalWidth width y) = 0 := by
    linear_combination h
  rcases mul_eq_zero.mp product with equal | zero
  · exact sub_eq_zero.mp equal
  · rcases mul_eq_zero.mp zero with one | power
    · exact (places (sub_eq_zero.mp one)).elim
    · exact (pow_ne_zero _ coprime power).elim

end

end CheckDigits
