import Mathlib.Data.List.Induction
import Mathlib.Tactic.IntervalCases
import Mathlib.Tactic.Ring

/-! Lines of fixed width: fields at fixed columns, numbers written in decimal with zeros on the left,
and the lines of a text. -/

namespace FixedWidth

section Columns

variable {α : Type*}

/-- `len` columns of a line after the first `start`. -/
def slice (start len : ℕ) (line : List α) : List α := (line.drop start).take len

theorem slice_parts {line : List α} (parts : List (List α)) (i count : ℕ) {start len : ℕ}
    (whole : line = parts.flatten) (place : (parts.take i).flatten.length = start)
    (width : ((parts.drop i).take count).flatten.length = len) :
    slice start len line = ((parts.drop i).take count).flatten := by
  have split : line = (parts.take i).flatten ++
      (((parts.drop i).take count).flatten ++ ((parts.drop i).drop count).flatten) := by
    rw [whole, ← List.flatten_append, List.take_append_drop, ← List.flatten_append,
      List.take_append_drop]
  rw [slice, split, List.drop_left' place, List.take_left' width]

end Columns

section Decimal

/-- The last `width` decimal digits of a number. -/
def decimal : ℕ → ℕ → List Char
  | 0, _ => []
  | width + 1, n => decimal width (n / 10) ++ [Nat.digitChar (n % 10)]

def value (digits : List Char) : ℕ := digits.foldl (fun v c => 10 * v + (c.toNat - 48)) 0

@[simp] theorem length_decimal (width n : ℕ) : (decimal width n).length = width := by
  induction width generalizing n with
  | zero => rfl
  | succ width ih => simp [decimal, ih]

theorem digitChar_toNat {d : ℕ} (h : d < 10) : (Nat.digitChar d).toNat = 48 + d := by
  interval_cases d <;> rfl

theorem isDigit_of_mem_decimal {width n : ℕ} {c : Char} (mem : c ∈ decimal width n) :
    c.isDigit = true := by
  induction width generalizing n with
  | zero => simp [decimal] at mem
  | succ width ih =>
    rcases List.mem_append.mp mem with mem | mem
    · exact ih mem
    · obtain rfl := List.mem_singleton.mp mem
      have small : n % 10 < 10 := Nat.mod_lt _ (by decide)
      generalize n % 10 = d at small
      interval_cases d <;> rfl

theorem decimal_add (left right n : ℕ) :
    decimal (left + right) n = decimal left (n / 10 ^ right) ++ decimal right n := by
  induction right generalizing n with
  | zero => simp [decimal]
  | succ right ih =>
    rw [← add_assoc, decimal, ih, decimal, Nat.div_div_eq_div_mul, ← pow_succ', List.append_assoc]

theorem value_append (left right : List Char) :
    value (left ++ right) = value left * 10 ^ right.length + value right := by
  induction right using List.reverseRecOn with
  | nil => simp [value]
  | append_singleton right c ih =>
    have last : ∀ l : List Char, value (l ++ [c]) = 10 * value l + (c.toNat - 48) := by
      intro l
      simp [value]
    rw [← List.append_assoc, last, last, ih, List.length_append, List.length_singleton, pow_succ]
    ring

@[simp] theorem value_decimal (width n : ℕ) : value (decimal width n) = n % 10 ^ width := by
  induction width generalizing n with
  | zero => simp [decimal, value, Nat.mod_one]
  | succ width ih =>
    have digit : value [Nat.digitChar (n % 10)] = n % 10 := by
      simp [value, digitChar_toNat (Nat.mod_lt n (by decide : 0 < 10))]
    rw [decimal, value_append, ih, digit, List.length_singleton, pow_one, pow_succ', mul_comm,
      Nat.mod_mul]
    omega

/-- Two numbers have the same last digits when they agree up to multiples of a power of ten. -/
theorem decimal_inj {width m n : ℕ} :
    decimal width m = decimal width n ↔ m % 10 ^ width = n % 10 ^ width := by
  constructor
  · intro same
    rw [← value_decimal, same, value_decimal]
  · intro same
    induction width generalizing m n with
    | zero => rfl
    | succ width ih =>
      rw [pow_succ', Nat.mod_mul, Nat.mod_mul] at same
      have low : m % 10 = n % 10 := by omega
      have high : m / 10 % 10 ^ width = n / 10 % 10 ^ width := by omega
      rw [decimal, decimal, ih high, low]

end Decimal

section Lines

/-- Splits a text at its line breaks, of one or of two characters. -/
def splitLines : List Char → List (List Char)
  | [] => [[]]
  | '\r' :: '\n' :: rest => [] :: splitLines rest
  | '\r' :: rest => [] :: splitLines rest
  | '\n' :: rest => [] :: splitLines rest
  | c :: rest =>
    match splitLines rest with
    | [] => [[c]]
    | line :: lines => (c :: line) :: lines

def isBreak (c : Char) : Bool := c = '\r' || c = '\n'

inductive LineEnd
  | lf
  | crlf
  deriving DecidableEq

def LineEnd.chars : LineEnd → List Char
  | .lf => ['\n']
  | .crlf => ['\r', '\n']

theorem splitLines_cons {c : Char} (plain : isBreak c = false) (rest : List Char) :
    splitLines (c :: rest) =
      match splitLines rest with
      | [] => [[c]]
      | line :: lines => (c :: line) :: lines := by
  rw [splitLines.eq_def]
  split <;> simp_all [isBreak]

theorem splitLines_line {line : List Char} (plain : ∀ c ∈ line, isBreak c = false) (e : LineEnd)
    (rest : List Char) :
    splitLines (line ++ (e.chars ++ rest)) = line :: splitLines rest := by
  induction line with
  | nil => cases e <;> rfl
  | cons c line ih =>
    rw [List.cons_append, splitLines_cons (plain c List.mem_cons_self),
      ih fun d mem => plain d (List.mem_cons_of_mem c mem)]

def joinLines (e : LineEnd) (lines : List (List Char)) : List Char :=
  lines.flatMap fun line => line ++ e.chars

theorem splitLines_joinLines (e : LineEnd) {lines : List (List Char)}
    (plain : ∀ line ∈ lines, ∀ c ∈ line, isBreak c = false) :
    splitLines (joinLines e lines) = lines ++ [[]] := by
  induction lines with
  | nil => rfl
  | cons line lines ih =>
    rw [joinLines, List.flatMap_cons, List.append_assoc,
      splitLines_line (plain line List.mem_cons_self), ← joinLines,
      ih fun l mem => plain l (List.mem_cons_of_mem line mem), List.cons_append]

end Lines

end FixedWidth
