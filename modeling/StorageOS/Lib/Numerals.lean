import Mathlib.Data.Nat.Bitwise
import Mathlib.Tactic.IntervalCases
import Mathlib.Tactic.Ring
import Mathlib.Tactic.Zify

/-! Numbers written in a base up to 16, in either case. -/

namespace Numerals

/-! ### Digits -/

def digit (c : Char) : ℕ :=
  if c.isDigit then c.toNat - 48 else if c.toNat < 97 then c.toNat - 55 else c.toNat - 87

def isSmallHex (c : Char) : Bool := c.isDigit || 'a' ≤ c && c ≤ 'f'

def isHex (c : Char) : Bool := isSmallHex c || 'A' ≤ c && c ≤ 'F'

def read (b : ℕ) (text : List Char) : ℕ := text.foldl (fun n c => b * n + digit c) 0

/-- What holds of the digits among the first characters holds of all digits. -/
theorem hex_induction {motive : Char → Prop} (early : ∀ n < 103, isHex (Char.ofNat n) = true → motive (Char.ofNat n))
    {c : Char} (hex : isHex c = true) : motive c := by
  have small : c.toNat < 103 := by
    simp only [isHex, isSmallHex, Char.isDigit, Bool.or_eq_true, Bool.and_eq_true, decide_eq_true_eq] at hex
    rcases hex with (⟨-, last⟩ | ⟨-, last⟩) | ⟨-, last⟩ <;> exact (show c.toNat ≤ _ from last).trans_lt (by decide)
  have this_ := early c.toNat small
  rw [Char.ofNat_toNat] at this_
  exact this_ hex

theorem digit_toLower {c : Char} (hex : isHex c = true) :
    digit c.toLower = digit c ∧ isSmallHex c.toLower = true :=
  hex_induction (motive := fun c => digit c.toLower = digit c ∧ isSmallHex c.toLower = true) (by decide) hex

theorem digit_digitChar {d : ℕ} (h : d < 16) : digit d.digitChar = d ∧ isSmallHex d.digitChar = true := by
  interval_cases d <;> decide

theorem foldl_read (b : ℕ) (text : List Char) (n : ℕ) :
    text.foldl (fun n c => b * n + digit c) n = b ^ text.length * n + read b text := by
  induction text generalizing n with
  | nil => simp [read]
  | cons c text ih =>
    have whole : read b (c :: text) = b ^ text.length * digit c + read b text := by
      rw [read, List.foldl_cons, ih, mul_zero, zero_add]
    rw [List.foldl_cons, ih, whole, List.length_cons]
    ring

theorem digit_lt {c : Char} (hex : isSmallHex c = true) : digit c < 16 :=
  hex_induction (motive := fun c => digit c < 16) (by decide) (by rw [isHex, hex, Bool.true_or])

theorem read_lt {b : ℕ} {text : List Char} (each : ∀ c ∈ text, digit c < b) : read b text < b ^ text.length := by
  induction text with
  | nil => simp [read]
  | cons c text ih =>
    have first := each c List.mem_cons_self
    have rest := ih fun d mem => each d (List.mem_cons_of_mem _ mem)
    have whole := foldl_read b text (digit c)
    calc
      read b (c :: text) = b ^ text.length * digit c + read b text := by
        rw [← whole, read, List.foldl_cons, mul_zero, zero_add]
      _ < b ^ text.length * digit c + b ^ text.length := by omega
      _ = b ^ text.length * (digit c + 1) := by ring
      _ ≤ b ^ text.length * b := Nat.mul_le_mul_left _ first
      _ = b ^ (c :: text).length := by rw [List.length_cons, pow_succ]

theorem read_append (b : ℕ) (left right : List Char) :
    read b (left ++ right) = b ^ right.length * read b left + read b right := by
  rw [read, List.foldl_append, foldl_read]
  rfl

section

variable {b n : ℕ}

/-- What is written of a number in a base reads as the number, in small letters. -/
theorem read_toDigits (low : 1 < b) (high : b ≤ 16) :
    read b (Nat.toDigits b n) = n ∧ ∀ c ∈ Nat.toDigits b n, isSmallHex c = true := by
  induction n using Nat.strongRecOn with
  | ind n ih =>
    rcases Nat.lt_or_ge n b with small | large
    · obtain ⟨value, hex⟩ := digit_digitChar (small.trans_le high)
      rw [Nat.toDigits_of_lt_base small]
      refine ⟨?_, fun c mem => ?_⟩
      · simp [read, value]
      · rw [List.mem_singleton.mp mem]
        exact hex
    · have last : n % b < b := Nat.mod_lt _ (by omega)
      obtain ⟨whole, hexes⟩ := ih (n / b) (Nat.div_lt_self (by omega) low)
      obtain ⟨value, hex⟩ := digit_digitChar (last.trans_le high)
      rw [Nat.toDigits_of_base_le low large]
      refine ⟨?_, fun c mem => ?_⟩
      · rw [read_append, whole]
        simpa [read, value] using Nat.div_add_mod n b
      · rcases List.mem_append.mp mem with mem | mem
        · exact hexes c mem
        · rw [List.mem_singleton.mp mem]
          exact hex

end

end Numerals

/-! Words put together from shorter ones, and the first bits of a word, as machine operations do both. -/

namespace Masks

theorem and_mask {n w k : ℕ} (fits : n < 2 ^ w) (le : k ≤ w) : n &&& (2 ^ w - 2 ^ k) = n / 2 ^ k * 2 ^ k := by
  have mask : 2 ^ w - 2 ^ k = (2 ^ (w - k) - 1) <<< k := by
    rw [Nat.shiftLeft_eq, Nat.sub_mul, one_mul, ← pow_add, Nat.sub_add_cancel le]
  rw [mask, ← Nat.shiftRight_eq_div_pow, ← Nat.shiftLeft_eq]
  apply Nat.eq_of_testBit_eq
  intro i
  rw [Nat.testBit_and, Nat.testBit_shiftLeft, Nat.testBit_shiftLeft, Nat.testBit_two_pow_sub_one,
    Nat.testBit_shiftRight]
  by_cases high : k ≤ i
  · have place : k + (i - k) = i := by omega
    by_cases inside : i < w
    · simp [high, place, show i - k < w - k by omega]
    · have out : n.testBit i = false :=
        Nat.testBit_lt_two_pow (fits.trans_le (Nat.pow_le_pow_right (by omega) (by omega)))
      simp [place, out]
  · simp [high]

section

variable {w k : ℕ}

/-- Words agree under a mask of their first bits when they are equal without the last. -/
theorem and_mask_eq_iff {x y : BitVec w} (le : k ≤ w) :
    x &&& (BitVec.allOnes w <<< k) = y &&& (BitVec.allOnes w <<< k) ↔ x.toNat / 2 ^ k = y.toNat / 2 ^ k := by
  have mask : (BitVec.allOnes w <<< k).toNat = 2 ^ w - 2 ^ k := by
    have whole : (2 ^ w - 1) * 2 ^ k = 2 ^ w - 2 ^ k + (2 ^ k - 1) * 2 ^ w := by
      have least := Nat.one_le_two_pow (n := k)
      have most := Nat.pow_le_pow_right (n := 2) (by decide) le
      zify [least, most, Nat.one_le_two_pow (n := w)]
      ring
    rw [BitVec.toNat_shiftLeft, BitVec.toNat_allOnes, Nat.shiftLeft_eq, whole, Nat.add_mul_mod_self_right,
      Nat.mod_eq_of_lt (Nat.sub_lt (Nat.two_pow_pos w) (Nat.two_pow_pos k))]
  rw [← BitVec.toNat_inj, BitVec.toNat_and, BitVec.toNat_and, mask, and_mask x.isLt le, and_mask y.isLt le]
  exact Nat.mul_left_inj (Nat.two_pow_pos k).ne'

theorem shiftLeft_or {high low : ℕ} (fits : high * 2 ^ k + low < 2 ^ w) (short : low < 2 ^ k) :
    BitVec.ofNat w high <<< k ||| BitVec.ofNat w low = BitVec.ofNat w (high * 2 ^ k + low) := by
  have left : (BitVec.ofNat w high <<< k).toNat = high * 2 ^ k := by
    rw [BitVec.toNat_shiftLeft, BitVec.toNat_ofNat, Nat.shiftLeft_eq, Nat.mod_mul_mod, Nat.mod_eq_of_lt (by omega)]
  apply BitVec.eq_of_toNat_eq
  rw [BitVec.toNat_or, left, BitVec.toNat_ofNat, BitVec.toNat_ofNat, Nat.mod_eq_of_lt (by omega),
    Nat.mod_eq_of_lt fits, mul_comm, Nat.two_pow_add_eq_or_of_lt short]

end

end Masks
