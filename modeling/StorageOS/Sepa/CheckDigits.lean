import StorageOS.Common.Text
import StorageOS.Lib.CheckDigits
import StorageOS.Lib.FixedWidth

/-! The check digits of an IBAN and of a creditor identifier, which are those of ISO 7064 mod 97-10:
a letter counts as a number of two digits. The upper case of a character is a parameter, of any
length as in the source's language. -/

namespace StorageOS

open CheckDigits

def isAlphanumeric (c : Char) : Bool := isDigit c || isCapital c

/-- The digits a number is checked by: the letters are written as their numbers. -/
def numericText (s : List Char) : List Char :=
  s.flatMap fun c => if isCapital c then Nat.toDigits 10 (c.toNat - 55) else [c]

def remainder97 (numeric : List Char) : ℕ :=
  numeric.foldl (fun remainder ch => (remainder * 10 + (ch.toNat - 48)) % 97) 0

def normalizeIban (upper : Char → List Char) (raw : List Char) : List Char :=
  (raw.filter fun c => !isSpace c).flatMap upper

def ibanShape (iban : List Char) : Bool :=
  (iban.take 2).all isCapital && ((iban.drop 2).take 2).all isDigit && (iban.drop 4).all isAlphanumeric &&
    14 ≤ iban.length && iban.length ≤ 34

def isValidIban (upper : Char → List Char) (raw : List Char) : Bool :=
  let iban := normalizeIban upper raw
  if !ibanShape iban then false
  else
    let rearranged := iban.drop 4 ++ iban.take 4
    remainder97 (numericText rearranged) = 1

def normalizeCreditorId (upper : Char → List Char) (raw : List Char) : List Char :=
  (raw.filter fun c => !(isSpace c || c = '-')).flatMap upper

/-- Two letters, two digits, the business code of three letters and digits, and 1 to 28 more. -/
def creditorIdShape (id : List Char) : Bool :=
  (id.take 2).all isCapital && ((id.drop 2).take 2).all isDigit && (id.drop 4).all isAlphanumeric &&
    8 ≤ id.length && id.length ≤ 35

def isValidCreditorId (upper : Char → List Char) (raw : List Char) : Bool :=
  let id := normalizeCreditorId upper raw
  if !creditorIdShape id then false
  else
    let numeric := numericText (id.drop 7 ++ id.take 2 ++ ['0', '0'])
    98 - remainder97 numeric = digitsValue ((id.drop 2).take 2)

/-! ### The number that is checked -/

def symbolValue (c : Char) : ℕ := if isCapital c then c.toNat - 55 else c.toNat - 48

def symbolWidth (c : Char) : ℕ := if isCapital c then 2 else 1

def expandedNumber (s : List Char) : ℕ := number 10 symbolWidth symbolValue s

theorem toDigits_of_capital {n : ℕ} (low : 65 ≤ n) (high : n ≤ 90) : Nat.toDigits 10 (n - 55) =
    [Nat.digitChar ((n - 55) / 10), Nat.digitChar ((n - 55) % 10)] := by
  interval_cases n <;> rfl

theorem remainder97_eq (s : List Char) : remainder97 (numericText s) = expandedNumber s % 97 := by
  rw [expandedNumber, ← remainder_eq, remainder97, numericText, remainder, List.foldl_flatMap]
  congr 1
  funext r c
  unfold symbolWidth symbolValue
  split
  · rename_i capital
    simp only [isCapital, Bool.and_eq_true, decide_eq_true_eq] at capital
    have tens : (c.toNat - 55) / 10 < 10 := by omega
    have units : (c.toNat - 55) % 10 < 10 := by omega
    rw [toDigits_of_capital capital.1 capital.2, List.foldl_cons, List.foldl_cons, List.foldl_nil,
      FixedWidth.digitChar_toNat tens, FixedWidth.digitChar_toNat units]
    omega
  · rw [List.foldl_cons, List.foldl_nil, pow_one]

theorem isValidIban_iff (upper : Char → List Char) (raw : List Char) : isValidIban upper raw = true ↔
    ibanShape (normalizeIban upper raw) = true ∧
      expandedNumber ((normalizeIban upper raw).drop 4 ++ (normalizeIban upper raw).take 4) % 97 = 1 := by
  unfold isValidIban
  dsimp only
  rw [remainder97_eq]
  cases ibanShape (normalizeIban upper raw) <;> simp

theorem not_isCapital_of_isDigit {c : Char} (digit : isDigit c = true) : isCapital c = false := by
  simp only [isDigit, isCapital, Bool.and_eq_true, decide_eq_true_eq] at digit ⊢
  simp only [Bool.and_eq_false_iff, decide_eq_false_iff_not]
  omega

theorem expandedNumber_of_digits {ds : List Char} (digits : ds.all isDigit = true) :
    expandedNumber ds = digitsValue ds ∧ totalWidth symbolWidth ds = ds.length := by
  have small : ∀ c ∈ ds, symbolValue c = c.toNat - 48 ∧ symbolWidth c = 1 := by
    intro c mem
    have digit := not_isCapital_of_isDigit (List.all_eq_true.mp digits c mem)
    rw [symbolValue, symbolWidth, digit]
    exact ⟨rfl, rfl⟩
  constructor
  · rw [expandedNumber, number, digitsValue]
    refine List.foldl_ext _ _ _ fun n c mem => ?_
    rw [(small c mem).1, (small c mem).2, pow_one, mul_comm]
  · rw [totalWidth, List.map_congr_left fun c mem => (small c mem).2, List.map_const', List.sum_replicate]
    simp

theorem isValidCreditorId_iff (upper : Char → List Char) (raw : List Char) :
    isValidCreditorId upper raw = true ↔ creditorIdShape (normalizeCreditorId upper raw) = true ∧
      expandedNumber ((normalizeCreditorId upper raw).drop 7 ++ (normalizeCreditorId upper raw).take 4) % 97 = 1 ∧
      2 ≤ digitsValue (((normalizeCreditorId upper raw).drop 2).take 2) ∧
      digitsValue (((normalizeCreditorId upper raw).drop 2).take 2) ≤ 98 := by
  unfold isValidCreditorId
  dsimp only
  generalize normalizeCreditorId upper raw = id
  cases shape : creditorIdShape id with
  | false => simp
  | true =>
    simp only [creditorIdShape, Bool.and_eq_true, decide_eq_true_eq] at shape
    have length : ((id.drop 2).take 2).length = 2 := by simp; omega
    obtain ⟨check, width⟩ := expandedNumber_of_digits shape.1.1.1.2
    have digits : ['0', '0'].all isDigit = true := by decide
    obtain ⟨zeros, two⟩ := expandedNumber_of_digits digits
    have joined : id.take 4 = id.take 2 ++ (id.drop 2).take 2 := by
      rw [← List.take_add]
    rw [remainder97_eq, joined, ← List.append_assoc]
    unfold expandedNumber at check zeros ⊢
    rw [number_append, number_append _ ((id.drop 2).take 2), check, zeros, width, two, length]
    have none_ : digitsValue ['0', '0'] = 0 := rfl
    rw [none_]
    generalize number 10 symbolWidth symbolValue (id.drop 7 ++ id.take 2) = n
    generalize digitsValue ((id.drop 2).take 2) = d
    simp only [Bool.not_true, Bool.false_eq_true, ↓reduceIte, decide_eq_true_eq, List.length_cons,
      List.length_nil, Nat.reduceAdd, add_zero, true_and]
    omega

/-! ### Copying errors -/

def sameClass (a b : Char) : Prop :=
  (isDigit a = true ∧ isDigit b = true) ∨ (isCapital a = true ∧ isCapital b = true)

/-- A copy in which one counted symbol is another of its class, or two different ones of a class
stand in each other's place. -/
inductive Miscopied (counted : ℕ → Prop) : List Char → List Char → Prop
  | substituted (x y : List Char) {a b : Char} (differ : a ≠ b) (same : sameClass a b)
    (counts : counted x.length) : Miscopied counted (x ++ a :: y) (x ++ b :: y)
  | swapped (x m y : List Char) {a b : Char} (differ : a ≠ b) (same : sameClass a b)
    (counts : counted x.length) (counts' : counted (x.length + 1 + m.length)) :
    Miscopied counted (x ++ a :: m ++ b :: y) (x ++ b :: m ++ a :: y)

section

variable {skip : ℕ} {s s' x m y : List Char} {a b : Char}

theorem width_of_sameClass (same : sameClass a b) : symbolWidth a = symbolWidth b := by
  unfold symbolWidth
  rcases same with ⟨da, db⟩ | ⟨ca, cb⟩
  · rw [not_isCapital_of_isDigit da, not_isCapital_of_isDigit db]
  · rw [ca, cb]

theorem eq_of_value (same : sameClass a b) (values : (symbolValue a : ZMod 97) = symbolValue b) : a = b := by
  rw [ZMod.natCast_eq_natCast_iff, Nat.ModEq] at values
  apply Char.toNat_inj.mp
  rcases same with ⟨da, db⟩ | ⟨ca, cb⟩
  · rw [symbolValue, symbolValue, not_isCapital_of_isDigit da, not_isCapital_of_isDigit db] at values
    simp only [isDigit, Bool.and_eq_true, decide_eq_true_eq] at da db
    simp only [Bool.false_eq_true, ↓reduceIte] at values
    omega
  · rw [symbolValue, symbolValue, if_pos ca, if_pos cb] at values
    simp only [isCapital, Bool.and_eq_true, decide_eq_true_eq] at ca cb
    omega

instance prime_97 : Fact (Nat.Prime 97) := ⟨by decide⟩

theorem ten_ne_zero : ((10 : ℕ) : ZMod 97) ≠ 0 := by decide

/-- Places less than 96 digits apart count differently: 10 is a primitive root modulo 97. -/
theorem ten_pow_ne_one {k : ℕ} (some_ : 0 < k) (lt : k < 96) : ((10 : ℕ) : ZMod 97) ^ k ≠ 1 := by
  have all : ∀ k < 96, 0 < k → 10 ^ k % 97 ≠ 1 % 97 := by decide
  rw [← Nat.cast_pow, ← Nat.cast_one, Ne, ZMod.natCast_eq_natCast_iff]
  exact all k lt some_

theorem take_past (x y : List Char) (c : Char) (n : ℕ) :
    (x ++ c :: y).take (x.length + 1 + n) = x ++ c :: y.take n := by
  rw [add_assoc, List.take_length_add_append, add_comm 1 n, List.take_succ_cons]

theorem drop_past (x y : List Char) (c : Char) (n : ℕ) :
    (x ++ c :: y).drop (x.length + 1 + n) = y.drop n := by
  rw [add_assoc, List.drop_length_add_append, add_comm 1 n, List.drop_succ_cons]

/-- The symbols of an identifier in the order they are checked: the first four at the end. -/
def checked (skip : ℕ) (s : List Char) : List Char := s.drop skip ++ s.take 4

theorem checked_place (skips : 4 ≤ skip) (counts : x.length < 4 ∨ skip ≤ x.length) :
    ∃ u v, ∀ c, checked skip (x ++ c :: y) = u ++ c :: v := by
  rcases counts with before | after
  · obtain ⟨n, four⟩ := Nat.exists_eq_add_of_le (Nat.succ_le_of_lt before)
    obtain ⟨k, rest⟩ := Nat.exists_eq_add_of_le (before.trans_le skips)
    refine ⟨y.drop k ++ x, y.take n, fun c => ?_⟩
    rw [checked, rest, four, take_past, drop_past, List.append_assoc]
  · refine ⟨x.drop skip, y ++ x.take 4, fun c => ?_⟩
    rw [checked, List.drop_append_of_le_length after, List.take_append_of_le_length (skips.trans after)]
    simp

theorem checked_places (skips : 4 ≤ skip) (counts : x.length < 4 ∨ skip ≤ x.length)
    (counts' : x.length + 1 + m.length < 4 ∨ skip ≤ x.length + 1 + m.length) :
    ∃ u v w, (∀ c d, checked skip (x ++ c :: m ++ d :: y) = u ++ c :: v ++ d :: w) ∨
      ∀ c d, checked skip (x ++ c :: m ++ d :: y) = u ++ d :: v ++ c :: w := by
  have length : ∀ c, (x ++ c :: m).length = x.length + 1 + m.length := fun c => by simp; omega
  rcases counts' with before' | after'
  · obtain ⟨n, four⟩ := Nat.exists_eq_add_of_le (Nat.succ_le_of_lt before')
    obtain ⟨k, rest⟩ := Nat.exists_eq_add_of_le (before'.trans_le skips)
    refine ⟨y.drop k ++ x, m, y.take n, .inl fun c d => ?_⟩
    rw [Nat.succ_eq_add_one, ← length c] at four rest
    rw [checked, rest, four, take_past, drop_past]
    simp
  · rcases counts with before | after
    · obtain ⟨n, four⟩ := Nat.exists_eq_add_of_le (Nat.succ_le_of_lt before)
      obtain ⟨k, rest⟩ := Nat.exists_eq_add_of_le (before.trans_le skips)
      have over_m : k ≤ m.length := by omega
      have within_m : n ≤ m.length := by omega
      refine ⟨m.drop k, y ++ x, m.take n, .inr fun c d => ?_⟩
      rw [checked, List.append_assoc, List.cons_append, rest, four, take_past, drop_past,
        List.drop_append_of_le_length over_m, List.take_append_of_le_length within_m]
      simp
    · refine ⟨x.drop skip, m, y ++ x.take 4, .inl fun c d => ?_⟩
      rw [checked, List.append_assoc, List.drop_append_of_le_length after,
        List.take_append_of_le_length (skips.trans after)]
      simp

theorem symbolWidth_le (c : Char) : symbolWidth c ≤ 2 := by
  unfold symbolWidth
  split <;> omega

theorem symbolWidth_pos (c : Char) : 0 < symbolWidth c := by
  unfold symbolWidth
  split <;> omega

theorem Miscopied.detected (skips : 4 ≤ skip) (short : s.length ≤ 40)
    (error : Miscopied (fun i => i < 4 ∨ skip ≤ i) s s') :
    expandedNumber (checked skip s) % 97 ≠ expandedNumber (checked skip s') % 97 := by
  intro agree
  have numbers := (ZMod.natCast_eq_natCast_iff _ _ 97).mpr agree
  cases error with
  | substituted x y differ same counts =>
    obtain ⟨u, v, place⟩ := checked_place (y := y) skips counts
    rw [place, place] at numbers
    exact differ (eq_of_value same (value_eq_of_substitution ten_ne_zero (width_of_sameClass same) numbers))
  | @swapped x m y a b differ same counts counts' =>
    obtain ⟨u, v, w, places⟩ := checked_places (y := y) skips counts counts'
    have long : v.length ≤ 38 := by
      have all : (checked skip (x ++ a :: m ++ b :: y)).length ≤ (x ++ a :: m ++ b :: y).length := by
        rw [checked, List.length_append, List.length_drop, List.length_take]
        omega
      have inside : (checked skip (x ++ a :: m ++ b :: y)).length = u.length + v.length + w.length + 2 := by
        rcases places with inOrder | reversed
        · rw [inOrder]
          simp
          omega
        · rw [reversed]
          simp
          omega
      omega
    have far : ∀ c, ((10 : ℕ) : ZMod 97) ^ (symbolWidth c + totalWidth symbolWidth v) ≠ 1 := by
      intro c
      have width := totalWidth_le (l := v) fun c _ => symbolWidth_le c
      have one := symbolWidth_le c
      have some_ := symbolWidth_pos c
      exact ten_pow_ne_one (by omega) (by omega)
    have widths := width_of_sameClass same
    rcases places with inOrder | reversed
    · rw [inOrder, inOrder] at numbers
      exact differ (eq_of_value same (value_eq_of_transposition ten_ne_zero widths (far b) numbers))
    · rw [reversed, reversed] at numbers
      exact differ (eq_of_value same
        (value_eq_of_transposition ten_ne_zero widths.symm (far a) numbers).symm)

end

/-- An identifier is accepted when its number is 1 modulo 97, so that no copy with an error of one
symbol or with two symbols swapped is. -/
theorem check_digits_detect (upper : Char → List Char) (raw raw' : List Char) :
    (isValidIban upper raw = true ↔ ibanShape (normalizeIban upper raw) = true ∧
      expandedNumber (checked 4 (normalizeIban upper raw)) % 97 = 1) ∧
    (isValidCreditorId upper raw = true ↔ creditorIdShape (normalizeCreditorId upper raw) = true ∧
      expandedNumber (checked 7 (normalizeCreditorId upper raw)) % 97 = 1 ∧
      2 ≤ digitsValue (((normalizeCreditorId upper raw).drop 2).take 2) ∧
      digitsValue (((normalizeCreditorId upper raw).drop 2).take 2) ≤ 98) ∧
    (isValidIban upper raw = true →
      Miscopied (fun _ => True) (normalizeIban upper raw) (normalizeIban upper raw') →
        isValidIban upper raw' = false) ∧
    (isValidCreditorId upper raw = true →
      Miscopied (fun i => i < 4 ∨ 7 ≤ i) (normalizeCreditorId upper raw) (normalizeCreditorId upper raw') →
        isValidCreditorId upper raw' = false) := by
  refine ⟨isValidIban_iff upper raw, isValidCreditorId_iff upper raw, fun valid error => ?_,
    fun valid error => ?_⟩
  · obtain ⟨shape, one⟩ := (isValidIban_iff upper raw).mp valid
    simp only [ibanShape, Bool.and_eq_true, decide_eq_true_eq] at shape
    have everywhere : (fun _ : ℕ => True) = fun i => i < 4 ∨ 4 ≤ i := by
      funext i
      simp only [eq_iff_iff, true_iff]
      omega
    rw [everywhere] at error
    rw [← Bool.not_eq_true]
    intro valid'
    exact error.detected (le_refl 4) (by omega) (one.trans ((isValidIban_iff upper raw').mp valid').2.symm)
  · obtain ⟨shape, one, -⟩ := (isValidCreditorId_iff upper raw).mp valid
    simp only [creditorIdShape, Bool.and_eq_true, decide_eq_true_eq] at shape
    rw [← Bool.not_eq_true]
    intro valid'
    exact error.detected (by omega) (by omega) (one.trans ((isValidCreditorId_iff upper raw').mp valid').2.1.symm)

/-- The last digit of an account is copied wrong. -/
theorem check_digits_detect_digit :
    isValidIban (fun c => [c.toUpper]) "ES91 2100 0418 4502 0005 1333".toList = false :=
  (check_digits_detect (fun c => [c.toUpper]) "es91 2100 0418 4502 0005 1332".toList
    "ES91 2100 0418 4502 0005 1333".toList).2.2.1 (by decide)
      (.substituted "ES912100041845020005133".toList [] (a := '2') (b := '3') (by decide)
        (.inl (by decide)) trivial)

end StorageOS
