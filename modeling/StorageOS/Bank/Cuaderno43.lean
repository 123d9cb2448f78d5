import StorageOS.Bank.N43

/-! The records of Cuaderno 43: account statements, their layout in 80 columns, and what a parser
has to read back from them. -/

namespace StorageOS

open FixedWidth

/-- A code of so many digits. -/
abbrev Code (width : ℕ) := Fin (10 ^ width)

def Code.columns {width : ℕ} (c : Code width) : List Char := decimal width c.val

def Code.text {width : ℕ} (c : Code width) : String := String.ofList c.columns

structure CenturyDay where
  year : ℕ
  month : ℕ
  day : ℕ
  inCentury : year < 100
  inYear : 1 ≤ month ∧ month ≤ 12
  inMonth : 1 ≤ day ∧ day ≤ 31

def CenturyDay.number (d : CenturyDay) : ℕ := 10000 * d.year + 100 * d.month + d.day

def CenturyDay.columns (d : CenturyDay) : List Char := decimal 6 d.number

def CenturyDay.iso (d : CenturyDay) : String :=
  "20" ++ String.ofList (decimal 2 d.year) ++ "-" ++ String.ofList (decimal 2 d.month) ++ "-" ++
    String.ofList (decimal 2 d.day)

structure SignedCents where
  cents : ℤ
  fits : cents.natAbs < 10 ^ 14

def SignedCents.sign (x : SignedCents) : ℕ := if x.cents < 0 then 1 else 2

def SignedCents.columns (x : SignedCents) : List Char := decimal 14 x.cents.natAbs

structure ColumnText (width : ℕ) where
  chars : List Char
  fits : chars.length ≤ width
  plain : ∀ c ∈ chars, isBreak c = false

def ColumnText.columns {width : ℕ} (t : ColumnText width) : List Char := padEnd width t.chars

def ColumnText.trimmed {width : ℕ} (t : ColumnText width) : String := trim (String.ofList t.chars)

def blanks (width : ℕ) : List Char := List.replicate width ' '

structure Complement where
  code : Code 2
  first : ColumnText 38
  second : ColumnText 38

structure Movement where
  office : Code 4
  operationDate : CenturyDay
  valueDate : CenturyDay
  conceptCommon : Code 2
  conceptOwn : Code 3
  amount : SignedCents
  documentNumber : ColumnText 10
  reference1 : ColumnText 12
  reference2 : ColumnText 16
  complements : List Complement

/-- The debits or the credits of some movements: how many, and their sum. -/
def totals (movements : List Movement) (debits : Bool) : ℕ × ℕ :=
  let selected := movements.filter fun m => decide (m.amount.cents < 0) = debits
  (selected.length, (selected.map fun m => m.amount.cents.natAbs).sum)

/-- The statement of an account, whose totals fit in their columns. -/
structure Statement where
  bank : Code 4
  office : Code 4
  account : Code 10
  startDate : CenturyDay
  endDate : CenturyDay
  initialBalance : SignedCents
  currency : Code 3
  movements : List Movement
  finalBalance : SignedCents
  fits : ∀ debits, (totals movements debits).1 < 10 ^ 5 ∧ (totals movements debits).2 < 10 ^ 14

/-! ### Layout -/

def Complement.record (c : Complement) : List (List Char) :=
  ["23".toList, c.code.columns, c.first.columns, c.second.columns]

def Movement.record (m : Movement) : List (List Char) :=
  ["22".toList, blanks 4, m.office.columns, m.operationDate.columns, m.valueDate.columns,
    m.conceptCommon.columns, m.conceptOwn.columns, decimal 1 m.amount.sign, m.amount.columns,
    m.documentNumber.columns, m.reference1.columns, m.reference2.columns]

def Statement.header (s : Statement) : List (List Char) :=
  ["11".toList, s.bank.columns, s.office.columns, s.account.columns, s.startDate.columns,
    s.endDate.columns, decimal 1 s.initialBalance.sign, s.initialBalance.columns,
    s.currency.columns, blanks 30]

def Statement.footer (s : Statement) : List (List Char) :=
  ["33".toList, s.bank.columns, s.office.columns, s.account.columns,
    decimal 5 (totals s.movements true).1, decimal 14 (totals s.movements true).2,
    decimal 5 (totals s.movements false).1, decimal 14 (totals s.movements false).2,
    decimal 1 s.finalBalance.sign, s.finalBalance.columns, s.currency.columns, blanks 4]

def endOfFile : List (List Char) := ["88".toList, blanks 78]

def Movement.lines (m : Movement) : List (List Char) :=
  m.record.flatten :: m.complements.map fun c => c.record.flatten

def Statement.lines (s : Statement) : List (List Char) :=
  s.header.flatten :: (s.movements.flatMap Movement.lines ++ [s.footer.flatten])

def encodeN43 (e : LineEnd) (statements : List Statement) : String :=
  String.ofList (joinLines e (statements.flatMap Statement.lines ++ [endOfFile.flatten]))

/-! ### What the statements say -/

def Complement.text (c : Complement) : String := joinTexts c.first.trimmed c.second.trimmed

def Movement.description (m : Movement) : String :=
  m.complements.foldl (fun text c => joinTexts text c.text) ""

def Movement.transaction (m : Movement) : N43Transaction where
  operationDate := some m.operationDate.iso
  valueDate := some m.valueDate.iso
  amount := m.amount.cents
  conceptCommon := m.conceptCommon.text
  conceptOwn := m.conceptOwn.text
  reference1 := m.reference1.trimmed
  reference2 := m.reference2.trimmed
  documentNumber := m.documentNumber.trimmed
  description := m.description

def Statement.read (s : Statement) : N43Account where
  accountLabel := joinTexts (joinTexts s.bank.text s.office.text) s.account.text
  currency := (currencyByCode s.currency.text).getD "EUR"
  startDate := some s.startDate.iso
  endDate := some s.endDate.iso
  initialBalance := s.initialBalance.cents
  finalBalance := s.finalBalance.cents
  transactions := s.movements.map Movement.transaction

/-! What the parser of Norma 43 reads in each record of Cuaderno 43. The header is read in its
columns. The fields of a movement are read four columns before their place, and the final balance
ten columns before. -/

/-! ### Dates -/

theorem two_digits_order : ∀ n < 100,
    (String.ofList (decimal 2 n) < "01" ↔ n < 1) ∧ (String.ofList (decimal 2 n) > "12" ↔ 12 < n) ∧
      (String.ofList (decimal 2 n) > "31" ↔ 31 < n) := by
  decide +kernel

theorem decimal_six (n : ℕ) :
    decimal 6 n = [decimal 2 (n / 10000), decimal 2 (n / 100 % 100), decimal 2 (n % 100)].flatten := by
  have split : decimal (2 + (2 + 2)) n =
      decimal 2 (n / 10 ^ (2 + 2)) ++ (decimal 2 (n / 10 ^ 2) ++ decimal 2 n) := by
    rw [decimal_add, decimal_add]
  have middle : decimal 2 (n / 100 % 100) = decimal 2 (n / 100) := decimal_inj.mpr (by omega)
  have last : decimal 2 (n % 100) = decimal 2 n := decimal_inj.mpr (by omega)
  rw [middle, last]
  simpa using split

theorem toIsoDate_decimal (n : ℕ) :
    toIsoDate (String.ofList (decimal 6 n)) =
      if n / 100 % 100 < 1 ∨ 12 < n / 100 % 100 ∨ n % 100 < 1 ∨ 31 < n % 100 then none
      else some ("20" ++ String.ofList (decimal 2 (n / 10000)) ++ "-" ++
        String.ofList (decimal 2 (n / 100 % 100)) ++ "-" ++ String.ofList (decimal 2 (n % 100))) := by
  have digits : (decimal 6 n).all Char.isDigit = true :=
    List.all_eq_true.mpr fun c mem => isDigit_of_mem_decimal mem
  have yy : slice 0 2 (decimal 6 n) = decimal 2 (n / 10000) := by
    simpa using slice_parts _ 0 1 (decimal_six n) rfl (by simp)
  have mm : slice 2 2 (decimal 6 n) = decimal 2 (n / 100 % 100) := by
    simpa using slice_parts _ 1 1 (decimal_six n) (by simp) (by simp)
  have dd : slice 4 2 (decimal 6 n) = decimal 2 (n % 100) := by
    simpa using slice_parts _ 2 1 (decimal_six n) (by simp) (by simp)
  obtain ⟨mLow, mHigh, -⟩ := two_digits_order (n / 100 % 100) (Nat.mod_lt _ (by decide))
  obtain ⟨dLow, -, dHigh⟩ := two_digits_order (n % 100) (Nat.mod_lt _ (by decide))
  simp only [toIsoDate, String.toList_ofList, length_decimal, digits, yy, mm, dd, mLow, mHigh, dLow,
    dHigh, ne_eq, not_true_eq_false, decide_false, Bool.not_true, Bool.or_false, Bool.false_or,
    Bool.or_eq_true, decide_eq_true_eq, or_assoc]
  by_cases zero : String.ofList (decimal 6 n) = "000000"
  · have chars : decimal 6 n = decimal 6 0 := by
      rw [← String.toList_ofList (l := decimal 6 n), zero]
      rfl
    have noMonth : n / 100 % 100 < 1 := by
      have := decimal_inj.mp chars
      omega
    rw [if_pos zero, if_pos (.inl noMonth)]
  · rw [if_neg zero]

theorem toIsoDate_eq_iff {n : ℕ} (d : CenturyDay) (small : n < 10 ^ 6) :
    toIsoDate (String.ofList (decimal 6 n)) = some d.iso ↔ n = d.number := by
  have := d.inCentury
  have := d.inYear
  have := d.inMonth
  rw [toIsoDate_decimal]
  constructor
  · intro read
    split at read
    · cases read
    · rename_i valid
      simp only [CenturyDay.iso, Option.some.injEq, String.ext_iff, String.toList_append,
        String.toList_ofList, List.append_assoc] at read
      have read := List.append_cancel_left read
      obtain ⟨yy, read⟩ := List.append_inj read (by simp)
      have read := List.append_cancel_left read
      obtain ⟨mm, read⟩ := List.append_inj read (by simp)
      have dd := List.append_cancel_left read
      rw [decimal_inj] at yy mm dd
      rw [CenturyDay.number]
      omega
  · rintro rfl
    have year : d.number / 10000 = d.year := by rw [CenturyDay.number]; omega
    have month : d.number / 100 % 100 = d.month := by rw [CenturyDay.number]; omega
    have day : d.number % 100 = d.day := by rw [CenturyDay.number]; omega
    rw [year, month, day, if_neg (by omega)]
    rfl

/-! ### Columns -/

@[simp] theorem Code.length_columns {width : ℕ} (c : Code width) : c.columns.length = width :=
  length_decimal width _

@[simp] theorem CenturyDay.length_columns (d : CenturyDay) : d.columns.length = 6 :=
  length_decimal 6 _

@[simp] theorem SignedCents.length_columns (x : SignedCents) : x.columns.length = 14 :=
  length_decimal 14 _

@[simp] theorem ColumnText.length_columns {width : ℕ} (t : ColumnText width) :
    t.columns.length = width := by
  have := t.fits
  simp only [columns, padEnd, List.length_append, List.length_replicate]
  omega

@[simp] theorem length_blanks (width : ℕ) : (blanks width).length = width := List.length_replicate

theorem padEnd_full {width : ℕ} {line : List Char} (full : line.length = width) :
    padEnd width line = line := by
  simp [padEnd, full]

theorem field_part {line part : List Char} (start len : ℕ) (parts : List (List Char)) (i : ℕ)
    (whole : line = parts.flatten) (found : parts[i]? = some part)
    (place : (parts.take i).flatten.length + 1 = start) (width : part.length = len) :
    field line start len = trim (String.ofList part) := by
  obtain ⟨inside, rfl⟩ := List.getElem?_eq_some_iff.mp found
  have taken : ((parts.drop i).take 1).flatten = parts[i] := by
    rw [List.drop_eq_getElem_cons inside, List.take_succ_cons, List.take_zero,
      List.flatten_singleton]
  rw [field, slice_parts parts i 1 whole (by omega) (by rw [taken, width]), taken]

theorem trim_decimal (width n : ℕ) :
    trim (String.ofList (decimal width n)) = String.ofList (decimal width n) :=
  trim_digits fun _ mem => isDigit_of_mem_decimal mem

theorem centsOf_decimal (width n : ℕ) :
    centsOf (String.ofList (decimal width n)) = (n % 10 ^ width : ℕ) := by
  have digits : (decimal width n).filter Char.isDigit = decimal width n :=
    List.filter_eq_self.mpr fun _ mem => isDigit_of_mem_decimal mem
  rw [centsOf, String.toList_ofList, digits, value_decimal]

theorem decimal_eq_one (n : ℕ) : String.ofList (decimal 1 n) = "1" ↔ n % 10 = 1 := by
  have one : "1" = String.ofList (decimal 1 1) := rfl
  rw [one, String.ofList_inj, decimal_inj, pow_one]

theorem decimal_join (left : ℕ) {right n : ℕ} (m : ℕ) (small : n < 10 ^ right) :
    decimal (left + right) (m * 10 ^ right + n) = decimal left m ++ decimal right n := by
  rw [decimal_add, mul_comm, Nat.mul_add_div (by positivity), Nat.div_eq_of_lt small, add_zero]
  congr 1
  rw [decimal_inj]
  simp

/-! ### What the parser reads -/

def Movement.misreadCents (m : Movement) : ℤ :=
  let cents : ℕ := m.conceptOwn * 10 ^ 11 + m.amount.sign * 10 ^ 10 + m.amount.cents.natAbs / 10 ^ 4
  if (m.conceptCommon : ℕ) % 10 = 1 then -cents else cents

def Statement.misreadBalance (s : Statement) : ℤ :=
  let credits := (totals s.movements false).2
  let cents : ℕ := credits % 10 ^ 9 * 10 ^ 5 + s.finalBalance.sign * 10 ^ 4 +
    s.finalBalance.cents.natAbs / 10 ^ 10
  if credits / 10 ^ 9 % 10 = 1 then -cents else cents

def Movement.misreadRecord (m : Movement) : List (List Char) :=
  ["22".toList, blanks 4, decimal 6 (m.office * 100 + m.operationDate.year),
    decimal 6 (m.operationDate.number % 10 ^ 4 * 100 + m.valueDate.year),
    decimal 2 m.valueDate.month, decimal 3 (m.valueDate.day * 10 + m.conceptCommon / 10),
    decimal 1 m.conceptCommon,
    decimal 14 (m.conceptOwn * 10 ^ 11 + m.amount.sign * 10 ^ 10 + m.amount.cents.natAbs / 10 ^ 4),
    decimal 4 m.amount.cents.natAbs ++ m.documentNumber.columns.take 6,
    m.documentNumber.columns.drop 6 ++ m.reference1.columns.take 8,
    m.reference1.columns.drop 8 ++ m.reference2.columns.take 12, m.reference2.columns.drop 12]

def Movement.misread (m : Movement) : N43Transaction where
  operationDate := toIsoDate (String.ofList (decimal 6 (m.office * 100 + m.operationDate.year)))
  valueDate := toIsoDate (String.ofList
    (decimal 6 (m.operationDate.number % 10 ^ 4 * 100 + m.valueDate.year)))
  amount := m.misreadCents
  conceptCommon := String.ofList (decimal 2 m.valueDate.month)
  conceptOwn := String.ofList (decimal 3 (m.valueDate.day * 10 + m.conceptCommon / 10))
  documentNumber := trim (String.ofList
    (decimal 4 m.amount.cents.natAbs ++ m.documentNumber.columns.take 6))
  reference1 := trim (String.ofList (m.documentNumber.columns.drop 6 ++ m.reference1.columns.take 8))
  reference2 := trim (String.ofList (m.reference1.columns.drop 8 ++ m.reference2.columns.take 12))
  description := m.description

def Statement.misread (s : Statement) : N43Account where
  accountLabel := s.read.accountLabel
  currency := s.read.currency
  startDate := s.read.startDate
  endDate := s.read.endDate
  initialBalance := s.read.initialBalance
  finalBalance := s.misreadBalance
  transactions := s.movements.map Movement.misread

theorem SignedCents.sign_le (x : SignedCents) : x.sign ≤ 2 := by
  rw [sign]
  split <;> decide

theorem CenturyDay.number_split (d : CenturyDay) :
    d.columns = decimal 2 d.year ++ decimal 4 (d.number % 10 ^ 4) := by
  have := d.inYear
  have := d.inMonth
  have year : d.number / 10 ^ 4 = d.year := by
    rw [number]
    omega
  rw [columns, show 6 = 2 + 4 from rfl, decimal_add, year]
  congr 1
  rw [decimal_inj]
  simp

theorem CenturyDay.day_split (d : CenturyDay) :
    d.columns = decimal 2 d.year ++ (decimal 2 d.month ++ decimal 2 d.day) := by
  have := d.inYear
  have := d.inMonth
  have tail : d.number % 10 ^ 4 = d.month * 10 ^ 2 + d.day := by
    rw [number]
    omega
  rw [number_split, tail, show 4 = 2 + 2 from rfl, decimal_join 2 _ (by omega)]

theorem Movement.record_shifted (m : Movement) : m.record.flatten = m.misreadRecord.flatten := by
  have century := m.operationDate.inCentury
  have century' := m.valueDate.inCentury
  have := m.valueDate.inMonth
  have := m.amount.sign_le
  have small := m.amount.fits
  have op : decimal 6 (m.office * 100 + m.operationDate.year) =
      m.office.columns ++ decimal 2 m.operationDate.year :=
    @decimal_join 4 2 m.operationDate.year m.office century
  have value : decimal 6 (m.operationDate.number % 10 ^ 4 * 100 + m.valueDate.year) =
      decimal 4 (m.operationDate.number % 10 ^ 4) ++ decimal 2 m.valueDate.year :=
    @decimal_join 4 2 m.valueDate.year _ century'
  have own : decimal 3 (m.valueDate.day * 10 + m.conceptCommon / 10) =
      decimal 2 m.valueDate.day ++ decimal 1 (m.conceptCommon / 10) := by
    have tens : (m.conceptCommon : ℕ) / 10 < 10 := by
      have := m.conceptCommon.isLt
      omega
    exact @decimal_join 2 1 _ m.valueDate.day tens
  have common : m.conceptCommon.columns =
      decimal 1 (m.conceptCommon / 10) ++ decimal 1 m.conceptCommon := decimal_add 1 1 _
  have cents : decimal 14 (m.conceptOwn * 10 ^ 11 + m.amount.sign * 10 ^ 10 +
        m.amount.cents.natAbs / 10 ^ 4) =
      m.conceptOwn.columns ++
        (decimal 1 m.amount.sign ++ decimal 10 (m.amount.cents.natAbs / 10 ^ 4)) := by
    have high : m.amount.cents.natAbs / 10 ^ 4 < 10 ^ 10 := by omega
    rw [add_assoc, show 14 = 3 + 11 from rfl, decimal_join 3 _ (by omega),
      show 11 = 1 + 10 from rfl, decimal_join 1 _ high]
    rfl
  have amount : m.amount.columns = decimal 10 (m.amount.cents.natAbs / 10 ^ 4) ++
      decimal 4 m.amount.cents.natAbs := decimal_add 10 4 _
  simp only [record, misreadRecord, op, value, own, common, cents, amount, List.flatten_cons,
    m.operationDate.number_split, m.valueDate.day_split, List.append_assoc]
  simp only [List.flatten_nil, List.append_nil, List.take_append_drop]
  rw [← List.append_assoc (List.take 6 _), List.take_append_drop,
    ← List.append_assoc (List.take 8 _), List.take_append_drop]

theorem movementRecord_record (m : Movement) :
    movementRecord m.record.flatten = { m.misread with description := "" } := by
  have whole := m.record_shifted
  have sign := m.amount.sign_le
  have small := m.amount.fits
  have own := m.conceptOwn.isLt
  have cents : (m.conceptOwn * 10 ^ 11 + m.amount.sign * 10 ^ 10 + m.amount.cents.natAbs / 10 ^ 4) %
      10 ^ 14 = m.conceptOwn * 10 ^ 11 + m.amount.sign * 10 ^ 10 + m.amount.cents.natAbs / 10 ^ 4 :=
    Nat.mod_eq_of_lt (by omega)
  rw [movementRecord,
    field_part 7 6 m.misreadRecord 2 whole rfl (by simp [Movement.misreadRecord]) (by simp),
    field_part 13 6 m.misreadRecord 3 whole rfl (by simp [Movement.misreadRecord]) (by simp),
    field_part 19 2 m.misreadRecord 4 whole rfl (by simp [Movement.misreadRecord]) (by simp),
    field_part 21 3 m.misreadRecord 5 whole rfl (by simp [Movement.misreadRecord]) (by simp),
    field_part 24 1 m.misreadRecord 6 whole rfl (by simp [Movement.misreadRecord]) (by simp),
    field_part 25 14 m.misreadRecord 7 whole rfl (by simp [Movement.misreadRecord]) (by simp),
    field_part 39 10 m.misreadRecord 8 whole rfl (by simp [Movement.misreadRecord]) (by simp),
    field_part 49 12 m.misreadRecord 9 whole rfl (by simp [Movement.misreadRecord]) (by simp),
    field_part 61 16 m.misreadRecord 10 whole rfl (by simp [Movement.misreadRecord]) (by simp)]
  simp only [trim_decimal, centsOf_decimal, decimal_eq_one, cents, Movement.misread,
    Movement.misreadCents]

def Statement.misreadFooter (s : Statement) : List (List Char) :=
  let credits := (totals s.movements false).2
  ["33".toList, s.bank.columns, s.office.columns, s.account.columns,
    decimal 5 (totals s.movements true).1, decimal 14 (totals s.movements true).2,
    decimal 5 (totals s.movements false).1, decimal 4 (credits / 10 ^ 10),
    decimal 1 (credits / 10 ^ 9),
    decimal 14 (credits % 10 ^ 9 * 10 ^ 5 + s.finalBalance.sign * 10 ^ 4 +
      s.finalBalance.cents.natAbs / 10 ^ 10),
    decimal 10 s.finalBalance.cents.natAbs, s.currency.columns, blanks 4]

theorem Statement.footer_shifted (s : Statement) : s.footer.flatten = s.misreadFooter.flatten := by
  have sign := s.finalBalance.sign_le
  have small := s.finalBalance.fits
  have credits : decimal 14 (totals s.movements false).2 =
      decimal 4 ((totals s.movements false).2 / 10 ^ 10) ++
        (decimal 1 ((totals s.movements false).2 / 10 ^ 9) ++
          decimal 9 ((totals s.movements false).2 % 10 ^ 9)) := by
    have last : decimal 9 ((totals s.movements false).2 % 10 ^ 9) =
        decimal 9 (totals s.movements false).2 := decimal_inj.mpr (by simp)
    rw [last, ← decimal_add 1 9, ← decimal_add 4 10]
  have balance : s.finalBalance.columns = decimal 4 (s.finalBalance.cents.natAbs / 10 ^ 10) ++
      decimal 10 s.finalBalance.cents.natAbs := decimal_add 4 10 _
  have shifted : decimal 14 ((totals s.movements false).2 % 10 ^ 9 * 10 ^ 5 +
        s.finalBalance.sign * 10 ^ 4 + s.finalBalance.cents.natAbs / 10 ^ 10) =
      decimal 9 ((totals s.movements false).2 % 10 ^ 9) ++
        (decimal 1 s.finalBalance.sign ++
          decimal 4 (s.finalBalance.cents.natAbs / 10 ^ 10)) := by
    have high : s.finalBalance.cents.natAbs / 10 ^ 10 < 10 ^ 4 := by omega
    rw [add_assoc, show 14 = 9 + 5 from rfl, decimal_join 9 _ (by omega),
      show 5 = 1 + 4 from rfl, decimal_join 1 _ high]
  simp only [footer, misreadFooter, credits, balance, shifted, List.flatten_cons, List.append_assoc]

theorem finalBalanceRecord_footer (s : Statement) :
    finalBalanceRecord s.footer.flatten = s.misreadBalance := by
  have whole := s.footer_shifted
  have sign := s.finalBalance.sign_le
  have small := s.finalBalance.fits
  have cents : ((totals s.movements false).2 % 10 ^ 9 * 10 ^ 5 + s.finalBalance.sign * 10 ^ 4 +
      s.finalBalance.cents.natAbs / 10 ^ 10) % 10 ^ 14 =
      (totals s.movements false).2 % 10 ^ 9 * 10 ^ 5 + s.finalBalance.sign * 10 ^ 4 +
      s.finalBalance.cents.natAbs / 10 ^ 10 := by
    apply Nat.mod_eq_of_lt
    omega
  rw [finalBalanceRecord,
    field_part 49 1 s.misreadFooter 8 whole rfl (by simp [Statement.misreadFooter]) (by simp),
    field_part 50 14 s.misreadFooter 9 whole rfl (by simp [Statement.misreadFooter]) (by simp)]
  simp only [trim_decimal, centsOf_decimal, decimal_eq_one, cents]
  rfl

theorem toIsoDate_columns (d : CenturyDay) :
    toIsoDate (String.ofList d.columns) = some d.iso := by
  have := d.inCentury
  have := d.inYear
  have := d.inMonth
  refine (toIsoDate_eq_iff d ?_).mpr rfl
  rw [CenturyDay.number]
  omega

theorem headerRecord_header (s : Statement) :
    headerRecord s.header.flatten = { s.misread with finalBalance := 0, transactions := [] } := by
  have cents : (centsOf (String.ofList (decimal 14 s.initialBalance.cents.natAbs)) : ℤ) =
      s.initialBalance.cents.natAbs := by
    rw [centsOf_decimal, Nat.mod_eq_of_lt s.initialBalance.fits]
  have balance : (if String.ofList (decimal 1 s.initialBalance.sign) = "1" then
      -(s.initialBalance.cents.natAbs : ℤ) else s.initialBalance.cents.natAbs) =
      s.initialBalance.cents := by
    simp only [decimal_eq_one, SignedCents.sign]
    split_ifs <;> omega
  have start := toIsoDate_columns s.startDate
  have finish := toIsoDate_columns s.endDate
  have digits : ∀ {width} (c : Code width), trim (String.ofList c.columns) = c.text :=
    fun c => trim_decimal _ _
  have days : ∀ d : CenturyDay, trim (String.ofList d.columns) = String.ofList d.columns :=
    fun d => trim_decimal _ _
  rw [headerRecord,
    field_part 3 4 s.header 1 rfl rfl (by simp [Statement.header]) (by simp),
    field_part 7 4 s.header 2 rfl rfl (by simp [Statement.header]) (by simp),
    field_part 11 10 s.header 3 rfl rfl (by simp [Statement.header]) (by simp),
    field_part 21 6 s.header 4 rfl rfl (by simp [Statement.header]) (by simp),
    field_part 27 6 s.header 5 rfl rfl (by simp [Statement.header]) (by simp),
    field_part 33 1 s.header 6 rfl rfl (by simp [Statement.header]) (by simp),
    field_part 34 14 s.header 7 rfl rfl (by simp [Statement.header]) (by simp),
    field_part 48 3 s.header 8 rfl rfl (by simp [Statement.header]) (by simp)]
  simp only [digits, days, start, finish, SignedCents.columns, trim_decimal, cents, balance]
  rfl

end StorageOS
