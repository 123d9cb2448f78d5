import Mathlib.Data.List.TakeWhile
import StorageOS.Common.Text
import StorageOS.Lib.FixedWidth

/-! The parser of bank statements in files of Norma 43: records of 80 columns, told apart by their
first two. -/

namespace StorageOS

open FixedWidth

structure N43Transaction where
  operationDate : Option String
  valueDate : Option String
  /-- Signed cents: positive for a credit, negative for a debit. -/
  amount : ℤ
  conceptCommon : String
  conceptOwn : String
  reference1 : String
  reference2 : String
  documentNumber : String
  description : String
  deriving DecidableEq

structure N43Account where
  accountLabel : String
  currency : String
  startDate : Option String
  endDate : Option String
  initialBalance : ℤ
  finalBalance : ℤ
  transactions : List N43Transaction
  deriving DecidableEq

/-- A field by its position, counted from one, without blanks at its ends. -/
def field (line : List Char) (start len : ℕ) : String :=
  trim (String.ofList (slice (start - 1) len line))

/-- `toCents` of the parser: the digits as a number, zero without digits. -/
def centsOf (digits : String) : ℤ := value (digits.toList.filter Char.isDigit)

def toIsoDate (aammdd : String) : Option String :=
  if aammdd.toList.length ≠ 6 || !aammdd.toList.all Char.isDigit || aammdd = "000000" then none
  else
    let yy := String.ofList (slice 0 2 aammdd.toList)
    let mm := String.ofList (slice 2 2 aammdd.toList)
    let dd := String.ofList (slice 4 2 aammdd.toList)
    if mm < "01" || mm > "12" || dd < "01" || dd > "31" then none
    else some ("20" ++ yy ++ "-" ++ mm ++ "-" ++ dd)

def currencyByCode (code : String) : Option String :=
  if code = "978" then some "EUR"
  else if code = "840" then some "USD"
  else if code = "826" then some "GBP"
  else none

/-- Two texts with a blank between them, or the one that is not empty. -/
def joinTexts (s t : String) : String :=
  if s = "" then t else if t = "" then s else s ++ " " ++ t

def padEnd (width : ℕ) (line : List Char) : List Char :=
  line ++ List.replicate (width - line.length) ' '

/-- The accounts read so far; the records of movements and of the end go to the current one. -/
structure N43State where
  closed : List N43Account
  current : Option N43Account

def N43State.accounts (s : N43State) : List N43Account := s.closed ++ s.current.toList

def headerRecord (line : List Char) : N43Account :=
  let balance := centsOf (field line 34 14)
  { accountLabel := joinTexts (joinTexts (field line 3 4) (field line 7 4)) (field line 11 10)
    currency := (currencyByCode (field line 48 3)).getD "EUR"
    startDate := toIsoDate (field line 21 6)
    endDate := toIsoDate (field line 27 6)
    initialBalance := if field line 33 1 = "1" then -balance else balance
    finalBalance := 0
    transactions := [] }

def movementRecord (line : List Char) : N43Transaction :=
  let amount := centsOf (field line 25 14)
  { operationDate := toIsoDate (field line 7 6)
    valueDate := toIsoDate (field line 13 6)
    amount := if field line 24 1 = "1" then -amount else amount
    conceptCommon := field line 19 2
    conceptOwn := field line 21 3
    documentNumber := field line 39 10
    reference1 := field line 49 12
    reference2 := field line 61 16
    description := "" }

def N43Transaction.describe (tx : N43Transaction) (line : List Char) : N43Transaction :=
  let text := trim (field line 5 38 ++ " " ++ field line 43 38)
  { tx with description := trim (joinTexts tx.description text) }

def finalBalanceRecord (line : List Char) : ℤ :=
  if field line 49 1 = "1" then -centsOf (field line 50 14) else centsOf (field line 50 14)

def N43Account.onLast (a : N43Account) (f : N43Transaction → N43Transaction) : N43Account :=
  match a.transactions.getLast? with
  | none => a
  | some tx => { a with transactions := a.transactions.dropLast ++ [f tx] }

def readRecord (s : N43State) (raw : List Char) : N43State :=
  let line := padEnd 80 raw
  let type := String.ofList (slice 0 2 line)
  if type = "11" then ⟨s.accounts, some (headerRecord line)⟩
  else
    match s.current with
    | none => s
    | some current =>
      if type = "22" then
        { s with current := some { current with
            transactions := current.transactions ++ [movementRecord line] } }
      else if type = "23" then
        { s with current := some (current.onLast fun tx => tx.describe line) }
      else if type = "33" then
        { s with current := some { current with finalBalance := finalBalanceRecord line } }
      else s

def parseN43 (content : String) : List N43Account :=
  let lines := (splitLines content.toList).filter fun l => trim (String.ofList l) ≠ ""
  (lines.foldl readRecord ⟨[], none⟩).accounts

/-! ### Texts -/

theorem trim_digits {digits : List Char} (all : ∀ c ∈ digits, c.isDigit = true) :
    trim (String.ofList digits) = String.ofList digits := by
  apply trim_of_ends
  · intro c mem
    rw [String.toList_ofList] at mem
    exact isSpace_of_isDigit (all c (List.mem_of_mem_head? mem))
  · intro c mem
    rw [String.toList_ofList] at mem
    exact isSpace_of_isDigit (all c (List.mem_of_mem_getLast? mem))

structure Trimmed (s : String) : Prop where
  first : ∀ c ∈ s.toList.head?, isSpace c = false
  last : ∀ c ∈ s.toList.getLast?, isSpace c = false

theorem Trimmed.trim {s : String} (h : Trimmed s) : trim s = s := trim_of_ends h.first h.last

theorem trimmed_trim (s : String) : Trimmed (trim s) := by
  constructor
  · intro c first
    rw [StorageOS.trim, String.toList_ofList] at first
    have part : (((s.toList.dropWhile isSpace).reverse.dropWhile isSpace).reverse) <+:
        s.toList.dropWhile isSpace := by
      simpa using List.reverse_prefix.mpr
        (List.dropWhile_suffix isSpace (l := (s.toList.dropWhile isSpace).reverse))
    obtain ⟨rest, whole⟩ := part
    have head : (s.toList.dropWhile isSpace).head? = some c := by
      rw [← whole, List.head?_append, Option.mem_def.mp first]
      rfl
    simpa [head] using List.head?_dropWhile_not isSpace s.toList
  · intro c last
    rw [StorageOS.trim, String.toList_ofList, List.getLast?_reverse] at last
    have := List.head?_dropWhile_not isSpace (s.toList.dropWhile isSpace).reverse
    rw [Option.mem_def.mp last] at this
    simpa using this

theorem trim_padEnd (width : ℕ) (l : List Char) :
    trim (String.ofList (padEnd width l)) = trim (String.ofList l) := by
  have blank : ∀ n, (List.replicate n ' ').dropWhile isSpace = [] := by
    intro n
    rw [List.dropWhile_eq_nil_iff]
    intro c mem
    rw [List.eq_of_mem_replicate mem]
    rfl
  simp only [StorageOS.trim, padEnd, String.toList_ofList, List.dropWhile_append]
  by_cases empty : (l.dropWhile isSpace).isEmpty = true
  · rw [if_pos empty, blank, List.isEmpty_iff.mp empty]
  · rw [if_neg empty, List.reverse_append, List.reverse_replicate, List.dropWhile_append, blank]
    simp

@[simp] theorem joinTexts_empty (s : String) : joinTexts s "" = s := by
  by_cases h : s = "" <;> simp [joinTexts, h]

@[simp] theorem empty_joinTexts (s : String) : joinTexts "" s = s := rfl

theorem joinTexts_of_ne {s t : String} (hs : s ≠ "") (ht : t ≠ "") :
    joinTexts s t = s ++ " " ++ t := by
  rw [joinTexts, if_neg hs, if_neg ht]

theorem Trimmed.join {s t : String} (hs : Trimmed s) (ht : Trimmed t) : Trimmed (joinTexts s t) := by
  by_cases es : s = ""
  · simpa [es] using ht
  · by_cases et : t = ""
    · simpa [et] using hs
    · rw [joinTexts_of_ne es et]
      have ns : s.toList ≠ [] := by simpa using es
      have nt : t.toList ≠ [] := by simpa using et
      constructor
      · intro c mem
        apply hs.first
        rw [String.toList_append, String.toList_append, List.append_assoc,
          List.head?_append_of_ne_nil _ ns] at mem
        exact mem
      · intro c mem
        apply ht.last
        rw [String.toList_append, List.getLast?_append_of_ne_nil _ nt] at mem
        exact mem

theorem trim_blank_append (t : String) : trim ("" ++ " " ++ t) = trim t := by
  have chars : ("" ++ " " ++ t).toList = ' ' :: t.toList := by
    rw [String.toList_append]
    rfl
  rw [StorageOS.trim, StorageOS.trim, chars, List.dropWhile_cons_of_pos rfl]

theorem trim_append_blank (s : String) : trim (s ++ " " ++ "") = trim s := by
  have chars : (s ++ " " ++ "").toList = padEnd (s.toList.length + 1) s.toList := by
    simp [padEnd]
  have blank := trim_padEnd (s.toList.length + 1) s.toList
  rwa [← chars, String.ofList_toList, String.ofList_toList] at blank

/-- A blank between two texts is taken away again when one of them is empty. -/
theorem trim_join {s t : String} (hs : Trimmed s) (ht : Trimmed t) :
    trim (s ++ " " ++ t) = joinTexts s t := by
  by_cases es : s = ""
  · rw [es, trim_blank_append, ht.trim, empty_joinTexts]
  · by_cases et : t = ""
    · rw [et, trim_append_blank, hs.trim, joinTexts_empty]
    · have joined := (hs.join ht).trim
      rw [joinTexts_of_ne es et] at joined
      rw [joinTexts_of_ne es et, joined]
end StorageOS
