import Mathlib.Data.Int.Notation
import Mathlib.Data.List.Basic

/-! String functions of the source's language, on the strings the program builds. -/

namespace StorageOS

/-- The characters that `trim` removes. -/
def isSpace (c : Char) : Bool :=
  (9 ≤ c.toNat && c.toNat ≤ 13) || (8192 ≤ c.toNat && c.toNat ≤ 8202) ||
    [32, 160, 5760, 8232, 8233, 8239, 8287, 12288, 65279].contains c.toNat

def trim (s : String) : String :=
  String.ofList (((s.toList.dropWhile isSpace).reverse.dropWhile isSpace).reverse)

theorem trim_of_ends {s : String} (first : ∀ c ∈ s.toList.head?, isSpace c = false)
    (last : ∀ c ∈ s.toList.getLast?, isSpace c = false) : trim s = s := by
  have stays : ∀ l : List Char, (∀ c ∈ l.head?, isSpace c = false) → l.dropWhile isSpace = l := by
    intro l h
    cases l with
    | nil => rfl
    | cons c rest => exact List.dropWhile_cons_of_neg (by simpa using h c rfl)
  rw [trim, stays _ first, stays _ (by simpa using last), List.reverse_reverse, String.ofList_toList]

theorem trim_of_noSpace {s : String} (all : ∀ c ∈ s.toList, isSpace c = false) : trim s = s :=
  trim_of_ends (fun c mem => all c (List.mem_of_mem_head? mem)) fun c mem => all c (List.mem_of_getLast? mem)

theorem isSpace_of_isDigit {c : Char} (digit : c.isDigit = true) : isSpace c = false := by
  have range : 48 ≤ c.toNat ∧ c.toNat ≤ 57 := by
    simpa [Char.isDigit, UInt32.le_iff_toNat_le] using digit
  rw [isSpace, Bool.or_eq_false_iff, Bool.or_eq_false_iff]
  refine ⟨⟨?_, ?_⟩, ?_⟩
  · simp
    omega
  · simp
    omega
  · simp
    omega

def padStart (length : ℕ) (s : String) : String :=
  String.ofList (List.replicate (length - s.length) '0') ++ s

def toFixed2 (cents : ℤ) : String :=
  let sign := if cents < 0 then "-" else ""
  sign ++ toString (cents.natAbs / 100) ++ "." ++ padStart 2 (toString (cents.natAbs % 100))

theorem charToUpper_kept {c : Char} (h : ¬('a'.val ≤ c.val ∧ c.val ≤ 'z'.val)) :
    c.toUpper = c := by
  delta Char.toUpper
  rw [dif_neg h]

theorem charToUpper_idem (c : Char) : c.toUpper.toUpper = c.toUpper := by
  by_cases lower : 'a'.val ≤ c.val ∧ c.val ≤ 'z'.val
  · have shifted : c.toUpper.val = c.val + ('A'.val - 'a'.val) := by
      delta Char.toUpper
      rw [dif_pos lower]
    have upper : ¬('a'.val ≤ c.toUpper.val ∧ c.toUpper.val ≤ 'z'.val) := by
      have a : 'a'.val.toNat = 97 := rfl
      have z : 'z'.val.toNat = 122 := rfl
      have A : 'A'.val.toNat = 65 := rfl
      rw [shifted]
      simp only [UInt32.le_iff_toNat_le, UInt32.toNat_add, UInt32.toNat_sub] at *
      omega
    exact charToUpper_kept upper
  · rw [charToUpper_kept lower, charToUpper_kept lower]

@[simp] theorem toUpper_toUpper (s : String) : s.toUpper.toUpper = s.toUpper := by
  apply String.toList_injective
  simp only [String.toUpper, String.toList_map, List.map_map]
  exact List.map_congr_left fun c _ => charToUpper_idem c

/-! Spanish tax identifiers: the normal form and the check of their control character. -/

def dniLetters : List Char := "TRWAGMYFPDXBNJZSQVHLCKE".toList
def cifLetters : List Char := "JABCDEFGHI".toList

def isDigit (c : Char) : Bool := 48 ≤ c.toNat && c.toNat ≤ 57
def isCapital (c : Char) : Bool := 65 ≤ c.toNat && c.toNat ≤ 90

def digitsValue (ds : List Char) : ℕ := ds.foldl (fun n c => 10 * n + (c.toNat - 48)) 0

/-- Upper case, without spaces, dots, hyphens or the prefix "ES" of a full identifier. -/
def normalizeTaxId (value : String) : String :=
  let v := value.toUpper.toList.filter fun c => !isSpace c && c ≠ '.' && c ≠ '-'
  match v with
  | 'E' :: 'S' :: rest =>
    if rest.length = 9 && rest.all fun c => isDigit c || isCapital c then String.ofList rest
    else String.ofList v
  | _ => String.ofList v

/-- The control number of the seven digits of a CIF: those at even places count double. -/
def cifControl (digits : List Char) : ℕ :=
  let weights := digits.zipIdx.map fun (c, i) =>
    let d := c.toNat - 48
    if i % 2 = 0 then 2 * d / 10 + 2 * d % 10 else d
  (10 - weights.foldl (· + ·) 0 % 10) % 10

def isValidSpanishTaxId (value : String) : Bool :=
  match (normalizeTaxId value).toList with
  | [first, c1, c2, c3, c4, c5, c6, c7, last] =>
    let middle := [c1, c2, c3, c4, c5, c6, c7]
    if isDigit first && middle.all isDigit && isCapital last then
      dniLetters[digitsValue (first :: middle) % 23]? = some last
    else if "XYZ".toList.contains first && middle.all isDigit && isCapital last then
      dniLetters[(digitsValue middle + 10000000 * "XYZ".toList.idxOf first) % 23]? = some last
    else if "ABCDEFGHJNPQRSUVW".toList.contains first && middle.all isDigit &&
        (isDigit last || "ABCDEFGHIJ".toList.contains last) then
      last = Char.ofNat (48 + cifControl middle) || cifLetters[cifControl middle]? = some last
    else false
  | _ => false

end StorageOS
