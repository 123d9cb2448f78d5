import StorageOS.Common.Text
import StorageOS.Billing.Rows
import StorageOS.Lib.Gregorian

/-! The Veri*Factu hash of an invoice record, over any digest function that, like SHA-256, returns
at least one byte. -/

namespace StorageOS

/-- `createHash('sha256')`, as a function from the text to the bytes of its digest. -/
structure Sha256 where
  digest : String → List UInt8
  nonempty : ∀ text, digest text ≠ []

def hexDigit (n : ℕ) : Char := Char.ofNat (if n < 10 then 48 + n else 87 + n)

/-- `digest('hex')`: two lower-case digits for each byte. -/
def digestHex (bytes : List UInt8) : String :=
  String.ofList (bytes.flatMap fun b => [hexDigit (b.toNat / 16), hexDigit (b.toNat % 16)])

structure AltaHashInput where
  emitterTaxId : String
  invoiceNumber : String
  issueDate : String
  invoiceType : String
  cuotaTotal : ℤ
  importeTotal : ℤ
  previousHash : Option String
  recordTimestamp : String

def altaHashInput (i : AltaHashInput) : String :=
  "&".intercalate [
    "IDEmisorFactura=" ++ trim i.emitterTaxId,
    "NumSerieFactura=" ++ trim i.invoiceNumber,
    "FechaExpedicionFactura=" ++ trim i.issueDate,
    "TipoFactura=" ++ trim i.invoiceType,
    "CuotaTotal=" ++ toFixed2 i.cuotaTotal,
    "ImporteTotal=" ++ toFixed2 i.importeTotal,
    "Huella=" ++ (trim (i.previousHash.getD "")).toUpper,
    "FechaHoraHusoGenRegistro=" ++ trim i.recordTimestamp]

def computeAltaHash (sha : Sha256) (i : AltaHashInput) : String :=
  (digestHex (sha.digest (altaHashInput i))).toUpper

def formatSpanishDate (d : Date) : String :=
  padStart 2 (toString (Gregorian.day d)) ++ "-" ++ padStart 2 (toString (Gregorian.month d)) ++
    "-" ++ padStart 4 (toString (Gregorian.year d))

/-- `VerifactuService.verifyHash`: the stored hash is the one of the stored fields. -/
def verifyHash (sha : Sha256) (tenantTaxId : String) (i : Invoice) : Bool :=
  match i.hash, i.issueDate, i.aeatRecordTimestamp with
  | some hash, some issueDate, some recordTimestamp =>
    hash ≠ "" && recordTimestamp ≠ "" &&
      computeAltaHash sha {
        emitterTaxId := tenantTaxId
        invoiceNumber := i.invoiceNumber
        issueDate := formatSpanishDate issueDate
        invoiceType := i.invoiceType.name
        cuotaTotal := i.taxAmount
        importeTotal := i.total
        previousHash := i.previousHash
        recordTimestamp } = hash.toUpper
  | _, _, _ => false

theorem digestHex_ne_empty {bytes : List UInt8} (h : bytes ≠ []) : digestHex bytes ≠ "" := by
  obtain ⟨b, rest, rfl⟩ := List.exists_cons_of_ne_nil h
  intro empty
  have := congrArg String.toList empty
  simp [digestHex] at this

theorem computeAltaHash_ne_empty (sha : Sha256) (i : AltaHashInput) :
    computeAltaHash sha i ≠ "" := by
  intro empty
  have hex := digestHex_ne_empty (sha.nonempty (altaHashInput i))
  have chars := congrArg String.toList empty
  simp only [computeAltaHash, String.toUpper, String.toList_map, String.toList_empty,
    List.map_eq_nil_iff] at chars
  exact hex (String.toList_injective chars)

@[simp] theorem computeAltaHash_toUpper (sha : Sha256) (i : AltaHashInput) :
    (computeAltaHash sha i).toUpper = computeAltaHash sha i := toUpper_toUpper _

/-! ### What the hash distinguishes -/

theorem hexDigit_toUpper_inj : ∀ a < 16, ∀ b < 16,
    (hexDigit a).toUpper = (hexDigit b).toUpper → a = b := by decide +kernel

theorem digestHex_toUpper_inj {a b : List UInt8}
    (h : (digestHex a).toUpper = (digestHex b).toUpper) : a = b := by
  have chars := congrArg String.toList h
  simp only [digestHex, String.toUpper, String.toList_map, String.toList_ofList] at chars
  clear h
  induction a generalizing b with
  | nil =>
    cases b with
    | nil => rfl
    | cons y ys => simp at chars
  | cons x xs ih =>
    cases b with
    | nil => simp at chars
    | cons y ys =>
      simp only [List.flatMap_cons, List.cons_append, List.nil_append, List.map_cons,
        List.cons.injEq] at chars
      obtain ⟨high, low, rest⟩ := chars
      have hx := x.toNat_lt
      have hy := y.toNat_lt
      have hhigh := hexDigit_toUpper_inj _ (by omega) _ (by omega) high
      have hlow := hexDigit_toUpper_inj _ (by omega) _ (by omega) low
      rw [ih rest, show x = y from UInt8.toNat_inj.mp (by omega)]

theorem computeAltaHash_inj {sha : Sha256} (injective : Function.Injective sha.digest)
    {i j : AltaHashInput} (h : computeAltaHash sha i = computeAltaHash sha j) :
    altaHashInput i = altaHashInput j :=
  injective (digestHex_toUpper_inj h)

theorem altaHashInput_importeTotal {nif number date type stamp : String} {cuota a b : ℤ}
    {previous : Option String}
    (h : altaHashInput ⟨nif, number, date, type, cuota, a, previous, stamp⟩ =
      altaHashInput ⟨nif, number, date, type, cuota, b, previous, stamp⟩) :
    toFixed2 a = toFixed2 b := by
  simp only [altaHashInput, String.intercalate_cons_cons, String.intercalate_singleton,
    String.append_assoc, String.append_right_inj, String.append_left_inj] at h
  exact h

def Sha256.bytes : Sha256 := ⟨fun text => 0 :: text.toByteArray.data.toList, by simp⟩

theorem Sha256.bytes_injective : Function.Injective Sha256.bytes.digest := by
  intro a b h
  simp only [Sha256.bytes, List.cons.injEq, true_and] at h
  exact String.toByteArray_inj.mp (ByteArray.ext (Array.toList_inj.mp h))

end StorageOS
