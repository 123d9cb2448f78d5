import StorageOS.Billing.RegistroRead

/-! The XML of an invoice record and the text that its hash is of tell the same record. -/

namespace StorageOS

open Xml Xml.Content

open scoped MemberByMember

/-! ### The strings of the hash -/

/-- What `computeChainedHash` hashes of the invoice. -/
def BuildRegistroAltaArgs.hashInput (args : BuildRegistroAltaArgs) : AltaHashInput where
  emitterTaxId := args.tenant.taxId
  invoiceNumber := args.invoice.invoiceNumber
  issueDate := formatSpanishDate args.invoice.issueDate
  invoiceType := args.invoice.invoiceType.name
  cuotaTotal := args.invoice.taxAmount
  importeTotal := args.invoice.total
  previousHash := args.invoice.previousHash.map HashText.text
  recordTimestamp := args.invoice.recordTimestamp

structure HashedStrings where
  idEmisorFactura : String
  numSerieFactura : String
  fechaExpedicionFactura : String
  tipoFactura : String
  cuotaTotal : String
  importeTotal : String
  huella : String
  fechaHoraHusoGenRegistro : String

def AltaHashInput.strings (i : AltaHashInput) : HashedStrings where
  idEmisorFactura := trim i.emitterTaxId
  numSerieFactura := trim i.invoiceNumber
  fechaExpedicionFactura := trim i.issueDate
  tipoFactura := trim i.invoiceType
  cuotaTotal := toFixed2 i.cuotaTotal
  importeTotal := toFixed2 i.importeTotal
  huella := (trim (i.previousHash.getD "")).toUpper
  fechaHoraHusoGenRegistro := trim i.recordTimestamp

def HashedStrings.text (s : HashedStrings) : String :=
  "&".intercalate [
    "IDEmisorFactura=" ++ s.idEmisorFactura,
    "NumSerieFactura=" ++ s.numSerieFactura,
    "FechaExpedicionFactura=" ++ s.fechaExpedicionFactura,
    "TipoFactura=" ++ s.tipoFactura,
    "CuotaTotal=" ++ s.cuotaTotal,
    "ImporteTotal=" ++ s.importeTotal,
    "Huella=" ++ s.huella,
    "FechaHoraHusoGenRegistro=" ++ s.fechaHoraHusoGenRegistro]

/-- The record says the strings that are hashed, a first record the empty hash, and its breakdown declares
cuotas that sum to the cuota of the record and bases that with them sum to its total. -/
structure SameRecord (i : AltaHashInput) (record : RecordTexts) : Prop where
  hashed : altaHashInput i = i.strings.text
  idEmisorFactura : record.idEmisorFactura = [i.strings.idEmisorFactura.toList]
  numSerieFactura : record.numSerieFactura = [i.strings.numSerieFactura.toList]
  fechaExpedicionFactura : record.fechaExpedicionFactura = [i.strings.fechaExpedicionFactura.toList]
  tipoFactura : record.tipoFactura = [i.strings.tipoFactura.toList]
  cuotaTotal : record.cuotaTotal = [i.strings.cuotaTotal.toList]
  importeTotal : record.importeTotal = [i.strings.importeTotal.toList]
  huellaAnterior : record.huellaAnterior = if i.strings.huella = "" then [] else [i.strings.huella.toList]
  primerRegistro : record.primerRegistro = if i.strings.huella = "" then ["S".toList] else []
  fechaHoraHusoGenRegistro : record.fechaHoraHusoGenRegistro = [i.strings.fechaHoraHusoGenRegistro.toList]
  sums : ∃ bases cuotas : List ℤ, record.bases = bases.map (fun n => (toFixed2 n).toList) ∧
    record.cuotas = cuotas.map (fun n => (toFixed2 n).toList) ∧ cuotas.sum = i.cuotaTotal ∧
    bases.sum + cuotas.sum = i.importeTotal

/-! ### The parts of a record -/

section

variable {args : BuildRegistroAltaArgs}

theorem trim_type (t : InvoiceType) : trim t.name = t.name := by
  cases t <;> exact trim_of_noSpace (by decide +kernel)

theorem trim_hash (h : HashText) : trim h.text = h.text :=
  trim_of_noSpace fun _ mem => Numerals.hex_induction (motive := fun c => isSpace c = false) (by decide) (h.hex _ mem)

theorem huella_hashInput : args.hashInput.strings.huella = args.invoice.previous.toUpper := by
  show (trim ((args.invoice.previousHash.map HashText.text).getD "")).toUpper = args.invoice.previous.toUpper
  rw [RegistroInvoice.previous]
  cases args.invoice.previousHash with
  | none => rw [trim_of_noSpace (by decide +kernel)]
  | some h => rw [Option.map_some, Option.getD_some, trim_hash]

theorem toUpper_eq_empty {s : String} : s.toUpper = "" ↔ s = "" := by
  rw [← String.toList_inj, ← String.toList_inj, String.toUpper, String.toList_map]
  exact List.map_eq_nil_iff

/-! ### The record of an invoice -/

/-- The invoice of the record has lines of the schemas: its totals and its breakdown are of them. -/
structure BuildRegistroAltaArgs.OfLines (args : BuildRegistroAltaArgs) (inputs : List InvoiceItemInput) : Prop where
  listed : ∀ item ∈ inputs, item.Listed
  written : ∃ totals rows, computeTotals inputs = .ok totals ∧
    (inputs.zipIdx.mapM fun (item, position) => toItemCreateData item position) = .ok rows ∧
    args.invoice.taxAmount = totals.taxAmount ∧ args.invoice.total = totals.total ∧
    args.invoice.breakdown = breakdownFromItems (rows.map InvoiceItem.forBreakdown)

/-- The issuer, the number and the time of the record have no spaces at their ends. -/
def BuildRegistroAltaArgs.Trimmed (args : BuildRegistroAltaArgs) : Prop :=
  trim args.tenant.taxId = args.tenant.taxId ∧ trim args.invoice.invoiceNumber = args.invoice.invoiceNumber ∧
    trim args.invoice.recordTimestamp = args.invoice.recordTimestamp

variable {inputs : List InvoiceItemInput}

theorem sameRecord_iff (of : args.OfLines inputs) : SameRecord args.hashInput args.texts ↔ args.Trimmed := by
  constructor
  · intro same
    have own : ∀ {s t : String}, [s.toList] = [t.toList] → t = s := fun equal =>
      String.toList_injective (List.singleton_inj.mp equal).symm
    exact ⟨own same.idEmisorFactura, own same.numSerieFactura, own same.fechaHoraHusoGenRegistro⟩
  · rintro ⟨issuer, number, time⟩
    obtain ⟨listed, totals, rows, computed, made, tax, total, breakdown⟩ := of
    obtain ⟨proper, cuota, base⟩ := breakdown_of_lines listed computed made
    constructor
    case hashed => rfl
    case idEmisorFactura => exact congrArg (fun s => [String.toList s]) issuer.symm
    case numSerieFactura => exact congrArg (fun s => [String.toList s]) number.symm
    case fechaExpedicionFactura => exact congrArg (fun s => [String.toList s]) (trim_formatSpanishDate _).symm
    case tipoFactura => exact congrArg (fun s => [String.toList s]) (trim_type _).symm
    case cuotaTotal => rfl
    case importeTotal => rfl
    case huellaAnterior =>
      simp only [huella_hashInput, toUpper_eq_empty, BuildRegistroAltaArgs.texts, ne_eq, ite_not]
    case primerRegistro =>
      simp only [huella_hashInput, toUpper_eq_empty, BuildRegistroAltaArgs.texts, ne_eq, ite_not]
    case fechaHoraHusoGenRegistro => exact congrArg (fun s => [String.toList s]) time.symm
    case sums =>
      refine ⟨args.invoice.breakdown.map BreakdownLine.base,
        (args.invoice.breakdown.filter fun l => l.category = "S1").map BreakdownLine.cuota, ?_, ?_, ?_, ?_⟩
      · rw [List.map_map]
        rfl
      · rw [List.map_map]
        rfl
      · rw [breakdown, sum_declared proper, cuota]
        exact tax.symm
      · rw [breakdown, sum_declared proper, cuota, base]
        exact total.symm

/-- The XML of an invoice with lines of the schemas is well formed and tells the record that is hashed, if and
only if its strings have XML characters only and the hashed ones have no spaces at their ends. -/
theorem registro_same_record (config : SistemaInformatico) (of : args.OfLines inputs) :
    (∃ x, Document (buildRegistroAlta config args) x ∧
        ∃ record, readRegistros x = [record] ∧ SameRecord args.hashInput record) ↔
      (∀ s ∈ args.strings config, XmlText s) ∧ args.Trimmed := by
  have root : (envelope config args).IsRoot := ⟨_, _, _, rfl⟩
  have proper : ∀ l ∈ args.invoice.breakdown, l.Proper := by
    obtain ⟨listed, totals, rows, computed, made, -, -, breakdown⟩ := of
    rw [breakdown]
    exact (breakdown_of_lines listed computed made).1
  have record : (∃ record, readRegistros (envelope config args) = [record] ∧ SameRecord args.hashInput record) ↔
      args.Trimmed := by
    rw [readRegistros_envelope, ← sameRecord_iff of]
    exact ⟨fun ⟨_, same, holds⟩ => List.singleton_inj.mp same ▸ holds, fun holds => ⟨_, rfl, holds⟩⟩
  rw [← record, ← clean_envelope config args proper]
  exact document_render_iff root (named_envelope config args)

end

/-! ### A name with a control character -/

def sampleConfig : SistemaInformatico := ⟨"B12345674", "StorageOS", "1.0", "1"⟩

def sampleLine : InvoiceItemInput := ⟨"Alquiler", 1, 100, 21, none, none⟩

def sampleRecord (name : String) : BuildRegistroAltaArgs where
  tenant := ⟨"Trasteros", "B12345674"⟩
  representative := none
  invoice := {
    invoiceNumber := "F-2026-0001"
    issueDate := 20620
    description := "Alquiler trasteros mes 2026-06"
    invoiceType := .F1
    rectifies := none
    correctionMethod := none
    originalAmounts := none
    breakdown := [⟨2100, 10000, 2100, "S1"⟩]
    taxAmount := 2100
    total := 12100
    recordTimestamp := "2026-06-16T10:00:00+02:00"
    hash := ⟨"AB", by decide +kernel⟩
    previousHash := none
    previousInvoiceNumber := none
    previousInvoiceDate := none
    previousEmitterNif := none }
  recipient := some ⟨name, some "12345678Z", none⟩

theorem sampleRecord_ofLines (name : String) : (sampleRecord name).OfLines [sampleLine] where
  listed := by
    intro item mem
    rw [List.mem_singleton.mp mem]
    exact fun c given => absurd given (by simp [sampleLine])
  written := by
    have line : lineCents 1 100 21 = ⟨10000, 2100, 12100⟩ := by decide +kernel
    have category : lineTaxCategory 21 none = .ok "S1" := by decide +kernel
    have row : toItemCreateData sampleLine 0 = .ok ⟨"Alquiler", 1, 100, 21, "S1", 2100, 12100, none, 0⟩ := by
      simp only [toItemCreateData, sampleLine, line, category]
      rfl
    refine ⟨⟨10000, 2100, 12100⟩, [⟨"Alquiler", 1, 100, 21, "S1", 2100, 12100, none, 0⟩], ?_, ?_, rfl, rfl, ?_⟩
    · decide +kernel
    · simp only [List.zipIdx_singleton, List.mapM_cons, row]
      rfl
    · show [(⟨2100, 10000, 2100, "S1"⟩ : BreakdownLine)] = _
      decide +kernel

theorem sampleRecord_agrees : ∃ x, Document (buildRegistroAlta sampleConfig (sampleRecord "Ana & Luis")) x ∧
    ∃ record, readRegistros x = [record] ∧ SameRecord (sampleRecord "Ana & Luis").hashInput record := by
  refine (registro_same_record sampleConfig (sampleRecord_ofLines "Ana & Luis")).mpr ⟨by decide +kernel, ?_⟩
  exact ⟨trim_of_noSpace (by decide +kernel), trim_of_noSpace (by decide +kernel), trim_of_noSpace (by decide +kernel)⟩

/-- The schemas let a name have a control character, and no document has one. -/
theorem control_character_malformed : (sampleRecord "Ana\x01").OfLines [sampleLine] ∧
    ¬∃ x, Document (buildRegistroAlta sampleConfig (sampleRecord "Ana\x01")) x := by
  refine ⟨sampleRecord_ofLines _, ?_⟩
  rintro ⟨x, document⟩
  have root : (envelope sampleConfig (sampleRecord "Ana\x01")).IsRoot := ⟨_, _, _, rfl⟩
  have proper : ∀ l ∈ (sampleRecord "Ana\x01").invoice.breakdown, l.Proper := by
    intro l mem
    rw [List.mem_singleton.mp mem]
    exact ⟨by decide, fun other => absurd rfl other⟩
  have clean := ((document_render_iff root (named_envelope _ _) (p := fun _ => True)).mp ⟨x, document, trivial⟩).1
  have name := (clean_envelope sampleConfig _ proper).mp clean "Ana\x01" (by decide)
  exact absurd name (by decide +kernel)

end StorageOS
