import StorageOS.Billing.Requests
import StorageOS.Billing.Recurring
import Mathlib.Data.List.Sort
import StorageOS.Lib.Xml
import StorageOS.Lib.Numerals

/-! The breakdown of an invoice by tax rate and tax category, and what its lines sum to. -/

namespace StorageOS

/-- `InvoiceTaxCategoryEnum`. -/
def invoiceTaxCategories : List String := ["S1", "E1", "E2", "E3", "E4", "E5", "E6", "N1", "N2"]

/-- `startsWith('E')`. -/
def isExemptCategory (c : String) : Bool := c.toList.head? = some 'E'

structure BreakdownLine where
  taxRate : ℤ
  base : ℤ
  cuota : ℤ
  category : String
  deriving DecidableEq

structure BreakdownItem where
  taxRate : ℚ
  taxAmount : ℤ
  total : ℤ
  taxCategory : Option String

def addToGroup (rate base cuota : ℤ) (category : String) : List BreakdownLine → List BreakdownLine
  | [] => [⟨rate, base, cuota, category⟩]
  | g :: rest =>
    if g.taxRate = rate ∧ g.category = category then
      { g with base := g.base + base, cuota := g.cuota + cuota } :: rest
    else g :: addToGroup rate base cuota category rest

def addItem (groups : List BreakdownLine) (it : BreakdownItem) : List BreakdownLine :=
  let rate := mathRound (it.taxRate * 100)
  let category := it.taxCategory.getD (if rate > 0 then "S1" else "N1")
  addToGroup rate (it.total - it.taxAmount) it.taxAmount category groups

def breakdownFromItems (items : List BreakdownItem) : List BreakdownLine :=
  (items.foldl addItem []).insertionSort fun a b =>
    b.taxRate < a.taxRate ∨ a.taxRate = b.taxRate ∧ a.category ≤ b.category

def InvoiceItem.forBreakdown (i : InvoiceItem) : BreakdownItem :=
  ⟨i.taxRate, i.taxAmount, i.total, some i.taxCategory⟩

/-! ### Groups -/

variable {groups : List BreakdownLine} {items : List BreakdownItem}

theorem sum_addToGroup (rate base cuota : ℤ) (category : String) (groups : List BreakdownLine) :
    ((addToGroup rate base cuota category groups).map BreakdownLine.base).sum =
        (groups.map BreakdownLine.base).sum + base ∧
      ((addToGroup rate base cuota category groups).map BreakdownLine.cuota).sum =
        (groups.map BreakdownLine.cuota).sum + cuota := by
  induction groups with
  | nil => simp [addToGroup]
  | cons g rest ih =>
    rw [addToGroup]
    split
    · simp only [List.map_cons, List.sum_cons]
      omega
    · simp only [List.map_cons, List.sum_cons, ih.1, ih.2]
      omega

theorem sum_foldl_addItem (items : List BreakdownItem) (groups : List BreakdownLine) :
    ((items.foldl addItem groups).map BreakdownLine.base).sum =
        (groups.map BreakdownLine.base).sum + (items.map fun i => i.total - i.taxAmount).sum ∧
      ((items.foldl addItem groups).map BreakdownLine.cuota).sum =
        (groups.map BreakdownLine.cuota).sum + (items.map BreakdownItem.taxAmount).sum := by
  induction items generalizing groups with
  | nil => simp
  | cons i items ih =>
    obtain ⟨base, cuota⟩ := ih (addItem groups i)
    obtain ⟨own, ownCuota⟩ := sum_addToGroup (mathRound (i.taxRate * 100)) (i.total - i.taxAmount) i.taxAmount
      (i.taxCategory.getD (if mathRound (i.taxRate * 100) > 0 then "S1" else "N1")) groups
    rw [List.foldl_cons, base, cuota, addItem, own, ownCuota]
    simp only [List.map_cons, List.sum_cons]
    omega

theorem sum_breakdown (items : List BreakdownItem) :
    ((breakdownFromItems items).map BreakdownLine.base).sum = (items.map fun i => i.total - i.taxAmount).sum ∧
      ((breakdownFromItems items).map BreakdownLine.cuota).sum = (items.map BreakdownItem.taxAmount).sum := by
  obtain ⟨base, cuota⟩ := sum_foldl_addItem items []
  have sorted := List.perm_insertionSort (fun a b : BreakdownLine =>
    b.taxRate < a.taxRate ∨ a.taxRate = b.taxRate ∧ a.category ≤ b.category) (items.foldl addItem [])
  rw [breakdownFromItems, (sorted.map _).sum_eq, (sorted.map _).sum_eq, base, cuota]
  simp

/-- A line of a category that the schemas know, with a cuota only when it is subject to VAT. -/
def BreakdownLine.Proper (l : BreakdownLine) : Prop :=
  l.category ∈ invoiceTaxCategories ∧ (l.category ≠ "S1" → l.cuota = 0)

theorem proper_addToGroup {rate base cuota : ℤ} {category : String}
    (own : BreakdownLine.Proper ⟨rate, base, cuota, category⟩) (all : ∀ g ∈ groups, g.Proper) :
    ∀ g ∈ addToGroup rate base cuota category groups, g.Proper := by
  induction groups with
  | nil =>
    intro g mem
    rw [List.mem_singleton.mp mem]
    exact own
  | cons first rest ih =>
    obtain ⟨here, others⟩ := List.forall_mem_cons.mp all
    rw [addToGroup]
    split
    next same =>
      refine List.forall_mem_cons.mpr ⟨⟨here.1, fun other => ?_⟩, others⟩
      have left : first.cuota = 0 := here.2 other
      have right : cuota = 0 := own.2 (same.2 ▸ other)
      show first.cuota + cuota = 0
      omega
    next => exact List.forall_mem_cons.mpr ⟨here, ih others⟩

theorem proper_breakdown (all : ∀ i ∈ items, ∃ c, i.taxCategory = some c ∧ c ∈ invoiceTaxCategories ∧
    (c ≠ "S1" → i.taxAmount = 0)) : ∀ l ∈ breakdownFromItems items, l.Proper := by
  have grouped : ∀ groups : List BreakdownLine, (∀ g ∈ groups, g.Proper) →
      ∀ g ∈ items.foldl addItem groups, g.Proper := by
    induction items with
    | nil => exact fun _ proper => proper
    | cons i items ih =>
      obtain ⟨⟨c, category, listed, free⟩, others⟩ := List.forall_mem_cons.mp all
      intro groups proper
      refine ih others (addItem groups i) ?_
      rw [addItem, category]
      exact proper_addToGroup ⟨listed, free⟩ proper
  intro l mem
  rw [breakdownFromItems, List.mem_insertionSort] at mem
  exact grouped [] (by simp) l mem

theorem sum_declared {lines : List BreakdownLine} (all : ∀ l ∈ lines, l.Proper) :
    ((lines.filter fun l => l.category = "S1").map BreakdownLine.cuota).sum = (lines.map BreakdownLine.cuota).sum := by
  induction lines with
  | nil => rfl
  | cons l lines ih =>
    obtain ⟨here, others⟩ := List.forall_mem_cons.mp all
    by_cases subject : l.category = "S1"
    · rw [List.filter_cons_of_pos (by simpa using subject), List.map_cons, List.sum_cons, ih others, List.map_cons,
        List.sum_cons]
    · rw [List.filter_cons_of_neg (by simpa using subject), ih others, List.map_cons, List.sum_cons,
        here.2 subject, zero_add]

/-! ### The lines of an invoice -/

section

variable {item : InvoiceItemInput} {inputs : List InvoiceItemInput} {row : InvoiceItem} {rows : List InvoiceItem}
  {position : ℕ}

/-- The category, when there is one, is one that the schemas know. -/
def InvoiceItemInput.Listed (item : InvoiceItemInput) : Prop := ∀ c ∈ item.taxCategory, c ∈ invoiceTaxCategories

theorem toItemCreateData_made (made : toItemCreateData item position = .ok row) :
    ∃ category, lineTaxCategory item.taxRate item.taxCategory = .ok category ∧ row.taxCategory = category ∧
      row.taxAmount = (lineCents item.quantity item.unitPrice item.taxRate).taxCents ∧
      row.total = (lineCents item.quantity item.unitPrice item.taxRate).totalCents := by
  obtain ⟨category, chosen, written⟩ := Outcome.bind_ok made
  obtain rfl := Except.ok.inj written
  exact ⟨category, chosen, rfl, rfl, rfl⟩

theorem lineTaxCategory_kept {taxRate : ℚ} {category : Option String} {c : String}
    (chosen : lineTaxCategory taxRate category = .ok c) :
    c = category.getD (if taxRate > 0 then "S1" else "N1") ∧ (c = "S1" ∨ taxRate = 0) := by
  unfold lineTaxCategory at chosen
  generalize category.getD (if taxRate > 0 then "S1" else "N1") = made at chosen ⊢
  dsimp only at chosen
  split at chosen
  next allowed =>
    obtain rfl := Except.ok.inj chosen
    exact ⟨rfl, by simpa using allowed⟩
  next => cases chosen

theorem toItemCreateData_proper (listed : item.Listed) (made : toItemCreateData item position = .ok row) :
    row.taxCategory ∈ invoiceTaxCategories ∧ (row.taxCategory ≠ "S1" → row.taxAmount = 0) := by
  obtain ⟨category, chosen, rfl, tax, -⟩ := toItemCreateData_made made
  obtain ⟨whole, allowed⟩ := lineTaxCategory_kept chosen
  refine ⟨?_, fun other => ?_⟩
  · rw [whole]
    cases given : item.taxCategory with
    | some c => exact listed c given
    | none =>
      rw [Option.getD_none]
      split <;> decide
  · have rate := allowed.resolve_left other
    rw [tax, lineCents, rate, mul_zero, zero_div]
    exact roundHalfAway_intCast 0

theorem rows_made {n : ℕ}
    (made : ((inputs.zipIdx n).mapM fun (item, position) => toItemCreateData item position) = .ok rows) :
    (rows.map InvoiceItem.taxAmount =
      inputs.map fun it => (lineCents it.quantity it.unitPrice it.taxRate).taxCents) ∧
    (rows.map InvoiceItem.total =
      inputs.map fun it => (lineCents it.quantity it.unitPrice it.taxRate).totalCents) ∧
    ∀ row ∈ rows, ∃ item ∈ inputs, ∃ position, toItemCreateData item position = .ok row := by
  induction inputs generalizing n rows with
  | nil =>
    obtain rfl := Except.ok.inj made
    exact ⟨rfl, rfl, by simp⟩
  | cons item inputs ih =>
    rw [List.zipIdx_cons, List.mapM_cons] at made
    obtain ⟨row, first, made⟩ := Outcome.bind_ok made
    obtain ⟨others, rest, made⟩ := Outcome.bind_ok made
    obtain rfl := Except.ok.inj made
    obtain ⟨-, -, -, tax, total⟩ := toItemCreateData_made first
    obtain ⟨taxes, totals, from_⟩ := ih rest
    refine ⟨?_, ?_, List.forall_mem_cons.mpr ⟨⟨item, List.mem_cons_self, n, first⟩, fun row mem => ?_⟩⟩
    · rw [List.map_cons, tax, taxes, List.map_cons]
    · rw [List.map_cons, total, totals, List.map_cons]
    · obtain ⟨item, has, made⟩ := from_ row mem
      exact ⟨item, List.mem_cons_of_mem _ has, made⟩

theorem computeTotals_taxAmount {totals : Totals} (computed : computeTotals inputs = .ok totals) :
    totals.taxAmount = (inputs.map fun it => (lineCents it.quantity it.unitPrice it.taxRate).taxCents).sum := by
  rw [computeTotals] at computed
  split at computed
  · cases computed
  · obtain rfl := Except.ok.inj computed
    show (List.map _ (List.map _ inputs)).sum = _
    rw [List.map_map]
    rfl

theorem sum_bases (rows : List InvoiceItem) :
    ((rows.map InvoiceItem.forBreakdown).map fun i => i.total - i.taxAmount).sum =
      (rows.map InvoiceItem.total).sum - (rows.map InvoiceItem.taxAmount).sum := by
  induction rows with
  | nil => rfl
  | cons row rows ih =>
    simp only [List.map_cons, List.sum_cons, ih, InvoiceItem.forBreakdown]
    omega

/-- The lines of an invoice give it a breakdown whose lines are proper, whose cuotas sum to its cuota and whose
bases and cuotas sum to its total. -/
theorem breakdown_of_lines {totals : Totals} (listed : ∀ item ∈ inputs, item.Listed)
    (computed : computeTotals inputs = .ok totals)
    (made : (inputs.zipIdx.mapM fun (item, position) => toItemCreateData item position) = .ok rows) :
    (∀ l ∈ breakdownFromItems (rows.map InvoiceItem.forBreakdown), l.Proper) ∧
      ((breakdownFromItems (rows.map InvoiceItem.forBreakdown)).map BreakdownLine.cuota).sum = totals.taxAmount ∧
      ((breakdownFromItems (rows.map InvoiceItem.forBreakdown)).map BreakdownLine.base).sum + totals.taxAmount =
        totals.total := by
  obtain ⟨taxes, amounts, from_⟩ := rows_made made
  obtain ⟨base, cuota⟩ := sum_breakdown (rows.map InvoiceItem.forBreakdown)
  have tax : (rows.map InvoiceItem.taxAmount).sum = totals.taxAmount := by
    rw [taxes, computeTotals_taxAmount computed]
  have total : (rows.map InvoiceItem.total).sum = totals.total := by
    rw [amounts, computeTotals_total computed]
  refine ⟨proper_breakdown ?_, ?_, ?_⟩
  · intro i mem
    obtain ⟨row, has, rfl⟩ := List.mem_map.mp mem
    obtain ⟨item, given, position, made⟩ := from_ row has
    exact ⟨row.taxCategory, rfl, toItemCreateData_proper (listed item given) made⟩
  · rw [cuota, List.map_map, ← tax]
    rfl
  · rw [base, sum_bases, tax, total]
    omega

end

end StorageOS

/-! `VerifactuXmlBuilder.buildRegistroAlta`: the XML of an invoice record for the tax agency. -/

namespace StorageOS

open Xml Xml.Content

structure TaxParty where
  name : String
  taxId : String

structure HashText where
  text : String
  hex : ∀ c ∈ text.toList, Numerals.isHex c = true

/-- The kinds of foreign identification, `02` to `06`. -/
inductive OtherIdType
  | id02
  | id03
  | id04
  | id05
  | id06

def OtherIdType.name : OtherIdType → String
  | .id02 => "02"
  | .id03 => "03"
  | .id04 => "04"
  | .id05 => "05"
  | .id06 => "06"

structure OtherId where
  country : String
  idType : OtherIdType
  id : String

structure RegistroRecipient where
  name : String
  taxId : Option String
  otherId : Option OtherId

structure RectifiedInvoice where
  emitterTaxId : String
  invoiceNumber : String
  issueDate : Date

structure OriginalAmounts where
  baseRectificada : ℤ
  cuotaRectificada : ℤ
  recargo : Option ℤ

structure RegistroInvoice where
  invoiceNumber : String
  issueDate : Date
  description : String
  invoiceType : InvoiceType
  rectifies : Option (List RectifiedInvoice)
  correctionMethod : Option CorrectionMethod
  originalAmounts : Option OriginalAmounts
  breakdown : List BreakdownLine
  taxAmount : ℤ
  total : ℤ
  recordTimestamp : String
  hash : HashText
  previousHash : Option HashText
  previousInvoiceNumber : Option String
  previousInvoiceDate : Option Date
  previousEmitterNif : Option String

structure BuildRegistroAltaArgs where
  tenant : TaxParty
  representative : Option TaxParty
  invoice : RegistroInvoice
  recipient : Option RegistroRecipient

structure SistemaInformatico where
  nif : String
  nombre : String
  version : String
  instalacion : String

/-! ### The blocks -/

def representanteBlock : Option TaxParty → Content
  | some r =>
    line 8 ++ el "sum1:Representante" (
      line 10 ++ leaf "sum1:NombreRazon" r.name ++
      line 10 ++ leaf "sum1:NIF" r.taxId ++
      line 8)
  | none => nil

/-- `<NIF>` or `<IDOtro>` of the recipient. -/
def recipientIdBlock (r : RegistroRecipient) : Content :=
  if r.taxId.getD "" ≠ "" then line 14 ++ leaf "sum1:NIF" (r.taxId.getD "")
  else
    let o := r.otherId.getD ⟨"ES", .id06, ""⟩
    line 14 ++ el "sum1:IDOtro" (
      line 16 ++ leaf "sum1:CodigoPais" o.country ++
      line 16 ++ leaf "sum1:IDType" o.idType.name ++
      line 16 ++ leaf "sum1:ID" o.id ++
      line 14)

/-- The recipient; without one, whatever the type of the invoice, a mark. -/
def destinatariosBlock (recipient : Option RegistroRecipient) : Content :=
  match recipient with
  | some r =>
    line 10 ++ el "sum1:Destinatarios" (
      line 12 ++ el "sum1:IDDestinatario" (
        line 14 ++ leaf "sum1:NombreRazon" r.name ++
        recipientIdBlock r ++
        line 12) ++
      line 10)
  | none => line 10 ++ leaf "sum1:FacturaSinIdentifDestinatarioArt61d" "S"

/-- Lines of a text joined by line breaks, each after its indent; without any, the line is empty. -/
def joinLines (indent : ℕ) : List Content → Content
  | [] => line 0
  | parts => concat (parts.map (line indent ++ ·))

def facturaAnterior (r : RectifiedInvoice) : Content :=
  el "sum1:IDFacturaAnterior" (
    line 16 ++ leaf "sum1:IDEmisorFactura" r.emitterTaxId ++
    line 16 ++ leaf "sum1:NumSerieFactura" r.invoiceNumber ++
    line 16 ++ leaf "sum1:FechaExpedicionFactura" (formatSpanishDate r.issueDate) ++
    line 14)

def facturasRectificadas (rectifies : List RectifiedInvoice) : Content :=
  if rectifies.isEmpty then nil
  else line 12 ++ el "sum1:FacturasRectificadas" (joinLines 14 (rectifies.map facturaAnterior) ++ line 12)

def importeRectificacion (method : CorrectionMethod) (originalAmounts : Option OriginalAmounts) : Content :=
  match method, originalAmounts with
  | .bySubstitution, some amounts =>
    line 12 ++ el "sum1:ImporteRectificacion" (
      line 14 ++ leaf "sum1:BaseRectificada" (toFixed2 amounts.baseRectificada) ++
      line 14 ++ leaf "sum1:CuotaRectificada" (toFixed2 amounts.cuotaRectificada) ++
      line 14 ++ leaf "sum1:CuotaRecargoRectificado" (toFixed2 (amounts.recargo.getD 0)) ++
      line 12)
  | _, _ => nil

def tipoRectificativa : CorrectionMethod → String
  | .byDifferences => "I"
  | .bySubstitution => "S"

def buildRectificationBlocks (method : CorrectionMethod) (rectifies : List RectifiedInvoice)
    (originalAmounts : Option OriginalAmounts) : Content :=
  line 10 ++ leaf "sum1:TipoRectificativa" (tipoRectificativa method) ++ facturasRectificadas rectifies ++
    importeRectificacion method originalAmounts

def InvoiceType.isRectification (t : InvoiceType) : Bool := t.name.toList.head? = some 'R'

def rectificationBlocks (i : RegistroInvoice) : Content :=
  if i.invoiceType.isRectification then
    buildRectificationBlocks (i.correctionMethod.getD .byDifferences) (i.rectifies.getD [])
      (if i.correctionMethod = some .bySubstitution then i.originalAmounts else none)
  else nil

/-- A `<DetalleDesglose>`: an exempt line and one that is not subject have no rate and no cuota. -/
def detalleDesglose (l : BreakdownLine) : Content :=
  el "sum1:DetalleDesglose" (
    line 14 ++ leaf "sum1:Impuesto" "01" ++
    line 14 ++ leaf "sum1:ClaveRegimen" "01" ++
    (if isExemptCategory l.category then
      line 14 ++ leaf "sum1:OperacionExenta" l.category ++
      line 14 ++ leaf "sum1:BaseImponibleOimporteNoSujeto" (toFixed2 l.base)
    else if l.category = "S1" then
      line 14 ++ leaf "sum1:CalificacionOperacion" "S1" ++
      line 14 ++ leaf "sum1:TipoImpositivo" (toFixed2 l.taxRate) ++
      line 14 ++ leaf "sum1:BaseImponibleOimporteNoSujeto" (toFixed2 l.base) ++
      line 14 ++ leaf "sum1:CuotaRepercutida" (toFixed2 l.cuota)
    else
      line 14 ++ leaf "sum1:CalificacionOperacion" l.category ++
      line 14 ++ leaf "sum1:BaseImponibleOimporteNoSujeto" (toFixed2 l.base)) ++
    line 12)

def buildDesglose (lines : List BreakdownLine) : Content := joinLines 12 (lines.map detalleDesglose)

def buildRegistroAnterior (previousHash previousInvoiceNumber : String) (previousInvoiceDate : Option Date)
    (previousEmitterNif : String) : Content :=
  line 10 ++ el "sum1:RegistroAnterior" (
    line 12 ++ leaf "sum1:IDEmisorFactura" previousEmitterNif ++
    line 12 ++ leaf "sum1:NumSerieFactura" previousInvoiceNumber ++
    line 12 ++ leaf "sum1:FechaExpedicionFactura" ((previousInvoiceDate.map formatSpanishDate).getD "") ++
    line 12 ++ leaf "sum1:Huella" previousHash.toUpper ++
    line 10)

def RegistroInvoice.previous (i : RegistroInvoice) : String := (i.previousHash.map HashText.text).getD ""

def encadenamiento (tenant : TaxParty) (i : RegistroInvoice) : Content :=
  if i.previous ≠ "" then
    buildRegistroAnterior i.previous (i.previousInvoiceNumber.getD "") i.previousInvoiceDate
      (i.previousEmitterNif.getD tenant.taxId)
  else line 10 ++ leaf "sum1:PrimerRegistro" "S"

def sistemaInformatico (s : SistemaInformatico) : Content :=
  line 10 ++ el "sum1:SistemaInformatico" (
    line 12 ++ leaf "sum1:NombreRazon" s.nombre ++
    line 12 ++ leaf "sum1:NIF" s.nif ++
    line 12 ++ leaf "sum1:NombreSistemaInformatico" s.nombre ++
    line 12 ++ leaf "sum1:IdSistemaInformatico" "01" ++
    line 12 ++ leaf "sum1:Version" s.version ++
    line 12 ++ leaf "sum1:NumeroInstalacion" s.instalacion ++
    line 12 ++ leaf "sum1:TipoUsoPosibleSoloVerifactu" "S" ++
    line 12 ++ leaf "sum1:TipoUsoPosibleMultiOT" "S" ++
    line 12 ++ leaf "sum1:IndicadorMultiplesOT" "S" ++
    line 10)

/-! ### The record -/

def registroAlta (config : SistemaInformatico) (args : BuildRegistroAltaArgs) : Content :=
  let i := args.invoice
  line 10 ++ leaf "sum1:IDVersion" "1.0" ++
  line 10 ++ el "sum1:IDFactura" (
    line 12 ++ leaf "sum1:IDEmisorFactura" args.tenant.taxId ++
    line 12 ++ leaf "sum1:NumSerieFactura" i.invoiceNumber ++
    line 12 ++ leaf "sum1:FechaExpedicionFactura" (formatSpanishDate i.issueDate) ++
    line 10) ++
  line 10 ++ leaf "sum1:NombreRazonEmisor" args.tenant.name ++
  line 10 ++ leaf "sum1:TipoFactura" i.invoiceType.name ++
  line 10 ++ leaf "sum1:DescripcionOperacion" i.description ++
  destinatariosBlock args.recipient ++
  rectificationBlocks i ++
  line 10 ++ el "sum1:Desglose" (buildDesglose i.breakdown ++ line 10) ++
  line 10 ++ leaf "sum1:CuotaTotal" (toFixed2 i.taxAmount) ++
  line 10 ++ leaf "sum1:ImporteTotal" (toFixed2 i.total) ++
  line 10 ++ el "sum1:Encadenamiento" (encadenamiento args.tenant i ++ line 10) ++
  sistemaInformatico config ++
  line 10 ++ leaf "sum1:FechaHoraHusoGenRegistro" i.recordTimestamp ++
  line 10 ++ leaf "sum1:TipoHuella" "01" ++
  line 10 ++ leaf "sum1:Huella" i.hash.text.toUpper ++
  line 8

def cabecera (args : BuildRegistroAltaArgs) : Content :=
  line 6 ++ el "sum:Cabecera" (
    line 8 ++ el "sum1:ObligadoEmision" (
      line 10 ++ leaf "sum1:NombreRazon" args.tenant.name ++
      line 10 ++ leaf "sum1:NIF" args.tenant.taxId ++
      line 8) ++
    representanteBlock args.representative ++
    line 6)

def aeatSchema (name : String) : String :=
  "https://www2.agenciatributaria.gob.es/" ++ "static_files/common/internet/dep/" ++
    "aplicaciones/es/aeat/tike/cont/ws/" ++ name ++ ".xsd"

def namespaces : Attributes := [
  ("xmlns:soapenv", "http://schemas.xmlsoap.org/soap/envelope/"),
  ("xmlns:sum", aeatSchema "SuministroLR"),
  ("xmlns:sum1", aeatSchema "SuministroInformacion")]

def envelope (config : SistemaInformatico) (args : BuildRegistroAltaArgs) : Content :=
  elWith "soapenv:Envelope" namespaces (
    line 2 ++ selfClosed "soapenv:Header" ++
    line 2 ++ el "soapenv:Body" (
      line 4 ++ el "sum:RegFactuSistemaFacturacion" (
        cabecera args ++
        line 6 ++ el "sum:RegistroFactura" (
          line 8 ++ el "sum:RegistroAlta" (registroAlta config args) ++
          line 6) ++
        line 4) ++
      line 2) ++
    line 0)

def buildRegistroAlta (config : SistemaInformatico) (args : BuildRegistroAltaArgs) : List Char :=
  declaration ++ render (envelope config args)

end StorageOS
