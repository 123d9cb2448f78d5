import StorageOS.Billing.RegistroXml
import StorageOS.Common.Written

/-! What is read in the XML of an invoice record, and when that XML is well formed. -/

namespace StorageOS

open Xml Xml.Content

open scoped MemberByMember

structure RecordTexts where
  idEmisorFactura : List (List Char)
  numSerieFactura : List (List Char)
  fechaExpedicionFactura : List (List Char)
  tipoFactura : List (List Char)
  cuotaTotal : List (List Char)
  importeTotal : List (List Char)
  primerRegistro : List (List Char)
  huellaAnterior : List (List Char)
  fechaHoraHusoGenRegistro : List (List Char)
  bases : List (List Char)
  cuotas : List (List Char)

def readRegistro (x : Content) : RecordTexts where
  idEmisorFactura := x.texts ["sum1:IDFactura", "sum1:IDEmisorFactura"]
  numSerieFactura := x.texts ["sum1:IDFactura", "sum1:NumSerieFactura"]
  fechaExpedicionFactura := x.texts ["sum1:IDFactura", "sum1:FechaExpedicionFactura"]
  tipoFactura := x.texts ["sum1:TipoFactura"]
  cuotaTotal := x.texts ["sum1:CuotaTotal"]
  importeTotal := x.texts ["sum1:ImporteTotal"]
  primerRegistro := x.texts ["sum1:Encadenamiento", "sum1:PrimerRegistro"]
  huellaAnterior := x.texts ["sum1:Encadenamiento", "sum1:RegistroAnterior", "sum1:Huella"]
  fechaHoraHusoGenRegistro := x.texts ["sum1:FechaHoraHusoGenRegistro"]
  bases := x.texts ["sum1:Desglose", "sum1:DetalleDesglose", "sum1:BaseImponibleOimporteNoSujeto"]
  cuotas := x.texts ["sum1:Desglose", "sum1:DetalleDesglose", "sum1:CuotaRepercutida"]

def readRegistros (x : Content) : List RecordTexts :=
  (x.path ["soapenv:Envelope", "soapenv:Body", "sum:RegFactuSistemaFacturacion", "sum:RegistroFactura",
    "sum:RegistroAlta"]).map readRegistro

def BuildRegistroAltaArgs.texts (args : BuildRegistroAltaArgs) : RecordTexts :=
  let i := args.invoice
  { idEmisorFactura := [args.tenant.taxId.toList]
    numSerieFactura := [i.invoiceNumber.toList]
    fechaExpedicionFactura := [(formatSpanishDate i.issueDate).toList]
    tipoFactura := [i.invoiceType.name.toList]
    cuotaTotal := [(toFixed2 i.taxAmount).toList]
    importeTotal := [(toFixed2 i.total).toList]
    primerRegistro := if i.previous ≠ "" then [] else ["S".toList]
    huellaAnterior := if i.previous ≠ "" then [i.previous.toUpper.toList] else []
    fechaHoraHusoGenRegistro := [i.recordTimestamp.toList]
    bases := i.breakdown.map fun l => (toFixed2 l.base).toList
    cuotas := (i.breakdown.filter fun l => l.category = "S1").map fun l => (toFixed2 l.cuota).toList }

/-! ### Reading -/

section

variable (config : SistemaInformatico) (args : BuildRegistroAltaArgs) (name : String)

theorem child_joinLines (indent : ℕ) (parts : List Content) :
    (joinLines indent parts).child name = parts.flatMap (child name) := by
  cases parts with
  | nil => exact child_line name 0
  | cons x parts =>
    rw [joinLines, child_concat, List.flatMap_map]
    · exact List.flatMap_congr fun x _ => by rw [child_append, child_line, List.nil_append]
    · exact List.cons_ne_nil _ _

theorem child_destinatariosBlock (recipient : Option RegistroRecipient)
    (other : name ∉ ["sum1:Destinatarios", "sum1:FacturaSinIdentifDestinatarioArt61d"]) :
    (destinatariosBlock recipient).child name = [] := by
  rw [List.mem_cons, List.mem_singleton, not_or] at other
  cases recipient with
  | none => simp [destinatariosBlock, Ne.symm other.2]
  | some r => simp [destinatariosBlock, Ne.symm other.1]

theorem child_rectificationBlocks (i : RegistroInvoice)
    (other : name ∉ ["sum1:TipoRectificativa", "sum1:FacturasRectificadas", "sum1:ImporteRectificacion"]) :
    (rectificationBlocks i).child name = [] := by
  simp only [List.mem_cons, List.not_mem_nil, or_false, not_or] at other
  obtain ⟨tipo, facturas, importe⟩ := other
  have noFacturas : ∀ rectifies, (facturasRectificadas rectifies).child name = [] := by
    intro rectifies
    rw [facturasRectificadas]
    split <;> simp [Ne.symm facturas]
  have noImporte : ∀ method amounts, (importeRectificacion method amounts).child name = [] := by
    intro method amounts
    unfold importeRectificacion
    split <;> simp [Ne.symm importe]
  rw [rectificationBlocks]
  split
  · simp [buildRectificationBlocks, noFacturas, noImporte, Ne.symm tipo]
  · rfl

theorem child_sistemaInformatico (other : name ≠ "sum1:SistemaInformatico") :
    (sistemaInformatico config).child name = [] := by
  simp [sistemaInformatico, Ne.symm other]

theorem texts_detalleDesglose (l : BreakdownLine) :
    (detalleDesglose l).texts ["sum1:DetalleDesglose", "sum1:BaseImponibleOimporteNoSujeto"] =
        [(toFixed2 l.base).toList] ∧
      (detalleDesglose l).texts ["sum1:DetalleDesglose", "sum1:CuotaRepercutida"] =
        if l.category = "S1" then [(toFixed2 l.cuota).toList] else [] := by
  rw [detalleDesglose]
  by_cases subject : l.category = "S1"
  · have taxed : isExemptCategory "S1" = false := by decide
    simp [Content.texts, subject, taxed]
  · by_cases exempt : isExemptCategory l.category = true
    · simp [Content.texts, subject, exempt]
    · simp [Content.texts, subject, exempt]

theorem texts_desglose (lines : List BreakdownLine) :
    (buildDesglose lines).texts ["sum1:DetalleDesglose", "sum1:BaseImponibleOimporteNoSujeto"] =
        lines.map (fun l => (toFixed2 l.base).toList) ∧
      (buildDesglose lines).texts ["sum1:DetalleDesglose", "sum1:CuotaRepercutida"] =
        (lines.filter fun l => l.category = "S1").map fun l => (toFixed2 l.cuota).toList := by
  have each : ∀ names, (buildDesglose lines).texts ("sum1:DetalleDesglose" :: names) =
      lines.flatMap fun l => (detalleDesglose l).texts ("sum1:DetalleDesglose" :: names) := by
    intro names
    simp only [texts_cons, buildDesglose, child_joinLines, List.flatMap_map, List.flatMap_assoc]
  rw [each, each]
  constructor
  · rw [List.flatMap_congr fun l _ => (texts_detalleDesglose l).1]
    exact List.map_eq_flatMap.symm
  · rw [List.flatMap_congr fun l _ => (texts_detalleDesglose l).2]
    clear each
    induction lines with
    | nil => rfl
    | cons l lines ih =>
      rw [List.flatMap_cons, ih, List.filter_cons]
      by_cases subject : l.category = "S1" <;> simp [subject]

theorem texts_encadenamiento (tenant : TaxParty) (i : RegistroInvoice) :
    (encadenamiento tenant i).texts ["sum1:PrimerRegistro"] = (if i.previous ≠ "" then [] else ["S".toList]) ∧
      (encadenamiento tenant i).texts ["sum1:RegistroAnterior", "sum1:Huella"] =
        if i.previous ≠ "" then [i.previous.toUpper.toList] else [] := by
  rw [encadenamiento]
  split <;> simp [Content.texts, buildRegistroAnterior]

theorem readRegistro_registroAlta : readRegistro (registroAlta config args) = args.texts := by
  obtain ⟨bases, cuotas⟩ := texts_desglose args.invoice.breakdown
  obtain ⟨primero, anterior⟩ := texts_encadenamiento args.tenant args.invoice
  simp only [Content.texts, path_cons, path_nil] at bases cuotas primero anterior
  simp [readRegistro, BuildRegistroAltaArgs.texts, registroAlta, Content.texts, child_destinatariosBlock,
    child_rectificationBlocks, child_sistemaInformatico, -List.flatMap_singleton',
    bases, cuotas, primero, anterior]

theorem readRegistros_envelope : readRegistros (envelope config args) = [args.texts] := by
  simp [readRegistros, envelope, cabecera, readRegistro_registroAlta]

/-! ### Well-formed records -/

def RegistroRecipient.strings (r : RegistroRecipient) : List String :=
  if r.taxId.getD "" ≠ "" then [r.name, r.taxId.getD ""]
  else [r.name, (r.otherId.getD ⟨"ES", .id06, ""⟩).country, (r.otherId.getD ⟨"ES", .id06, ""⟩).id]

def RegistroInvoice.rectifiedStrings (i : RegistroInvoice) : List String :=
  if i.invoiceType.isRectification then (i.rectifies.getD []).flatMap fun r => [r.emitterTaxId, r.invoiceNumber]
  else []

def RegistroInvoice.previousStrings (i : RegistroInvoice) (tenant : TaxParty) : List String :=
  if i.previous ≠ "" then [i.previousEmitterNif.getD tenant.taxId, i.previousInvoiceNumber.getD ""] else []

def BuildRegistroAltaArgs.strings (config : SistemaInformatico) (args : BuildRegistroAltaArgs) : List String :=
  [args.tenant.name, args.tenant.taxId, args.invoice.invoiceNumber, args.invoice.description,
    args.invoice.recordTimestamp, config.nombre, config.nif, config.version, config.instalacion] ++
  args.representative.toList.flatMap (fun r => [r.name, r.taxId]) ++
  args.recipient.toList.flatMap RegistroRecipient.strings ++
  args.invoice.rectifiedStrings ++ args.invoice.previousStrings args.tenant

theorem xmlText_toUpper (h : HashText) : XmlText h.text.toUpper := by
  have upper : ∀ {c : Char}, Numerals.isHex c = true → isXmlChar c.toUpper = true :=
    Numerals.hex_induction (motive := fun c => isXmlChar c.toUpper = true) (by decide)
  intro c mem
  rw [String.toUpper, String.toList_map, List.mem_map] at mem
  obtain ⟨d, has, rfl⟩ := mem
  exact upper (h.hex d has)

theorem clean_representanteBlock (r : Option TaxParty) :
    (representanteBlock r).Clean ↔ ∀ s ∈ r.toList.flatMap (fun r => [r.name, r.taxId]), XmlText s := by
  cases r <;> simp [representanteBlock]

theorem clean_destinatariosBlock (r : Option RegistroRecipient) :
    (destinatariosBlock r).Clean ↔ ∀ s ∈ r.toList.flatMap RegistroRecipient.strings, XmlText s := by
  have mark : XmlText "S" := by decide +kernel
  have types : ∀ t : OtherIdType, XmlText t.name := by rintro (_ | _ | _ | _ | _) <;> decide +kernel
  cases r with
  | none => simp [destinatariosBlock, mark]
  | some r =>
    by_cases own : r.taxId.getD "" = ""
    · simp [destinatariosBlock, recipientIdBlock, RegistroRecipient.strings, own, types]
    · simp [destinatariosBlock, recipientIdBlock, RegistroRecipient.strings, own]

theorem clean_joinLines (indent : ℕ) (parts : List Content) :
    (joinLines indent parts).Clean ↔ ∀ x ∈ parts, x.Clean := by
  cases parts with
  | nil => simp [joinLines]
  | cons x parts => simp [joinLines]

theorem clean_rectificationBlocks (i : RegistroInvoice) :
    (rectificationBlocks i).Clean ↔ ∀ s ∈ i.rectifiedStrings, XmlText s := by
  have tipo : ∀ m, XmlText (tipoRectificativa m) := by rintro (_ | _) <;> decide +kernel
  have importe : ∀ method amounts, (importeRectificacion method amounts).Clean := by
    intro method amounts
    unfold importeRectificacion
    split <;> simp
  have facturas : ∀ rectifies : List RectifiedInvoice, (facturasRectificadas rectifies).Clean ↔
      ∀ s ∈ rectifies.flatMap (fun r => [r.emitterTaxId, r.invoiceNumber]), XmlText s := by
    intro rectifies
    cases rectifies with
    | nil => simp [facturasRectificadas]
    | cons r rest =>
      rw [List.forall_mem_flatMap]
      simp [facturasRectificadas, clean_joinLines, facturaAnterior]
  rw [rectificationBlocks, RegistroInvoice.rectifiedStrings]
  split
  · simp only [buildRectificationBlocks, clean_append, clean_line, clean_leaf, tipo, importe, facturas, true_and,
      and_true]
  · simp

theorem clean_encadenamiento (tenant : TaxParty) (i : RegistroInvoice) :
    (encadenamiento tenant i).Clean ↔ ∀ s ∈ i.previousStrings tenant, XmlText s := by
  have mark : XmlText "S" := by decide +kernel
  have empty : XmlText "" := by decide +kernel
  have hash : XmlText i.previous.toUpper := by
    rw [RegistroInvoice.previous]
    cases i.previousHash with
    | none => simp [XmlText, String.toUpper]
    | some h => exact xmlText_toUpper h
  have date : XmlText ((i.previousInvoiceDate.map formatSpanishDate).getD "") := by
    cases i.previousInvoiceDate with
    | none => exact empty
    | some d => exact xmlText_formatSpanishDate d
  rw [encadenamiento, RegistroInvoice.previousStrings]
  split
  · simp [buildRegistroAnterior, hash, date]
  · simp [mark]

theorem clean_buildDesglose {lines : List BreakdownLine} (all : ∀ l ∈ lines, l.Proper) :
    (buildDesglose lines).Clean := by
  have codes : XmlText "01" ∧ XmlText "S1" := by decide +kernel
  have listed : ∀ c ∈ invoiceTaxCategories, XmlText c := by decide +kernel
  rw [buildDesglose, clean_joinLines, List.forall_mem_map]
  intro l mem
  have category := listed _ (all l mem).1
  rw [detalleDesglose]
  split
  · simp [codes, category]
  · split <;> simp [codes, category]

theorem clean_envelope (all : ∀ l ∈ args.invoice.breakdown, l.Proper) :
    (envelope config args).Clean ↔ ∀ s ∈ args.strings config, XmlText s := by
  have codes : XmlText "01" ∧ XmlText "S" ∧ XmlText "1.0" := by decide +kernel
  have type : ∀ t : InvoiceType, XmlText t.name := by rintro (_ | _ | _ | _ | _ | _ | _) <;> decide +kernel
  simp only [envelope, cabecera, registroAlta, sistemaInformatico, clean_append, clean_line, clean_leaf, clean_el,
    clean_elWith, clean_selfClosed, clean_representanteBlock, clean_destinatariosBlock, clean_rectificationBlocks,
    clean_encadenamiento, clean_buildDesglose all, xmlText_toUpper, xmlText_toFixed2, xmlText_formatSpanishDate,
    codes, type, true_and, and_true, BuildRegistroAltaArgs.strings, List.forall_mem_append, List.forall_mem_cons]
  tauto

theorem named_joinLines (indent : ℕ) (parts : List Content) :
    (joinLines indent parts).Named ↔ ∀ x ∈ parts, x.Named := by
  cases parts with
  | nil => simp [joinLines]
  | cons x parts => simp [joinLines]

theorem named_rectificationBlocks (i : RegistroInvoice) : (rectificationBlocks i).Named := by
  have importe : ∀ method amounts, (importeRectificacion method amounts).Named := by
    intro method amounts
    unfold importeRectificacion
    split <;> simp +decide
  have facturas : ∀ rectifies : List RectifiedInvoice, (facturasRectificadas rectifies).Named := by
    intro rectifies
    rw [facturasRectificadas]
    split
    · trivial
    · simp +decide [named_joinLines, facturaAnterior]
  rw [rectificationBlocks]
  split
  · simp +decide [buildRectificationBlocks, importe, facturas]
  · trivial

theorem named_buildDesglose (lines : List BreakdownLine) : (buildDesglose lines).Named := by
  rw [buildDesglose, named_joinLines, List.forall_mem_map]
  intro l _
  rw [detalleDesglose]
  split
  · simp +decide
  · split <;> simp +decide

theorem quotable_aeatSchema {name : String} (quotable : name.toList.all isQuotable = true) :
    (aeatSchema name).toList.all isQuotable = true := by
  have first : "https://www2.agenciatributaria.gob.es/".toList.all isQuotable = true := by decide
  have second : "static_files/common/internet/dep/".toList.all isQuotable = true := by decide
  have third : "aplicaciones/es/aeat/tike/cont/ws/".toList.all isQuotable = true := by decide
  have ending : ".xsd".toList.all isQuotable = true := by decide
  exact quotable_append (quotable_append (quotable_append (quotable_append first second) third) quotable) ending

theorem areAttributes_namespaces : areAttributes namespaces = true := by
  have soap : "http://schemas.xmlsoap.org/soap/envelope/".toList.all isQuotable = true := by decide
  have names : (namespaces.map Prod.fst).Nodup := by simp [namespaces]
  have values : ∀ a ∈ namespaces, (isName a.1 && a.2.toList.all isQuotable) = true := by
    simp only [namespaces, List.forall_mem_cons, Bool.and_eq_true]
    exact ⟨⟨by decide, soap⟩, ⟨by decide, quotable_aeatSchema (by decide)⟩,
      ⟨by decide, quotable_aeatSchema (by decide)⟩, by simp⟩
  rw [areAttributes, decide_eq_true names, Bool.and_true, List.all_eq_true]
  exact values

theorem named_registroAlta : (registroAlta config args).Named := by
  have destinatarios : (destinatariosBlock args.recipient).Named := by
    cases args.recipient with
    | none => simp +decide [destinatariosBlock]
    | some r =>
      by_cases own : r.taxId.getD "" = "" <;> simp +decide [destinatariosBlock, recipientIdBlock, own]
  have anterior : (encadenamiento args.tenant args.invoice).Named := by
    rw [encadenamiento]
    split <;> simp +decide [buildRegistroAnterior]
  have sistema : (sistemaInformatico config).Named := by
    simp +decide [sistemaInformatico]
  simp +decide [registroAlta, sistema, destinatarios, anterior, named_rectificationBlocks, named_buildDesglose]

theorem named_envelope : (envelope config args).Named := by
  have representante : (representanteBlock args.representative).Named := by
    cases args.representative <;> simp +decide [representanteBlock]
  simp only [envelope, cabecera, named_elWith, named_el, named_append, named_line, named_selfClosed, named_leaf,
    representante, named_registroAlta, areAttributes_namespaces, true_and, and_true]
  decide

end

end StorageOS
