import StorageOS.Common.Text
import StorageOS.Contracts.Units

/-! The text of a contract (`contracts/contract-terms.ts` and the clause templates of the shared package): what is
shown to the signer, and whose hash is the evidence of what was signed. Amounts in cents, percentages and areas in
hundredths. -/

namespace StorageOS

def given (text : Option String) : Option String := text.filter (· ≠ "")

/-- `[..].filter(Boolean).join(separator)`. -/
def joinGiven (separator : String) (parts : List (Option String)) : String :=
  separator.intercalate (parts.filterMap given)

def numberText (hundredths : ℤ) : String :=
  let sign := if hundredths < 0 then "-" else ""
  let n := hundredths.natAbs
  let decimals :=
    if n % 100 = 0 then ""
    else if n % 10 = 0 then "." ++ toString (n % 100 / 10)
    else "." ++ padStart 2 (toString (n % 100))
  sign ++ toString (n / 100) ++ decimals

def decimalComma (text : String) : String := text.map fun c => if c = '.' then ',' else c

namespace Terms

def eur (cents : ℤ) : String := decimalComma (toFixed2 cents) ++ " €"

def day (d : Date) : String :=
  padStart 2 (toString (Gregorian.day d)) ++ "/" ++ padStart 2 (toString (Gregorian.month d)) ++ "/" ++
    padStart 4 (toString (Gregorian.year d))

structure Party where
  name : String
  taxId : Option String
  address : Option String

def party (p : Party) : String :=
  joinGiven " · " [some p.name, (given p.taxId).map ("NIF " ++ ·), p.address]

end Terms

inductive ContractBillingCycle
  | monthly
  | weekly
  | daily
  deriving DecidableEq

def ContractBillingCycle.label : ContractBillingCycle → String
  | .monthly => "mensual"
  | .weekly => "semanal"
  | .daily => "diaria"

structure PreOpeningTerms where
  openingDate : Option Date
  deadline : Date
  maxMonths : ℕ
  unitTypeName : String

structure TermsCustomer where
  documentLabel : Option String
  documentNumber : Option String
  address : Option String

structure TermsCoupon where
  code : String
  discountAmount : ℤ
  freeMonths : ℕ

structure TermsInsurance where
  name : String
  price : ℤ
  taxRate : ℤ

structure ContractTermsInput where
  preOpening : Option PreOpeningTerms
  contractNumber : String
  customerName : String
  unitCode : String
  facilityName : String
  priceMonthly : ℤ
  depositAmount : ℤ
  billingCycle : ContractBillingCycle
  startDate : Date
  customClauses : String
  defaultClauses : Bool
  propertyKind : String
  landlord : Terms.Party
  managedBy : Option String
  customer : TermsCustomer
  unitDescription : Option String
  facilityAddress : Option String
  endDate : Option Date
  autoRenew : Bool
  cancellationNoticeDays : ℕ
  vatRate : ℕ
  discountAmount : ℤ
  discountReason : Option String
  freeMonths : ℕ
  coupon : Option TermsCoupon
  firstPaymentMonths : ℕ
  billingIntervalMonths : ℕ
  prepayDiscountPct : ℤ
  insurance : Option TermsInsurance
  depositCash : Bool

namespace ContractTermsInput

variable (t : ContractTermsInput)

def housing : Bool := t.propertyKind = "housing"

def tax : String := if 0 < t.vatRate then " + IVA (" ++ toString t.vatRate ++ " %)" else " (exenta de IVA)"

def preOpeningClauses (p : PreOpeningTerms) : List String :=
  ["Reserva antes de la apertura del local:",
    "1. Reserva. El inquilino reserva un trastero del tipo " ++ p.unitTypeName ++ ", en concreto el " ++ t.unitCode ++
      ". Al reservar paga la primera mensualidad, " ++ Terms.eur t.priceMonthly ++ t.tax ++
      ", que cubre el primer mes de alquiler desde la apertura, y la fianza, " ++ Terms.eur t.depositAmount ++
      ". Si no se paga en el plazo indicado, la reserva queda sin efecto.",
    "2. Fecha de inicio. El alquiler empieza el día de apertura del local" ++
      p.openingDate.elim "" (fun d => ", prevista aproximadamente para el " ++ Terms.day d) ++
      ". La fecha es orientativa y puede variar; la fecha definitiva y cualquier cambio se comunicarán por correo " ++
      "electrónico y en el área de clientes. Hasta ese día el inquilino no tiene acceso al trastero. El precio " ++
      "queda fijado desde la reserva. Si el local no ha abierto el " ++ Terms.day p.deadline ++ " (" ++
      toString p.maxMonths ++
      (if p.maxMonths = 1 then " mes" else " meses") ++
      " desde la reserva), el inquilino puede dejar la reserva sin efecto y recuperar todo lo pagado.",
    "3. Cambio de trastero. Antes de la apertura, el arrendador puede asignar otro trastero del mismo local y del " ++
      "mismo precio, avisando al inquilino.",
    "4. Cancelación. Dentro de los 14 días siguientes a la reserva, el inquilino puede desistir y se le devuelve " ++
      "todo lo pagado. Pasado ese plazo y antes del día de apertura, puede cancelar la reserva: se le devuelve la " ++
      "primera mensualidad y la fianza queda en poder del arrendador como arras penitenciales (art. 1454 del Código " ++
      "Civil). Llegado el día de apertura sin cancelar, el contrato despliega todos sus efectos."]

def partyLines : List String :=
  [if t.housing then "Contrato de arrendamiento de vivienda " ++ t.contractNumber
    else "Contrato de alquiler de trastero " ++ t.contractNumber,
    "Arrendador: " ++ Terms.party t.landlord] ++
  ((given t.managedBy).map ("Gestionado por: " ++ ·)).toList ++
  ["Inquilino: " ++ joinGiven " · " [some t.customerName,
      (given t.customer.documentNumber).map fun number =>
        (given t.customer.documentLabel).getD "Documento" ++ " " ++ number,
      t.customer.address],
    (if t.housing then "Vivienda" else "Trastero") ++ ": " ++ t.unitCode ++
      (given t.unitDescription).elim "" (fun text => " (" ++ text ++ ")") ++ " — " ++ t.facilityName ++
      (given t.facilityAddress).elim "" (", " ++ ·)]

def durationLines : List String :=
  [match t.preOpening with
    | some p => "Inicio: el día de apertura del local" ++ p.openingDate.elim " (fecha aún por confirmar)" fun d =>
      " (prevista aproximadamente para el " ++ Terms.day d ++ ")"
    | none => "Inicio: " ++ Terms.day t.startDate,
    match t.endDate with
    | some d => "Fin: " ++ Terms.day d
    | none => if t.autoRenew then "Duración: indefinida, se renueva en cada periodo de facturación"
      else "Duración: sin renovación automática",
    "Preaviso de baja: " ++ toString t.cancellationNoticeDays ++ " días"]

def monthsFree (n : ℕ) : String := toString n ++ if n = 1 then " mes gratis" else " meses gratis"

def economicLines : List String :=
  ["Cuota " ++ t.billingCycle.label ++ ": " ++ Terms.eur t.priceMonthly ++ t.tax] ++
  (if 0 < t.discountAmount then ["Descuento: −" ++ Terms.eur t.discountAmount ++ " al mes" ++
    (given t.discountReason).elim "" fun text => " (" ++ text ++ ")"] else []) ++
  (if 0 < t.freeMonths then ["Promoción: " ++ monthsFree t.freeMonths] else []) ++
  (if 1 < t.billingIntervalMonths then
      ["Facturación: cada " ++ toString t.billingIntervalMonths ++ " meses por adelantado" ++
        if t.prepayDiscountPct = 0 then "" else " con un descuento del " ++ numberText t.prepayDiscountPct ++ " %"]
    else if 1 < t.firstPaymentMonths then
      ["Primer pago: " ++ toString t.firstPaymentMonths ++ " meses por adelantado; después, " ++ t.billingCycle.label]
    else []) ++
  (t.coupon.map fun c => "Cupón " ++ c.code ++ ": " ++
    (if 0 < c.freeMonths then monthsFree c.freeMonths else "−" ++ Terms.eur c.discountAmount) ++
    " en el primer pago").toList ++
  (t.insurance.map fun i => "Protección de contenido: " ++ i.name ++ " — " ++ Terms.eur i.price ++ " al mes + IVA (" ++
    numberText i.taxRate ++ " %)").toList ++
  ["Fianza: " ++ Terms.eur t.depositAmount ++
    if 0 < t.depositAmount then (if t.depositCash then " (se paga en el local, sin IVA)" else " (sin IVA)") else ""]

def consent : List String :=
  ["",
    "El firmante declara haber leído y aceptado las condiciones del contrato de",
    "arrendamiento " ++ (if t.housing then "de la vivienda indicada" else "del trastero indicado") ++
      ", reconociendo esta firma electrónica como",
    "expresión de su consentimiento (firma electrónica simple, art. 25 Reglamento",
    "eIDAS y Ley 6/2020)."]

end ContractTermsInput

def buildContractTermsText (t : ContractTermsInput) : String :=
  let custom :=
    if trim t.customClauses = "" then []
    else ["", if t.defaultClauses then "Condiciones generales:" else "Condiciones particulares:", trim t.customClauses]
  let reservation := t.preOpening.elim [] fun p => "" :: t.preOpeningClauses p
  "\n".intercalate (t.partyLines ++ t.durationLines ++ t.economicLines ++ custom ++ reservation ++ t.consent)

/-! ### Clauses -/

def openBrace : Char := Char.ofNat 123

def closeBrace : Char := Char.ofNat 125

/-- A variable after its opening braces, and what follows its closing ones. -/
def clauseVariable (text : List Char) : Option (String × List Char) :=
  let text := text.dropWhile isSpace
  let key := text.takeWhile Char.isAlpha
  if key.isEmpty then none
  else match (text.dropWhile Char.isAlpha).dropWhile isSpace with
    | c :: c' :: rest => if c = closeBrace ∧ c' = closeBrace then some (String.ofList key, rest) else none
    | _ => none

/-- The template from where it is read on; `length` bounds what is left. -/
def renderFrom (vars : List (String × String)) : ℕ → List Char → List Char
  | length + 1, c :: c' :: rest =>
    match if c = openBrace ∧ c' = openBrace then clauseVariable rest else none with
    | some (key, after) => match vars.find? (·.1 = key) with
      | some value => value.2.toList ++ renderFrom vars length after
      -- A key that is not allowed stays as it is written.
      | none => c :: c' :: rest.take (rest.length - after.length) ++ renderFrom vars length after
    | none => c :: renderFrom vars length (c' :: rest)
  | _, text => text

def renderContractClauses (template : String) (vars : List (String × String)) : String :=
  String.ofList (renderFrom vars template.length template.toList)

/-- `DEFAULT_STORAGE_CLAUSES` and `DEFAULT_HOUSING_CLAUSES`. -/
structure DefaultClauses where
  storage : String
  housing : String

def contractClausesTemplate (defaults : DefaultClauses) (propertyKind : String)
    (clauses housingClauses : Option String) : Option String :=
  if propertyKind = "housing" then some ((housingClauses.filter (trim · ≠ "")).getD defaults.housing)
  else clauses.filter (trim · ≠ "")

/-! ### Composition -/

inductive DepositPaymentMethod
  | online
  | cash
  deriving DecidableEq

structure SigningContract where
  contractNumber : String
  status : ContractStatus
  priceMonthly : ℤ
  depositAmount : ℤ
  depositPaymentMethod : DepositPaymentMethod
  depositStatus : ContractDepositStatus
  billingCycle : ContractBillingCycle
  billingIntervalMonths : ℕ
  prepayDiscountPct : ℤ
  firstPaymentMonths : ℕ
  discountAmount : ℤ
  discountReason : Option String
  freeMonthsRemaining : ℕ
  promoted : Bool
  preOpening : Bool
  preOpeningDateConfirmed : Bool
  preOpeningDeadline : Option Date
  preOpeningStartedAt : Option Instant
  startDate : Date
  endDate : Option Date
  autoRenew : Bool
  cancellationNoticeDays : ℕ
  insurancePrice : Option ℤ
  notes : Option String
  firstPaymentDeadline : Option Instant
  signedAt : Option Instant
  signedTermsText : Option String
  signedClausesText : Option String

structure TermsAddress where
  address : Option String
  city : Option String
  postalCode : Option String

def TermsAddress.join (a : TermsAddress) : Option String :=
  given (some (joinGiven ", " [a.address, some (joinGiven " " [a.postalCode, a.city])]))

structure TermsTenantRow where
  name : String
  taxId : Option String
  billingLegalName : Option String
  billing : TermsAddress
  contractClauses : Option String
  housingContractClauses : Option String

structure TermsOwnerRow where
  legalName : String
  taxId : Option String
  place : TermsAddress

structure TermsCustomerRow where
  business : Bool
  firstName : Option String
  lastName : Option String
  companyName : Option String
  documentType : Option String
  documentNumber : Option String
  place : TermsAddress

structure TermsUnitRow where
  code : String
  areaM2 : Option ℤ
  typeName : String
  propertyKind : Option String
  facilityName : String
  facility : TermsAddress
  preOpeningMaxMonths : ℕ

structure TermsPlanRow where
  name : String
  taxRate : ℤ

structure TermsRelated where
  tenant : TermsTenantRow
  owner : Option TermsOwnerRow
  customer : TermsCustomerRow
  unit : TermsUnitRow
  insurancePlan : Option TermsPlanRow
  coupon : Option TermsCoupon

def documentLabel (documentType : String) : String :=
  if documentType = "passport" then "Pasaporte" else documentType.toUpper

structure ComposedTerms where
  text : String
  clauses : Option String

def SigningContract.isPendingPreOpening (c : SigningContract) : Bool :=
  c.preOpening && c.preOpeningStartedAt = none

def composeContractTerms (defaults : DefaultClauses) (c : SigningContract) (related : TermsRelated) : ComposedTerms :=
  let propertyKind := related.unit.propertyKind.getD "storage"
  let customer := related.customer
  let customerName :=
    if customer.business then customer.companyName.getD "" else joinGiven " " [customer.firstName, customer.lastName]
  let tenantLegal := ((related.tenant.billingLegalName.map trim).filter (· ≠ "")).getD related.tenant.name
  let template :=
    contractClausesTemplate defaults propertyKind related.tenant.contractClauses related.tenant.housingContractClauses
  let clauses := renderContractClauses (template.getD defaults.storage)
    [("contractNumber", c.contractNumber), ("customerName", customerName), ("unitCode", related.unit.code),
      ("facilityName", related.unit.facilityName), ("priceMonthly", Terms.eur c.priceMonthly),
      ("depositAmount", Terms.eur c.depositAmount), ("startDate", Terms.day c.startDate),
      ("cancellationNoticeDays", toString c.cancellationNoticeDays),
      ("tenantName", (related.owner.map TermsOwnerRow.legalName).getD tenantLegal)]
  let text := buildContractTermsText {
    propertyKind
    contractNumber := c.contractNumber
    customerName
    unitCode := related.unit.code
    facilityName := related.unit.facilityName
    priceMonthly := c.priceMonthly
    depositAmount := c.depositAmount
    billingCycle := c.billingCycle
    startDate := c.startDate
    customClauses := clauses
    defaultClauses := template.isNone
    landlord := match related.owner with
      | some owner => ⟨owner.legalName, owner.taxId, owner.place.join⟩
      | none => ⟨tenantLegal, related.tenant.taxId, related.tenant.billing.join⟩
    managedBy := related.owner.map fun _ => tenantLegal
    customer := ⟨(given customer.documentType).map documentLabel, customer.documentNumber, customer.place.join⟩
    unitDescription := some (joinGiven ", " [some related.unit.typeName,
      (related.unit.areaM2.filter (· ≠ 0)).map fun area => decimalComma (numberText area) ++ " m²"])
    facilityAddress := related.unit.facility.join
    endDate := c.endDate
    autoRenew := c.autoRenew
    cancellationNoticeDays := c.cancellationNoticeDays
    vatRate := if propertyKind = "housing" then 0 else 21
    discountAmount := c.discountAmount
    discountReason := c.discountReason
    freeMonths := c.freeMonthsRemaining
    coupon := related.coupon
    firstPaymentMonths := c.firstPaymentMonths
    billingIntervalMonths := c.billingIntervalMonths
    prepayDiscountPct := c.prepayDiscountPct
    insurance := related.insurancePlan.bind fun plan =>
      (c.insurancePrice.filter (0 < ·)).map fun price => ⟨plan.name, price, plan.taxRate⟩
    depositCash := c.depositPaymentMethod = .cash
    preOpening :=
      if c.isPendingPreOpening then
        some ⟨if c.preOpeningDateConfirmed then some c.startDate else none,
          c.preOpeningDeadline.getD c.startDate, related.unit.preOpeningMaxMonths, related.unit.typeName⟩
      else none }
  ⟨text, if template.isNone then none else some clauses⟩

end StorageOS
