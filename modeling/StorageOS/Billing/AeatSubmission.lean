import StorageOS.Billing.Rows
import StorageOS.Lib.Processes

/-! The records of the invoices at the AEAT. A record is sent and its status is asked for in exchanges
whose answer may not come, between the reads and the writes of the requests. -/

namespace StorageOS

/-- How the AEAT registers a record. -/
inductive AeatVerdict
  | accepted
  | acceptedWithWarnings
  deriving DecidableEq

def AeatVerdict.status : AeatVerdict → AeatStatus
  | .accepted => .accepted
  | .acceptedWithWarnings => .acceptedWithWarnings

def AeatStatus.isAccepted (status : AeatStatus) : Bool :=
  status = .accepted || status = .acceptedWithWarnings

/-- An issued invoice and its record. `registered` is what the AEAT holds of it, `sent` tells that it was
sent, and `resolved` that it was stored as accepted or rejected. -/
structure VerifactuInvoice where
  tenantId : TenantId
  issuedByHolded : Bool
  previousInvoiceId : Option InvoiceId
  aeatStatus : Option AeatStatus
  aeatSentAt : Bool
  aeatCsv : Option String
  registered : Option AeatVerdict
  sent : Bool
  resolved : Bool
  deriving DecidableEq

abbrev VerifactuDb := Table InvoiceId VerifactuInvoice

/-! ### Answers -/

/-- An answer of the AEAT: its HTTP status and the elements that are looked for in its body. -/
structure SoapResponse where
  status : ℕ
  faultstring : Option String
  estadoRegistro : Option String
  csv : Option String
  codigoErrorRegistro : Option String
  descripcionErrorRegistro : Option String

structure AeatResult where
  status : AeatStatus
  csv : Option String
  message : String
  deriving DecidableEq

def present (text : Option String) : Option String := text.filter fun s => s ≠ ""

def SoapResponse.verdict (r : SoapResponse) : Option AeatVerdict :=
  if r.estadoRegistro = some "Correcto" then some .accepted
  else if r.estadoRegistro = some "AceptadoConErrores" ||
    r.estadoRegistro = some "AceptadaConErrores" then some .acceptedWithWarnings
  else none

def parseResponse (r : SoapResponse) : AeatResult :=
  if 500 ≤ r.status then ⟨.error, none, "aeat_server_error"⟩
  else match r.faultstring with
    | some fault => ⟨.rejected, none, fault⟩
    | none =>
      match r.verdict with
      | some verdict => ⟨verdict.status, r.csv, r.estadoRegistro.getD ""⟩
      | none =>
        if r.estadoRegistro = some "Incorrecto" then
          ⟨.rejected, none, match present r.descripcionErrorRegistro with
            | some description => match present r.codigoErrorRegistro with
              | some code => "[" ++ code ++ "] " ++ description
              | none => description
            | none => "Incorrecto"⟩
        else ⟨.error, none, "unrecognized_aeat_response"⟩

def parseStatusResponse (r : SoapResponse) : AeatResult :=
  if 500 ≤ r.status then ⟨.error, none, "aeat_server_error"⟩
  else match r.verdict with
    | some verdict => ⟨verdict.status, r.csv, r.estadoRegistro.getD ""⟩
    | none =>
      if r.estadoRegistro = some "Incorrecto" then ⟨.rejected, none, "Incorrecto"⟩
      else if r.estadoRegistro = some "NoRegistrado" then ⟨.pending, none, "aeat_not_registered_yet"⟩
      else ⟨.error, none, "aeat_unknown_status"⟩

def sendInvoice (response : Option SoapResponse) : AeatResult :=
  (response.map parseResponse).getD ⟨.error, none, "aeat_request_failed"⟩

def getStatus (response : Option SoapResponse) : AeatResult :=
  (response.map parseStatusResponse).getD ⟨.error, none, "aeat_status_request_failed"⟩

def isWordChar (c : Char) : Bool := c.isAlphanum || c = '_'

def mentionsDuplicate : Option Char → List Char → Bool
  | _, [] => false
  | before, c :: rest =>
    (!before.any isWordChar && (c :: rest).take 4 = ['3', '0', '0', '0'] &&
      !(rest.drop 3).head?.any isWordChar) || mentionsDuplicate (some c) rest

def AeatResult.isDuplicate (result : AeatResult) : Bool :=
  result.status = .rejected && mentionsDuplicate none result.message.toList

/-! ### The AEAT -/

/-- What the AEAT answers about a record that is sent, of which it held `before` and which it now registers or not. A
server error or an unknown answer tells nothing, and the answer to a record that it holds is that of a duplicate. -/
def SoapResponse.answersAlta (r : SoapResponse) (before registers : Option AeatVerdict) : Bool :=
  500 ≤ r.status ||
  if r.faultstring.isSome then registers = none
  else match r.verdict with
    | some verdict => registers = some verdict
    | none => r.estadoRegistro ≠ some "Incorrecto" || (registers = none && (before = none ||
      (present r.codigoErrorRegistro = some "3000" && (present r.descripcionErrorRegistro).isSome)))

def SoapResponse.answersStatus (r : SoapResponse) (registered : Option AeatVerdict) : Bool :=
  500 ≤ r.status ||
  match r.verdict with
  | some verdict => registered = some verdict
  | none => r.estadoRegistro ≠ some "Incorrecto" || registered = none

/-! ### Steps -/

inductive VerifactuRequest
  | issue (tenantId : TenantId) (issuedByHolded : Bool) (previousInvoiceId : Option InvoiceId)
  | sendToAeat (id : InvoiceId)
  | refreshStatus (id : InvoiceId) (tenantId : TenantId)

inductive VerifactuCall
  | issuing (tenantId : TenantId) (issuedByHolded : Bool) (previousInvoiceId : Option InvoiceId)
  | sending (id : InvoiceId)
  | querying (id : InvoiceId)
  | posting (id : InvoiceId)
  | confirming (id : InvoiceId) (result : AeatResult)
  | storing (id : InvoiceId) (result : AeatResult)
  | refreshing (id : InvoiceId) (tenantId : TenantId)
  | polling (id : InvoiceId)
  | saving (id : InvoiceId) (result : AeatResult)

/-- An exchange brings an answer or none, and may register the record that it sends. -/
inductive VerifactuInput
  | proceed
  | answered (response : Option SoapResponse)
  | posted (registers : Option AeatVerdict) (response : Option SoapResponse)

def AeatStatus.stored : AeatStatus → AeatStatus
  | .pending => .error
  | status => status

def AeatStatus.isResolved (status : AeatStatus) : Bool := status.isAccepted || status = .rejected

def VerifactuInvoice.store (result : AeatResult) (inv : VerifactuInvoice) : VerifactuInvoice :=
  { inv with
    aeatSentAt := true
    aeatStatus := some result.status.stored
    aeatCsv := result.csv
    resolved := inv.resolved || result.status.stored.isResolved }

def VerifactuInvoice.saveStatus (result : AeatResult) (inv : VerifactuInvoice) : VerifactuInvoice :=
  { inv with
    aeatStatus := some result.status.stored
    aeatCsv := (present result.csv).or inv.aeatCsv
    resolved := inv.resolved || result.status.stored.isResolved }

/-- The record of an invoice is sent, and the AEAT may register it. -/
def VerifactuInvoice.post (registers : Option AeatVerdict) (inv : VerifactuInvoice) :
    VerifactuInvoice :=
  { inv with sent := true, registered := registers.or inv.registered }

def awaitsPrevious (db : VerifactuDb) (inv : VerifactuInvoice) : Bool :=
  (inv.previousInvoiceId.bind db.find).any fun prev =>
    !(prev.aeatStatus.any AeatStatus.isResolved)

/-- `sendToAeat`, up to its first exchange. -/
def readForSend (db : VerifactuDb) (id : InvoiceId) : Option VerifactuCall :=
  match db.find id with
  | none => none
  | some inv =>
    if inv.aeatStatus.any AeatStatus.isAccepted || awaitsPrevious db inv then none
    else some (if inv.aeatSentAt then .querying id else .posting id)

/-- A record is sent: the answer to a duplicate is asked for again. -/
def postRecord (db : VerifactuDb) (id : InvoiceId) (registers : Option AeatVerdict)
    (response : Option SoapResponse) : Option (VerifactuDb × Option VerifactuCall) :=
  match db.find id with
  | none => none
  | some inv =>
    if (registers.isSome && inv.registered.isSome) ||
      !response.all fun r => r.answersAlta inv.registered registers then none
    else
      let result := sendInvoice response
      some (db.modify id (VerifactuInvoice.post registers),
        some (if result.isDuplicate then .confirming id result else .storing id result))

def askStatus (db : VerifactuDb) (id : InvoiceId) (response : Option SoapResponse)
    (next : AeatResult → Option VerifactuCall) : Option (VerifactuDb × Option VerifactuCall) :=
  match db.find id with
  | none => none
  | some inv =>
    if response.all fun r => r.answersStatus inv.registered then some (db, next (getStatus response))
    else none

def nextVerifactu (db : VerifactuDb) :
    VerifactuCall → VerifactuInput → Option (VerifactuDb × Option VerifactuCall)
  | .issuing tenantId issuedByHolded previousInvoiceId, .proceed =>
    if previousInvoiceId.all fun previous => (db.find previous).isSome then
      some (db.push ⟨tenantId, issuedByHolded, previousInvoiceId, some .pending, false, none, none,
        false, false⟩, none)
    else none
  | .sending id, .proceed => some (db, readForSend db id)
  | .querying id, .answered response => askStatus db id response fun known =>
    some (if known.status.isAccepted then .saving id known else .posting id)
  | .posting id, .posted registers response => postRecord db id registers response
  | .confirming id result, .answered response => askStatus db id response fun known =>
    some (.storing id (if known.status.isAccepted then
      { known with message := "duplicate_already_registered" } else result))
  | .storing id result, .proceed => some (db.modify id (VerifactuInvoice.store result), none)
  | .refreshing id tenantId, .proceed =>
    some (db, (db.find id).bind fun inv =>
      if inv.tenantId ≠ tenantId || inv.issuedByHolded then none else some (.polling id))
  | .polling id, .answered response => askStatus db id response fun known =>
    if known.status = .pending then none else some (.saving id known)
  | .saving id result, .proceed => some (db.modify id (VerifactuInvoice.saveStatus result), none)
  | _, _ => none

def enterVerifactu (_db : VerifactuDb) : VerifactuRequest → Option VerifactuCall
  | .issue tenantId issuedByHolded previousInvoiceId =>
    some (.issuing tenantId issuedByHolded previousInvoiceId)
  | .sendToAeat id => some (.sending id)
  | .refreshStatus id tenantId => some (.refreshing id tenantId)

def verifactuSystem :
    Processes.System VerifactuDb VerifactuCall VerifactuRequest VerifactuInput where
  enter := enterVerifactu
  next := nextVerifactu

end StorageOS
