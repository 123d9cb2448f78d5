import StorageOS.Contracts.ContractTerms
import StorageOS.Lib.Processes

/-! Signing a contract and the edits of a draft (`ContractsService.sign`, `update`, `setDepositPaymentMethod` and
`setDepositMethodViaToken`). Each reads the contract first and writes in a transaction of its own; `sign` composes
the text in its transaction, from the row that it has just written. -/

namespace StorageOS

open Processes

structure SignerInput where
  signerName : String
  drawn : Bool
  deriving DecidableEq

/-- A signature of the contract; the hash that the signer had sent is history. -/
structure ContractSignature where
  signerName : String
  drawn : Bool
  documentHash : String
  expectedTermsHash : Option String
  deriving DecidableEq

/-- A contract with its unit. That its end date was changed after the signature is history. -/
structure SigningDb where
  contract : SigningContract
  unitStatus : UnitStatus
  redeemed : Bool
  signatures : List ContractSignature
  endDateChanged : Bool

/-- `UpdateContractInput`; `some none` is an end date taken away. -/
structure UpdateContractInput where
  priceMonthly : Option ℤ
  startDate : Option Date
  depositAmount : Option ℤ
  endDate : Option (Option Date)
  discountAmount : Option ℤ
  discountReason : Option String
  autoRenew : Option Bool
  cancellationNoticeDays : Option ℕ
  notes : Option String
  deriving DecidableEq

structure ContractData where
  priceMonthly : Option ℤ
  startDate : Option Date
  depositAmount : Option ℤ
  endDate : Option (Option Date)
  discountAmount : Option ℤ
  discountReason : Option (Option String)
  autoRenew : Option Bool
  cancellationNoticeDays : Option ℕ
  notes : Option (Option String)
  deriving DecidableEq

inductive SigningRequest
  | sign (signature : Option SignerInput) (expectedTermsHash : Option String)
  | update (input : UpdateContractInput)
  | setDepositPaymentMethod (method : DepositPaymentMethod)
  | setDepositMethodViaToken (method : DepositPaymentMethod)
  /-- The other operations on the unit. -/
  | setUnitStatus (status : UnitStatus)

inductive SigningCall
  | signing (signature : Option SignerInput) (expectedTermsHash : Option String)
  | freezing (signature : Option SignerInput) (expectedTermsHash : Option String) (existing : SigningContract)
  | updating (input : UpdateContractInput)
  | writing (data : ContractData) (existing : SigningContract)
  | settingMethod (method : DepositPaymentMethod)
  | writingMethod (method : DepositPaymentMethod)
  | choosingMethod (method : DepositPaymentMethod)
  | writingMethodOfDraft (method : DepositPaymentMethod)
  | changingUnit (status : UnitStatus)

/-- When a step is made, what it reads beside the contract and its unit, and whether it fails. -/
structure SigningInput where
  moment : Instant
  related : TermsRelated
  facilityDeleted : Bool
  openingDate : Option Date
  reservedForOther : Bool
  offlineCashEnabled : Bool
  fails : Bool

def enterSigning (_ : SigningDb) : SigningRequest → Option SigningCall
  | .sign signature expectedTermsHash => some (.signing signature expectedTermsHash)
  | .update input => some (.updating input)
  | .setDepositPaymentMethod method => some (.settingMethod method)
  | .setDepositMethodViaToken method => some (.choosingMethod method)
  | .setUnitStatus status => some (.changingUnit status)

/-- What `update` lets through, and what it writes then. -/
def SigningContract.updateData (existing : SigningContract) (redeemed : Bool) (input : UpdateContractInput) :
    Outcome ContractData := do
  refuseIf (existing.status = .ended ∨ existing.status = .cancelled) (badRequest "contract_closed"
    "El contrato ya no está vivo")
  refuseIf (existing.status = .ending ∧ input.endDate = some none) (badRequest "ending_requires_date"
    "Un contrato en baja necesita su fecha de fin: para anularla, usa «Renovar»")
  refuseIf ((input.priceMonthly.isSome ∨ input.startDate.isSome ∨ input.depositAmount.isSome) ∧
    existing.status ≠ .draft) (badRequest "contract_not_draft"
    "El precio, la fecha de inicio y la fianza solo se cambian antes de la firma")
  let priceMonthly := input.priceMonthly.filter (· ≠ existing.priceMonthly)
  refuseIf (priceMonthly.isSome ∧ redeemed) (badRequest "coupon_price_locked"
    "Este contrato lleva un cupón calculado con su cuota: para cambiarla, cancélalo y crea otro")
  refuseIf (priceMonthly.isSome ∧ existing.promoted) (badRequest "promotion_price_locked"
    "Este contrato lleva una promoción calculada con su cuota: para cambiarla, cancélalo y crea otro")
  let effectiveStart := input.startDate.getD existing.startDate
  let effectiveEnd := input.endDate.getD existing.endDate
  refuseIf (effectiveEnd.any (· < effectiveStart)) (badRequest "invalid_end_date"
    "La fecha de fin no puede ser anterior a la de inicio")
  let draft := existing.status = .draft
  refuseIf (input.discountAmount.any (0 < ·) ∧ draft ∧ redeemed) (badRequest "coupon_with_discount"
    "Un cupón no se puede combinar con un descuento manual")
  let effectivePrice := input.priceMonthly.getD existing.priceMonthly
  let effectiveDiscount :=
    if draft then input.discountAmount.getD existing.discountAmount else existing.discountAmount
  refuseIf (effectivePrice < effectiveDiscount) (badRequest "discount_too_high"
    "El descuento no puede ser mayor que la cuota")
  .ok {
    priceMonthly
    startDate := input.startDate
    depositAmount := input.depositAmount
    endDate := input.endDate
    discountAmount := input.discountAmount.filter fun _ => draft
    discountReason := (input.discountReason.filter fun _ => draft).map fun reason => given (some (trim reason))
    autoRenew := input.autoRenew
    cancellationNoticeDays := input.cancellationNoticeDays
    notes := input.notes.map fun notes => given (some (trim notes)) }

def SigningContract.write (data : ContractData) (c : SigningContract) : SigningContract :=
  { c with
    priceMonthly := data.priceMonthly.getD c.priceMonthly
    startDate := data.startDate.getD c.startDate
    depositAmount := data.depositAmount.getD c.depositAmount
    endDate := data.endDate.getD c.endDate
    discountAmount := data.discountAmount.getD c.discountAmount
    discountReason := data.discountReason.getD c.discountReason
    autoRenew := data.autoRenew.getD c.autoRenew
    cancellationNoticeDays := data.cancellationNoticeDays.getD c.cancellationNoticeDays
    notes := data.notes.getD c.notes }

def canChooseDepositAtFacility (c : SigningContract) (offlineCashEnabled : Bool) : Bool :=
  offlineCashEnabled && c.status = .draft && c.firstPaymentDeadline.isSome && !c.preOpening && 0 < c.depositAmount

/-- The row that `sign` writes first, from what it read of the contract and the opening date of the facility. -/
def SigningContract.activate (existing : SigningContract) (signedAt : Instant) (openingDate : Option Date)
    (c : SigningContract) : SigningContract :=
  let opened := if existing.isPendingPreOpening then
      { c with
        preOpeningDateConfirmed := openingDate.isSome
        startDate := openingDate.getD (existing.preOpeningDeadline.getD existing.startDate) }
    else c
  { opened with
    status := .active
    signedAt := some signedAt
    depositStatus :=
      if 0 < existing.depositAmount ∧ existing.depositStatus = .none then .held else opened.depositStatus }

/-- The transaction of `sign` after its read of the contract; `none` when it is refused or the signer has seen another
text. -/
def SigningDb.sign (defaults : DefaultClauses) (termsHash : String → String) (db : SigningDb) (input : SigningInput)
    (signature : Option SignerInput) (expectedTermsHash : Option String) (existing : SigningContract) :
    Option SigningDb :=
  if input.facilityDeleted || (db.unitStatus ≠ .available && db.unitStatus ≠ .reserved) || input.reservedForOther then
    none
  else
    let row := existing.activate input.moment input.openingDate db.contract
    let terms := composeContractTerms defaults row input.related
    let documentHash := termsHash terms.text
    if expectedTermsHash.any (· ≠ documentHash) then none
    else some { db with
      contract := { row with signedTermsText := some terms.text, signedClausesText := terms.clauses }
      unitStatus := if existing.isPendingPreOpening then .reserved else .occupied
      signatures := db.signatures ++ (signature.map fun signer =>
        ⟨signer.signerName, signer.drawn, documentHash, expectedTermsHash⟩).toList }

def stepSigning (defaults : DefaultClauses) (termsHash : String → String) (db : SigningDb) (call : SigningCall)
    (input : SigningInput) : Option (SigningDb × Option SigningCall) :=
  if input.fails then some (db, none)
  else match call with
  | .signing signature expectedTermsHash =>
    some (db, if (db.contract.status.assertTransition .active).toOption.isSome
      then some (.freezing signature expectedTermsHash db.contract) else none)
  | .freezing signature expectedTermsHash existing =>
    some ((db.sign defaults termsHash input signature expectedTermsHash existing).getD db, none)
  | .updating update =>
    some (db, (db.contract.updateData db.redeemed update).toOption.map fun data => .writing data db.contract)
  | .writing data existing =>
    some ({ db with
      contract := db.contract.write data
      endDateChanged := db.endDateChanged || (existing.status ≠ .draft && data.endDate.isSome) }, none)
  | .settingMethod method => some (db, if db.contract.status = .draft then some (.writingMethod method) else none)
  | .writingMethod method => some ({ db with contract := { db.contract with depositPaymentMethod := method } }, none)
  | .choosingMethod method =>
    some (db, if canChooseDepositAtFacility db.contract input.offlineCashEnabled
      then some (.writingMethodOfDraft method) else none)
  | .writingMethodOfDraft method =>
    some (if db.contract.status = .draft
      then { db with contract := { db.contract with depositPaymentMethod := method } } else db, none)
  | .changingUnit status => some ({ db with unitStatus := status }, none)

def signingSystem (defaults : DefaultClauses) (termsHash : String → String) :
    System SigningDb SigningCall SigningRequest SigningInput where
  enter := enterSigning
  next := stepSigning defaults termsHash

/-! What was signed is what is stored, in every run in which an edit that was let through for a draft is written on
one, and a signature too. -/

open Transition

variable {defaults : DefaultClauses} {termsHash : String → String} {db db' : SigningDb} {call call' : SigningCall}
  {rest : Option SigningCall} {input : SigningInput} {c existing : SigningContract}

/-- The contract with the columns that may change after the signature. -/
def SigningContract.planned (c : SigningContract) (endDate : Option Date) (autoRenew : Bool)
    (cancellationNoticeDays : ℕ) : SigningContract :=
  { c with endDate, autoRenew, cancellationNoticeDays }

/-- The text frozen is that of the stored contract (with the planned end, the renewal and the notice that it had
then), and every signature is of that text, which is the one that its signer had seen. -/
structure SignedAsStored (defaults : DefaultClauses) (termsHash : String → String) (db : SigningDb)
    (text : String) : Prop where
  stored : db.contract.signedTermsText = some text
  composed : ∃ endDate autoRenew cancellationNoticeDays related,
    (db.endDateChanged = false → endDate = db.contract.endDate) ∧
    text = (composeContractTerms defaults (db.contract.planned endDate autoRenew cancellationNoticeDays) related).text
  signed : ∀ s ∈ db.signatures, s.documentHash = termsHash text ∧ ∀ sent ∈ s.expectedTermsHash, sent = s.documentHash

/-- The writes that the edits of a draft and the signature make on a draft. -/
def termsInTurn (db : SigningDb) (call : SigningCall) (input : SigningInput) : Bool :=
  input.fails || match call with
  | .freezing .. => db.contract.status = .draft
  | .writing _ existing => existing.status ≠ .draft || db.contract.status = .draft
  | .writingMethod _ => db.contract.status = .draft
  | _ => true

/-- A draft that nobody has signed, or a contract signed as it is stored. -/
structure TermsSound (defaults : DefaultClauses) (termsHash : String → String) (db : SigningDb) : Prop where
  draft : db.contract.status = .draft → db.contract.signedAt = none ∧ db.signatures = []
  signed : db.contract.status ≠ .draft → ∃ text, SignedAsStored defaults termsHash db text

/-- What was let through for a contract that is signed changes none of the columns of its text but those that may
change. -/
structure ContractData.Planned (data : ContractData) : Prop where
  priceMonthly : data.priceMonthly = none
  startDate : data.startDate = none
  depositAmount : data.depositAmount = none
  discountAmount : data.discountAmount = none
  discountReason : data.discountReason = none

def SigningCall.Known : SigningCall → Prop
  | .writing data existing => existing.status ≠ .draft → data.Planned
  | _ => True

theorem updateData_planned {redeemed : Bool} {update : UpdateContractInput} {data : ContractData}
    (let_ : existing.updateData redeemed update = .ok data) (signed : existing.status ≠ .draft) : data.Planned := by
  simp only [SigningContract.updateData] at let_
  replace let_ := Outcome.passed (Outcome.passed let_)
  obtain ⟨_, draftOnly, let_⟩ := Outcome.bind_ok let_
  replace let_ := Outcome.passed (Outcome.passed (Outcome.passed (Outcome.passed (Outcome.passed let_))))
  cases let_
  have none_ : ¬(update.priceMonthly.isSome ∨ update.startDate.isSome ∨ update.depositAmount.isSome) :=
    fun changes => refuseIf_ok draftOnly ⟨changes, signed⟩
  simp only [not_or, Bool.not_eq_true, Option.isSome_eq_false_iff, Option.isNone_iff_eq_none] at none_
  obtain ⟨price, start, deposit⟩ := none_
  refine ⟨?_, start, deposit, ?_, ?_⟩ <;> simp [price, signed]

theorem SignedAsStored.write {text : String} {data : ContractData} (stored : SignedAsStored defaults termsHash db text)
    (planned : data.Planned) (signed : existing.status ≠ .draft) :
    SignedAsStored defaults termsHash { db with
      contract := db.contract.write data
      endDateChanged := db.endDateChanged || (existing.status ≠ .draft && data.endDate.isSome) } text where
  stored := stored.stored
  composed := by
    obtain ⟨endDate, autoRenew, notice, related, same, composed⟩ := stored.composed
    refine ⟨endDate, autoRenew, notice, related, fun unchanged => ?_, ?_⟩
    · rw [Bool.or_eq_false_iff] at unchanged
      obtain ⟨before, unchanged⟩ := unchanged
      rw [decide_eq_true signed, Bool.true_and] at unchanged
      have kept : data.endDate = none := Option.not_isSome_iff_eq_none.mp (ne_true_of_eq_false unchanged)
      rw [same before]
      change db.contract.endDate = data.endDate.getD db.contract.endDate
      rw [kept, Option.getD_none]
    · rw [composed]
      obtain ⟨price, start, deposit, discount, reason⟩ := planned
      simp only [SigningContract.planned, SigningContract.write, price, start, deposit, discount, reason,
        Option.getD_none]
      rfl
  signed := stored.signed

/-! ### A step -/

variable (sound : TermsSound defaults termsHash db)
include sound

theorem TermsSound.sign {signature : Option SignerInput} {expected : Option String}
    (draft : db.contract.status = .draft)
    (made : db.sign defaults termsHash input signature expected existing = some db') :
    TermsSound defaults termsHash db' := by
  simp only [SigningDb.sign] at made
  split at made
  · cases made
  · split at made
    · cases made
    · rename_i seen
      cases made
      refine ⟨fun status => ?_, fun _ => ⟨_, rfl, ?_, fun s mem => ?_⟩⟩
      · simp only [SigningContract.activate] at status
        cases status
      · exact ⟨_, _, _, input.related, fun _ => rfl, rfl⟩
      · rw [(sound.draft draft).2, List.nil_append, Option.mem_toList, Option.map_eq_some_iff] at mem
        obtain ⟨signer, -, rfl⟩ := mem
        refine ⟨rfl, fun sent had => ?_⟩
        by_contra other
        exact seen ((Option.any_eq_true _ _).mpr ⟨sent, had, decide_eq_true other⟩)

theorem TermsSound.beside {unitStatus : UnitStatus} : TermsSound defaults termsHash { db with unitStatus } :=
  ⟨sound.draft, fun status =>
    have ⟨text, kept⟩ := sound.signed status
    ⟨text, kept.stored, kept.composed, kept.signed⟩⟩

theorem TermsSound.edited (draft : db.contract.status = .draft) (c : SigningContract)
    (same : c.status = db.contract.status ∧ c.signedAt = db.contract.signedAt) (endDateChanged : Bool) :
    TermsSound defaults termsHash { db with contract := c, endDateChanged } :=
  ⟨fun _ => ⟨same.2.trans (sound.draft draft).1, (sound.draft draft).2⟩, fun status =>
    (status (same.1.trans draft)).elim⟩

theorem stepSigning_sound (known : call.Known) (turn : termsInTurn db call input = true)
    (made : stepSigning defaults termsHash db call input = some (db', rest)) :
    TermsSound defaults termsHash db' ∧ ∀ call', rest = some call' → call'.Known := by
  unfold stepSigning at made
  split at made
  · cases made
    exact ⟨sound, goesOn_none⟩
  · rename_i works
    unfold termsInTurn at turn
    rw [eq_false_of_ne_true works, Bool.false_or] at turn
    cases call with
    | signing signature expected =>
      cases made
      refine ⟨sound, fun call' goes => ?_⟩
      split at goes <;> cases goes
      trivial
    | freezing signature expected existing =>
      cases made
      refine ⟨?_, goesOn_none⟩
      cases signs : db.sign defaults termsHash input signature expected existing with
      | none => exact sound
      | some db' => exact sound.sign (of_decide_eq_true turn) signs
    | updating update =>
      cases made
      refine ⟨sound, fun call' goes => ?_⟩
      cases let_ : db.contract.updateData db.redeemed update with
      | error _ =>
        rw [let_] at goes
        cases goes
      | ok data =>
        rw [let_] at goes
        cases goes
        exact updateData_planned let_
    | writing data existing =>
      cases made
      refine ⟨?_, goesOn_none⟩
      by_cases draft : db.contract.status = .draft
      · exact sound.edited draft (db.contract.write data) ⟨rfl, rfl⟩ _
      · rw [Bool.or_eq_true, decide_eq_true_eq, decide_eq_true_eq] at turn
        have signed := turn.resolve_right draft
        refine ⟨fun status => (draft status).elim, fun _ => ?_⟩
        obtain ⟨text, stored⟩ := sound.signed draft
        exact ⟨text, stored.write (known signed) signed⟩
    | settingMethod method =>
      cases made
      refine ⟨sound, fun call' goes => ?_⟩
      split at goes <;> cases goes
      trivial
    | writingMethod method =>
      cases made
      exact ⟨sound.edited (of_decide_eq_true turn) { db.contract with depositPaymentMethod := method } ⟨rfl, rfl⟩ _,
        goesOn_none⟩
    | choosingMethod method =>
      cases made
      refine ⟨sound, fun call' goes => ?_⟩
      split at goes <;> cases goes
      trivial
    | writingMethodOfDraft method =>
      cases made
      refine ⟨?_, goesOn_none⟩
      split
      · rename_i draft
        exact sound.edited draft { db.contract with depositPaymentMethod := method } ⟨rfl, rfl⟩ _
      · exact sound
    | changingUnit status =>
      cases made
      exact ⟨sound.beside, goesOn_none⟩

omit sound

/-! ### Runs -/

structure UnsignedDraft (db : SigningDb) : Prop where
  status : db.contract.status = .draft
  signedAt : db.contract.signedAt = none
  signatures : db.signatures = []
  endDateChanged : db.endDateChanged = false

/-- Whatever the requests on a draft and the order of their steps, a signed contract is stored as it was signed, as
long as no write that was let through for a draft comes after the signature. -/
theorem signed_terms_stored {x : State SigningDb SigningCall} (start : UnsignedDraft db)
    (run : Run (signingSystem defaults termsHash).step
      (System.admits fun db call input => termsInTurn db call input = true) ⟨db, []⟩ x)
    (signed : x.db.contract.signedAt.isSome = true) : ∃ text, SignedAsStored defaults termsHash x.db text := by
  have sound : TermsSound defaults termsHash x.db := by
    refine (System.invariant (P := TermsSound defaults termsHash) (Q := fun _ call => call.Known) run
      ⟨fun _ => ⟨start.signedAt, start.signatures⟩, fun status => (status start.status).elim⟩
      (fun _ mem => (List.not_mem_nil mem).elim) (fun {_ request _} _ entered => ?_) fun sound known turn made => ?_).1
    · cases request <;> cases entered <;> trivial
    · obtain ⟨sound', known'⟩ := stepSigning_sound sound known turn made
      exact ⟨sound', known', fun _ other => other⟩
  refine sound.signed fun draft => ?_
  rw [(sound.draft draft).1] at signed
  cases signed

/-! ### A draft of 60 € a month -/

def signingPlace : TermsAddress := ⟨some "Calle Mayor 1", some "Madrid", some "28001"⟩

def signingRelated : TermsRelated where
  tenant := ⟨"Trasteros Centro", some "B1", none, signingPlace, none, none⟩
  owner := none
  customer := ⟨false, some "Ana", some "Ruiz", none, some "dni", some "1Z", signingPlace⟩
  unit := ⟨"A-1", some 450, "Pequeño", none, "Centro", signingPlace, 6⟩
  insurancePlan := none
  coupon := none

def signingDraft : SigningContract :=
  ⟨"C-1", .draft, 6000, 6000, .online, .none, .monthly, 1, 0, 1, 0, none, 0, false, false, false, none, none, 20500,
    none, true, 15, none, none, none, none, none, none⟩

def signingDb : SigningDb := ⟨signingDraft, .available, false, [], false⟩

def plainClauses : DefaultClauses := ⟨"Objeto.", "Objeto."⟩

theorem signingDb_draft : UnsignedDraft signingDb := ⟨rfl, rfl, rfl, rfl⟩

def signingInput : SigningInput := ⟨0, signingRelated, false, none, false, false, false⟩

def signingText (c : SigningContract) : String := (composeContractTerms plainClauses c signingRelated).text

def noUpdate : UpdateContractInput := ⟨none, none, none, none, none, none, none, none, none⟩

def signOf (expectedTermsHash : Option String) : SigningRequest := .sign (some ⟨"Ana Ruiz", false⟩) expectedTermsHash

def signingTurn (request : SigningRequest) : List (Action SigningRequest SigningInput) :=
  [.start request, .advance 0 signingInput, .advance 0 signingInput]

theorem signed_terms_stored_once : ∃ x : State SigningDb SigningCall, x.db.contract.priceMonthly = 5500 ∧
    x.db.contract.autoRenew = false ∧ x.db.signatures.length = 1 ∧
      ∃ text, SignedAsStored plainClauses id x.db text := by
  obtain ⟨x, run, reached⟩ := Run.exists_of_exec (signingSystem plainClauses id).step
    (System.admits fun db call input => termsInTurn db call input = true) ⟨signingDb, []⟩
    (signingTurn (.update { noUpdate with priceMonthly := some 5500 }) ++
      signingTurn (signOf (some (signingText { signingDraft with priceMonthly := 5500 }))) ++
      signingTurn (.update { noUpdate with autoRenew := some false }))
    (fun x => x.db.contract.priceMonthly = 5500 ∧ x.db.contract.autoRenew = false ∧ x.db.signatures.length = 1 ∧
      x.db.contract.signedAt.isSome) (by decide +kernel)
  obtain ⟨price, renew, one, signed⟩ := of_decide_eq_true reached
  exact ⟨x, price, renew, one, signed_terms_stored signingDb_draft run signed⟩

/-- The end date planned after the signature, and an edit let through for the draft and written after it. -/
def changedAfter : List (List (Action SigningRequest SigningInput)) :=
  [signingTurn (signOf none) ++ signingTurn (.update { noUpdate with endDate := some (some 20700) }),
    [.start (.update { noUpdate with priceMonthly := some 9000 }), .advance 0 signingInput, .start (signOf none),
      .advance 1 signingInput, .advance 1 signingInput, .advance 0 signingInput]]

theorem signed_terms_differ : UnsignedDraft signingDb ∧ ∀ actions ∈ changedAfter,
    ∃ x, Reaches (signingSystem plainClauses id).step ⟨signingDb, []⟩ x ∧ x.running.length = 0 ∧
      x.db.contract.signedAt.isSome = true ∧ x.db.contract.signedTermsText ≠ some (signingText x.db.contract) := by
  refine ⟨signingDb_draft, fun actions mem => ?_⟩
  have replayed : (changedAfter.all fun actions =>
      (exec (fun x a => if True then (signingSystem plainClauses id).step x a else none) ⟨signingDb, []⟩ actions).any
        fun x => decide (x.running.length = 0 ∧ x.db.contract.signedAt.isSome = true ∧
          x.db.contract.signedTermsText ≠ some (signingText x.db.contract))) = true := by decide +kernel
  obtain ⟨x, run, differ⟩ := Run.exists_of_exec (signingSystem plainClauses id).step (fun _ _ => True) ⟨signingDb, []⟩
    actions (fun x => x.running.length = 0 ∧ x.db.contract.signedAt.isSome = true ∧
      x.db.contract.signedTermsText ≠ some (signingText x.db.contract)) (List.all_eq_true.mp replayed actions mem)
  exact ⟨x, run, of_decide_eq_true differ⟩

end StorageOS
