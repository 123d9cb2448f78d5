import StorageOS.Lib.Processes
import StorageOS.Payments.Collections

/-! Bank movements and the payments made from them: the requests that match, return and ignore a
movement and that undo an automatic match, each in its separate reads and writes. -/

namespace StorageOS

open Transition Processes

abbrev MovementId := ℕ

abbrev StatementId := ℕ

inductive MovementStatus
  | pending
  | matched
  | returned
  | ignored
  deriving DecidableEq

structure PaymentRef where
  invoiceId : InvoiceId
  paymentId : PaymentId
  deriving DecidableEq

structure BankTransaction where
  statementId : StatementId
  operationDate : Option Date
  /-- Signed cents: positive for a credit, negative for a debit. -/
  amount : ℤ
  reference1 : Option String
  reference2 : Option String
  documentNumber : Option String
  description : Option String
  status : MovementStatus
  matchedInvoiceId : Option InvoiceId
  matchedAt : Option Instant
  autoMatched : Bool
  matchedPaymentId : Option PaymentRef

/-- The movements and the invoices, with the payments made from each movement and those that each
return has reverted. -/
structure BankDb where
  transactions : Table MovementId BankTransaction
  accounts : Table InvoiceId NotedAccount
  made : List (MovementId × PaymentRef)
  reverted : List (MovementId × PaymentRef)

/-! ### Automatic matches -/

/-- The end of the text or a character that no number goes on with. -/
def atEdge (c : Option Char) : Bool :=
  !c.any fun c => ('A' ≤ c && c ≤ 'Z') || ('0' ≤ c && c ≤ '9')

def containsInvoiceNumber (haystack invoiceNumber : String) : Bool :=
  let text := haystack.toUpper.toList
  let number := invoiceNumber.toUpper.toList
  (List.range (text.length + 1)).any fun k =>
    number.isPrefixOf (text.drop k) && atEdge (text.take k).getLast? &&
      atEdge (text.drop (k + number.length)).head?

structure CandidateInvoice where
  id : InvoiceId
  invoiceNumber : String
  amountPendingCents : ℤ

def BankTransaction.haystack (t : BankTransaction) : String :=
  String.intercalate " " ((([t.reference1, t.reference2, t.documentNumber, t.description].map
    fun text => text.getD "").filter fun text => text ≠ ""))

/-- The invoices with exactly the amount pending whose number is in the text. -/
def uniqueAutoMatch (amountCents : ℤ) (t : BankTransaction) (candidates : List CandidateInvoice) :
    List CandidateInvoice :=
  candidates.filter fun c =>
    c.amountPendingCents = amountCents && containsInvoiceNumber t.haystack c.invoiceNumber

/-- The matches of a movement among the invoices not used for another. -/
def autoHits (t : BankTransaction) (candidates : List CandidateInvoice) (used : List InvoiceId) :
    List CandidateInvoice :=
  (uniqueAutoMatch t.amount t candidates).filter fun c => !(c.id ∈ used)

def loadCandidates (db : BankDb) (inRemittance : InvoiceId → Bool) : List CandidateInvoice :=
  ((db.accounts.rows.filter fun (id, a) =>
    a.invoice.status.payable && a.invoice.deletedAt.isNone && !inRemittance id &&
      !a.payments.rows.any fun (_, p) => p.status.inFlight).map
        fun (id, a) => ⟨id, a.invoice.invoiceNumber, a.invoice.total - a.invoice.amountPaid⟩).filter
          fun c => c.amountPendingCents > 0

/-! ### Payments of a movement -/

structure MatchPart where
  invoiceId : InvoiceId
  cents : ℤ
  positive : 0 < cents

/-- Shares the movement out in the order of the invoices, to each what is pending of it at most. -/
def matchPlan : ℤ → List (InvoiceId × ℤ) → List MatchPart
  | _, [] => []
  | remaining, (invoiceId, pending) :: rest =>
    if positive : 0 < min remaining pending then
      ⟨invoiceId, min remaining pending, positive⟩ ::
        matchPlan (remaining - min remaining pending) rest
    else matchPlan remaining rest

def BankDb.pendingOf (db : BankDb) (id : InvoiceId) : Option (InvoiceId × ℤ) :=
  (db.accounts.find id).map fun a => (id, max 0 (a.invoice.total - a.invoice.amountPaid))

def autoNotes : String := "Conciliación N43 automática"

def BankDb.lastAutomatic (db : BankDb) (invoiceId : InvoiceId) : Option PaymentRef :=
  (db.accounts.find invoiceId).bind fun a =>
    (((a.payments.rows.filter fun (_, p) => p.notes = some autoNotes).insertionSort
      fun x y => x.2.createdAt ≥ y.2.createdAt).head?).map fun q => ⟨invoiceId, q.1⟩

/-- `markPaidManually` with an amount of the movement. -/
def BankDb.pay (db : BankDb) (t : MovementId) (part : MatchPart) (notes : String) (clock : Clock) :
    Option BankDb :=
  (db.accounts.find part.invoiceId).bind fun a =>
    (a.markPaidManually clock none
      { amount := euros part.cents
        positive := euros_pos part.positive
        paidAt := none
        methodType := .bankTransfer
        overridePaymentInFlight := true
        allowPartialNonCash := true
        allowInSepaRemittance := true } notes).toOption.map fun paid =>
      { db with
        accounts := db.accounts.modify part.invoiceId fun _ => paid
        made := (t, ⟨part.invoiceId, a.payments.nextKey⟩) :: db.made }

/-- `revertPayment`, with the payments it reverts. -/
def BankDb.revert (db : BankDb) (invoiceId : InvoiceId) (input : RevertPaymentInput)
    (clock : Clock) : Option (BankDb × List PaymentRef) :=
  (db.accounts.find invoiceId).bind fun a =>
    (a.revertPayment clock input).toOption.map fun reopened =>
      ({ db with accounts := db.accounts.modify invoiceId fun _ => reopened },
        (revertedPayments input a.account.livePayments).map fun q => ⟨invoiceId, q.1⟩)

def NotedAccount.cashPaidCents (a : NotedAccount) : ℤ :=
  a.invoice.amountPaid - ((a.payments.values.filter fun p =>
    p.status = .succeeded && p.methodType.nonCash).map fun p => p.amount).sum

/-! ### Writes of a movement -/

def BankDb.update (db : BankDb) (t : MovementId) (f : BankTransaction → BankTransaction) : BankDb :=
  { db with transactions := db.transactions.modify t f }

def BankDb.status (db : BankDb) (t : MovementId) : Option MovementStatus :=
  (db.transactions.find t).map BankTransaction.status

def BankTransaction.claim (status : MovementStatus) (invoiceId : Option InvoiceId) (now : Instant)
    (t : BankTransaction) : BankTransaction :=
  { t with status, matchedInvoiceId := invoiceId, matchedAt := some now }

def BankTransaction.release (t : BankTransaction) : BankTransaction :=
  { t with status := .pending, matchedInvoiceId := none, matchedAt := none }

def BankTransaction.releaseAuto (t : BankTransaction) : BankTransaction :=
  { t.release with autoMatched := false }

/-! ### Requests -/

inductive BankRequest
  | matchTransaction (t : MovementId) (invoiceIds : List InvoiceId)
  | markReturn (t : MovementId) (invoiceId : InvoiceId)
  | ignoreTransaction (t : MovementId)
  | autoMatch (statementIds : List StatementId)
  | undoAutoMatch (t : MovementId)

/-- What an automatic match has still to look at, and the invoices it has used. -/
structure AutoQueue where
  rows : List (MovementId × BankTransaction)
  candidates : List CandidateInvoice
  used : List InvoiceId

structure Undo where
  invoiceId : InvoiceId
  payment : PaymentRef
  amount : ℤ
  matchedAt : Option Instant

inductive BankCall
  | matching (t : MovementId) (invoiceIds : List InvoiceId)
  | planning (t : MovementId) (amount : ℤ) (invoiceIds : List InvoiceId)
  | claiming (t : MovementId) (invoiceId : Option InvoiceId) (plan : List MatchPart)
  | paying (t : MovementId) (part : MatchPart) (plan : List MatchPart) (applied : Bool)
  | releasing (t : MovementId) (status : MovementStatus)
  | returning (t : MovementId) (invoiceId : InvoiceId)
  | readingPaid (t : MovementId) (amount : ℤ) (invoiceId : InvoiceId)
  | claimingReturn (t : MovementId) (invoiceId : InvoiceId) (cents : ℤ)
  | reverting (t : MovementId) (invoiceId : InvoiceId) (cents : ℤ)
  | ignoring (t : MovementId)
  | collecting (statementIds : List StatementId)
  | loadingCandidates (rows : List (MovementId × BankTransaction))
  | autoMatching (queue : AutoQueue)
  | autoPaying (t : MovementId) (part : MatchPart) (queue : AutoQueue)
  | autoFinding (t : MovementId) (invoiceId : InvoiceId) (queue : AutoQueue)
  | autoLinking (t : MovementId) (payment : Option PaymentRef) (queue : AutoQueue)
  | autoReleasing (t : MovementId) (queue : AutoQueue)
  | undoing (t : MovementId)
  | claimingUndo (t : MovementId) (u : Undo)
  | revertingUndo (t : MovementId) (u : Undo)
  | restoring (t : MovementId) (u : Undo)
  | clearing (t : MovementId)

/-- The date, whether the transaction fails, and the invoices in remittances to be confirmed. -/
structure BankInput where
  clock : Clock
  fails : Bool
  inRemittance : InvoiceId → Bool

def enterBank (_ : BankDb) : BankRequest → Option BankCall
  | .matchTransaction t invoiceIds => some (.matching t invoiceIds)
  | .markReturn t invoiceId => some (.returning t invoiceId)
  | .ignoreTransaction t => some (.ignoring t)
  | .autoMatch statementIds => some (.collecting statementIds)
  | .undoAutoMatch t => some (.undoing t)

/-- What a request does when a transaction of it fails, or the invoices refuse. -/
def BankCall.caught : BankCall → Option BankCall
  | .paying t _ _ applied => if applied then none else some (.releasing t .matched)
  | .reverting t _ _ => some (.releasing t .returned)
  | .autoPaying t _ queue | .autoFinding t _ queue | .autoLinking t _ queue =>
    some (.autoReleasing t queue)
  | .revertingUndo t u => some (.restoring t u)
  | _ => none

def byOperationDate (x y : Option Date) : Bool :=
  match x, y with
  | _, none => true
  | none, some _ => false
  | some x, some y => x ≤ y

def payNext (t : MovementId) (applied : Bool) : List MatchPart → Option BankCall
  | [] => none
  | part :: plan => some (.paying t part plan applied)

def commitBank (db : BankDb) (call : BankCall) (input : BankInput) : BankDb × Option BankCall :=
  match call with
  | .matching t invoiceIds =>
    match db.transactions.find t with
    | none => (db, none)
    | some row =>
      if row.status = .matched || row.amount < 0 then (db, none)
      else (db, some (.planning t row.amount invoiceIds.eraseDups))
  | .planning t amount invoiceIds =>
    match invoiceIds.mapM db.pendingOf with
    | none => (db, none)
    | some pending => (db, some (.claiming t invoiceIds.head? (matchPlan amount pending)))
  | .claiming t invoiceId plan =>
    if db.status t = some .pending then
      (db.update t (BankTransaction.claim .matched invoiceId input.clock.now), payNext t false plan)
    else (db, none)
  | .paying t part plan applied =>
    match db.pay t part "Conciliación N43" input.clock with
    | none => (db, (BankCall.paying t part plan applied).caught)
    | some paid => (paid, payNext t true plan)
  | .releasing t status =>
    if db.status t = some status then (db.update t BankTransaction.release, none) else (db, none)
  | .returning t invoiceId =>
    match db.transactions.find t with
    | none => (db, none)
    | some row =>
      if row.status ≠ .pending || row.amount ≥ 0 then (db, none)
      else (db, some (.readingPaid t row.amount invoiceId))
  | .readingPaid t amount invoiceId =>
    match db.accounts.find invoiceId with
    | none => (db, none)
    | some a =>
      (db, some (.claimingReturn t invoiceId (min |amount| (max 0 a.cashPaidCents))))
  | .claimingReturn t invoiceId cents =>
    if db.status t = some .pending then
      (db.update t (BankTransaction.claim .returned (some invoiceId) input.clock.now),
        some (.reverting t invoiceId cents))
    else (db, none)
  | .reverting t invoiceId cents =>
    match db.revert invoiceId ⟨euros cents, none, false⟩ input.clock with
    | none => (db, (BankCall.reverting t invoiceId cents).caught)
    | some (reopened, refs) =>
      ({ reopened with reverted := refs.map (fun ref => (t, ref)) ++ reopened.reverted }, none)
  | .ignoring t =>
    if db.status t = some .pending then
      (db.update t fun row => { row with status := .ignored }, none)
    else (db, none)
  | .collecting statementIds =>
    match (db.transactions.rows.filter fun (_, row) =>
        row.statementId ∈ statementIds && row.status = .pending && row.amount > 0).insertionSort
          fun x y => byOperationDate x.2.operationDate y.2.operationDate with
    | [] => (db, none)
    | rows => (db, some (.loadingCandidates rows))
  | .loadingCandidates rows =>
    (db, some (.autoMatching ⟨rows, loadCandidates db input.inRemittance, []⟩))
  | .autoMatching ⟨[], _, _⟩ => (db, none)
  | .autoMatching ⟨(t, row) :: rows, candidates, used⟩ =>
    match autoHits row candidates used with
    | [invoice] =>
      if positive : 0 < row.amount then
        if db.status t = some .pending then
          (db.update t fun row =>
              { row.claim .matched (some invoice.id) input.clock.now with autoMatched := true },
            some (.autoPaying t ⟨invoice.id, row.amount, positive⟩
              ⟨rows, candidates, invoice.id :: used⟩))
        else (db, some (.autoMatching ⟨rows, candidates, used⟩))
      else (db, some (.autoMatching ⟨rows, candidates, used⟩))
    | _ => (db, some (.autoMatching ⟨rows, candidates, used⟩))
  | .autoPaying t part queue =>
    match db.pay t part autoNotes input.clock with
    | none => (db, (BankCall.autoPaying t part queue).caught)
    | some paid => (paid, some (.autoFinding t part.invoiceId queue))
  | .autoFinding t invoiceId queue =>
    (db, some (.autoLinking t (db.lastAutomatic invoiceId) queue))
  | .autoLinking t payment queue =>
    (db.update t fun row => { row with matchedPaymentId := payment }, some (.autoMatching queue))
  | .autoReleasing t queue =>
    (if db.status t = some .matched then db.update t BankTransaction.releaseAuto else db,
      some (.autoMatching queue))
  | .undoing t =>
    match db.transactions.find t with
    | none => (db, none)
    | some row =>
      match row.matchedInvoiceId, row.matchedPaymentId with
      | some invoiceId, some payment =>
        if row.status = .matched && row.autoMatched then
          (db, some (.claimingUndo t ⟨invoiceId, payment, row.amount, row.matchedAt⟩))
        else (db, none)
      | _, _ => (db, none)
  | .claimingUndo t u =>
    if (db.transactions.find t).any fun row => row.status = .matched && row.autoMatched then
      (db.update t BankTransaction.releaseAuto, some (.revertingUndo t u))
    else (db, none)
  | .revertingUndo t u =>
    if u.payment.invoiceId ≠ u.invoiceId then (db, (BankCall.revertingUndo t u).caught)
    else
      match db.revert u.invoiceId ⟨euros u.amount, some u.payment.paymentId, true⟩ input.clock with
      | none => (db, (BankCall.revertingUndo t u).caught)
      | some (reopened, _) => (reopened, some (.clearing t))
  | .restoring t u =>
    (db.update t fun row =>
      { row with
        status := .matched
        matchedInvoiceId := some u.invoiceId
        matchedAt := u.matchedAt
        autoMatched := true }, none)
  | .clearing t => (db.update t fun row => { row with matchedPaymentId := none }, none)

def nextBank (db : BankDb) (call : BankCall) (input : BankInput) : BankDb × Option BankCall :=
  if input.fails then (db, call.caught) else commitBank db call input

def bankSystem : Processes.System BankDb BankCall BankRequest BankInput where
  enter := enterBank
  next db call input := some (nextBank db call input)

end StorageOS
