import StorageOS.Contracts.Reservations

/-! The credit for the signal of a reservation. The conversion of the reservation credits a signal
that it reads paid; the handler of the payment credits a reservation that it has read converted; the
signature that takes the reservations of its tenant credits nothing. -/

namespace StorageOS

open Transition Processes

structure CreditEntry where
  invoiceId : InvoiceId
  contractId : ContractId
  cents : ℤ
  deriving DecidableEq

/-- The tables, and the credits for signals that have been written so far. -/
structure SignalDb where
  db : RentalDb
  ledger : List CreditEntry
  deriving DecidableEq

inductive SignalRequest
  | pay (invoiceId : InvoiceId)
  | invoicePaid (invoiceId : InvoiceId)
  | create (input : CreateContractInput)
  | convertToContract (id : ReservationId) (input : ConvertReservationInput)
  | sign (id : ContractId)

/-- What a request under way remembers. The handler of a payment claims the reservation it has found
and credits the contract that it has read on it; the conversion reads the reservation, then whether
its signal is paid, and then writes. -/
inductive SignalProcess
  | pay (invoiceId : InvoiceId)
  | claim (invoiceId : InvoiceId) (id : ReservationId) (contractId : Option ContractId)
  | credit (invoiceId : InvoiceId) (contractId : ContractId)
  | create (input : CreateContractInput)
  | readSignal (input : CreateContractInput) (reads : ContractReads)
  | convert (input : CreateContractInput) (reads : ContractReads) (credit : Option SignalCredit)
  | sign (id : ContractId) (existing : Tenancy)
  deriving DecidableEq

def RentalDb.isPaid (db : RentalDb) (id : InvoiceId) : Bool :=
  (db.invoices.find id).any fun invoice => invoice.status = .paid

def RentalDb.unmarked (db : RentalDb) (invoiceId : InvoiceId) :
    Option (ReservationId × Reservation) :=
  db.reservations.rows.find? fun r => r.2.depositInvoiceId = some invoiceId && !r.2.depositPaid

def SignalInvoice.pay (invoice : SignalInvoice) : SignalInvoice :=
  if invoice.status = .issued ∨ invoice.status = .overdue then { invoice with status := .paid }
  else invoice

def Reservation.markPaid (r : Reservation) : Reservation := { r with depositPaid := true }

def Tenancy.addCredit (invoice : SignalInvoice) (c : Tenancy) : Tenancy :=
  { c with
    pendingCreditAmount := c.pendingCreditAmount + invoice.baseCents
    pendingCreditReason := some ("señal " ++ invoice.invoiceNumber) }

/-- The first read of a request. The event of a payment comes after the invoice is paid. -/
def SignalDb.enter (s : SignalDb) : SignalRequest → Option SignalProcess
  | .pay id => some (.pay id)
  | .invoicePaid id =>
    if s.db.isPaid id then
      (s.db.unmarked id).map fun r => .claim id r.1 r.2.convertedContractId
    else none
  | .create input => some (.create input)
  | .convertToContract id input =>
    (s.db.reservations.find id).bind fun existing =>
      (convertInput id existing input).toOption.map .create
  | .sign id => (s.db.findContract id).map (.sign id)

/-- Marks the reservation paid unless another run of the handler has, and goes on to the contract that
was read on it. -/
def SignalDb.claim (s : SignalDb) (invoiceId : InvoiceId) (id : ReservationId)
    (contractId : Option ContractId) : SignalDb × Option SignalProcess :=
  if (s.db.reservations.find id).any fun r => !r.depositPaid then
    ({ s with
        db := { s.db with reservations := s.db.reservations.modify id Reservation.markPaid } },
      contractId.map (.credit invoiceId))
  else (s, none)

/-- Adds the sum without tax of the signal to the credit of the contract. An invoice without a
positive sum adds nothing, and the failure to find the contract is only logged. -/
def SignalDb.credit (s : SignalDb) (invoiceId : InvoiceId) (contractId : ContractId) : SignalDb :=
  match s.db.invoices.find invoiceId, s.db.contracts.find contractId with
  | some invoice, some _ =>
    if invoice.baseCents ≤ 0 then s
    else
      { db := { s.db with
          contracts := s.db.contracts.modify contractId (Tenancy.addCredit invoice) }
        ledger := s.ledger ++ [⟨invoiceId, contractId, invoice.baseCents⟩] }
  | _, _ => s

def creditEntry (contractId : ContractId) (reads : ContractReads) (credit : Option SignalCredit) :
    Option CreditEntry := do
  let read ← reads.reservation
  let invoiceId ← read.2.depositInvoiceId
  let credit ← credit
  some ⟨invoiceId, contractId, credit.amount⟩

/-- The transactions of a request. One that fails is rolled back and ends it. -/
def SignalDb.next (s : SignalDb) (clock : RentalClock) : SignalProcess → SignalDb × Option SignalProcess
  | .pay id =>
    ({ s with db := { s.db with invoices := s.db.invoices.modify id SignalInvoice.pay } }, none)
  | .claim invoiceId id contractId => s.claim invoiceId id contractId
  | .credit invoiceId contractId => (s.credit invoiceId contractId, none)
  | .create input => (s, (readForContract input s.db).toOption.map (.readSignal input))
  | .readSignal input reads => (s, some (.convert input reads (reads.credit s.db)))
  | .convert input reads credit =>
    ({ db := writeContract clock input reads credit s.db
       ledger := s.ledger ++ (creditEntry s.db.contracts.nextKey reads credit).toList }, none)
  | .sign id existing =>
    ({ s with db := (StorageOS.sign clock id existing s.db).toOption.getD s.db }, none)

def signals : Processes.System SignalDb SignalProcess SignalRequest RentalClock where
  enter := SignalDb.enter
  next s process clock := some (s.next clock process)

def Reservation.ownOf (existing : Tenancy) (r : Reservation) : Bool :=
  r.unitId = existing.unitId && r.isOpen && r.customerId = some existing.customerId

/-- A conversion credits its signal exactly when the reservation is marked paid, a signature takes
reservations that are not, and the handler that marks a reservation has read its contract. -/
def creditedOnce (s : SignalDb) : SignalProcess → RentalClock → Prop
  | .convert _ reads credit, _ => ∀ read ∈ reads.reservation, ∀ r ∈ s.db.reservations.find read.1,
      r.convertedContractId = none ∧
        (r.depositInvoiceId.isSome = true → credit.isSome = r.depositPaid)
  | .sign _ existing, _ => ∀ r ∈ s.db.reservations.rows, r.2.ownOf existing = true →
      r.2.depositInvoiceId.isSome = true → r.2.depositPaid = false
  | .claim _ id contractId, _ => ∀ r ∈ s.db.reservations.find id, r.depositPaid = false →
      r.convertedContractId = contractId
  | .pay _, _ => True
  | .credit _ _, _ => True
  | .create _, _ => True
  | .readSignal _ _, _ => True

/-- The credit of a contract, nothing for one that does not exist. -/
def RentalDb.creditAt (db : RentalDb) (id : ContractId) : ℤ :=
  ((db.contracts.find id).map fun c => c.pendingCreditAmount).getD 0

def SignalDb.creditedFor (s : SignalDb) (invoiceId : InvoiceId) : List ContractId :=
  (s.ledger.filter fun e => e.invoiceId = invoiceId).map CreditEntry.contractId

def SignalDb.credits (s : SignalDb) (id : ContractId) : ℤ :=
  ((s.ledger.filter fun e => e.contractId = id).map CreditEntry.cents).sum

/-- What a transaction leaves of the reservations that have a signal: the signal, that it is marked,
and the contract they became; invoices keep their lines and stay paid, and contracts stay. -/
structure Follows (db db' : RentalDb) : Prop where
  reservation : ∀ k r, db.reservations.find k = some r → ∃ r', db'.reservations.find k = some r' ∧
    r'.depositInvoiceId = r.depositInvoiceId ∧ (r.depositPaid = true → r'.depositPaid = true) ∧
    ∀ c, r.depositInvoiceId.isSome = true → r.convertedContractId = some c →
      r'.convertedContractId = some c
  known : ∀ k r', db'.reservations.find k = some r' → ∃ r, db.reservations.find k = some r
  invoice : ∀ i invoice, db.invoices.find i = some invoice → ∃ invoice',
    db'.invoices.find i = some invoice' ∧ invoice'.baseCents = invoice.baseCents
  paid : ∀ i, db.isPaid i = true → db'.isPaid i = true
  contract : ∀ k c, db.contracts.find k = some c → ∃ c', db'.contracts.find k = some c'

/-- Signals have a positive base and belong to one reservation each; they are marked paid after they
are paid; a reservation that is open has not become a contract, and one that has names it. -/
structure SignalsSound (db : RentalDb) : Prop where
  positive : ∀ k r i, db.reservations.find k = some r → r.depositInvoiceId = some i →
    ∃ invoice, db.invoices.find i = some invoice ∧ 0 < invoice.baseCents
  distinct : ∀ k k' r r' i, db.reservations.find k = some r → db.reservations.find k' = some r' →
    r.depositInvoiceId = some i → r'.depositInvoiceId = some i → k = k'
  marked : ∀ k r i, db.reservations.find k = some r → r.depositInvoiceId = some i →
    r.depositPaid = true → db.isPaid i = true
  unconverted : ∀ k r, db.reservations.find k = some r → r.depositInvoiceId.isSome = true →
    r.isOpen = true → r.convertedContractId = none
  pointer : ∀ k r c, db.reservations.find k = some r → r.depositInvoiceId.isSome = true →
    r.convertedContractId = some c → ∃ t, db.contracts.find c = some t

def ReadSignal (s : SignalDb) : SignalProcess → Prop
  | .claim invoiceId id _ => s.db.isPaid invoiceId = true ∧
      ∃ r, s.db.reservations.find id = some r ∧ r.depositInvoiceId = some invoiceId
  | .credit invoiceId contractId => ∃ k r, s.db.reservations.find k = some r ∧
      r.depositInvoiceId = some invoiceId ∧ r.convertedContractId = some contractId
  | .readSignal _ reads => ∀ read ∈ reads.reservation, ∃ r,
      s.db.reservations.find read.1 = some r ∧ r.depositInvoiceId = read.2.depositInvoiceId
  | .convert _ reads credit =>
      (∀ read ∈ reads.reservation, ∃ r, s.db.reservations.find read.1 = some r ∧
        r.depositInvoiceId = read.2.depositInvoiceId) ∧
      ∀ c ∈ credit, ∃ read i invoice, reads.reservation = some read ∧
        read.2.depositInvoiceId = some i ∧ s.db.invoices.find i = some invoice ∧
        c.amount = invoice.baseCents
  | .pay _ => True
  | .create _ => True
  | .sign _ _ => True

/-- The credit that a request under way is about to write for a signal. -/
def SignalProcess.credits (invoiceId : InvoiceId) : SignalProcess → Option ContractId
  | .credit i contractId => if i = invoiceId then some contractId else none
  | _ => none

def Reservation.credited (r : Reservation) : List ContractId :=
  if r.depositPaid then r.convertedContractId.toList else []

/-- For every signal, what has been credited and what is about to be is what is due. -/
def CreditsDue (s : State SignalDb SignalProcess) : Prop :=
  ∀ k r i, s.db.db.reservations.find k = some r → r.depositInvoiceId = some i →
    (s.db.creditedFor i ++ s.running.filterMap (SignalProcess.credits i)).Perm r.credited

/-- The credits written are the sums of their signals, and the credit of every contract. -/
structure LedgerSound (start : RentalDb) (s : SignalDb) : Prop where
  amounts : ∀ e ∈ s.ledger, ∃ invoice, s.db.invoices.find e.invoiceId = some invoice ∧
    e.cents = invoice.baseCents
  sums : ∀ k, s.db.creditAt k = start.creditAt k + s.credits k

section

variable {s s' : SignalDb} {db db' : RentalDb} {clock : RentalClock} {process : SignalProcess}
  {rest : Option SignalProcess}

theorem ReadSignal.follows {ledger : List CreditEntry} (h : Follows s.db db')
    (read : ReadSignal s process) : ReadSignal ⟨db', ledger⟩ process := by
  cases process with
  | pay id => trivial
  | create input => trivial
  | sign id existing => trivial
  | claim invoiceId id contractId =>
    obtain ⟨paid, r, found, signal⟩ := read
    obtain ⟨r', found', same, -⟩ := h.reservation id r found
    exact ⟨h.paid _ paid, r', found', same.trans signal⟩
  | credit invoiceId contractId =>
    obtain ⟨k, r, found, signal, converted⟩ := read
    obtain ⟨r', found', same, -, kept⟩ := h.reservation k r found
    exact ⟨k, r', found', same.trans signal, kept _ (by simp [signal]) converted⟩
  | readSignal input reads =>
    intro row mem
    obtain ⟨r, found, signal⟩ := read row mem
    obtain ⟨r', found', same, -⟩ := h.reservation _ r found
    exact ⟨r', found', same.trans signal⟩
  | convert input reads credit =>
    refine ⟨fun row mem => ?_, fun c mem => ?_⟩
    · obtain ⟨r, found, signal⟩ := read.1 row mem
      obtain ⟨r', found', same, -⟩ := h.reservation _ r found
      exact ⟨r', found', same.trans signal⟩
    · obtain ⟨row, i, invoice, hrow, signal, found, amount⟩ := read.2 c mem
      obtain ⟨invoice', found', base⟩ := h.invoice i invoice found
      exact ⟨row, i, invoice', hrow, signal, found', amount.trans base.symm⟩

theorem SignalsSound.follows (sound : SignalsSound db) (h : Follows db db')
    (marked : ∀ k r i, db'.reservations.find k = some r → r.depositInvoiceId = some i →
      r.depositPaid = true → db'.isPaid i = true)
    (unconverted : ∀ k r, db'.reservations.find k = some r → r.depositInvoiceId.isSome = true →
      r.isOpen = true → r.convertedContractId = none)
    (pointer : ∀ k r c, db'.reservations.find k = some r → r.depositInvoiceId.isSome = true →
      r.convertedContractId = some c → ∃ t, db'.contracts.find c = some t) :
    SignalsSound db' := by
  have back : ∀ {k r'}, db'.reservations.find k = some r' →
      ∃ r, db.reservations.find k = some r ∧ r'.depositInvoiceId = r.depositInvoiceId := by
    intro k r' found'
    obtain ⟨r, found⟩ := h.known k r' found'
    obtain ⟨r'', found'', same, -⟩ := h.reservation k r found
    rw [found'] at found''
    cases found''
    exact ⟨r, found, same⟩
  refine ⟨?_, ?_, marked, unconverted, pointer⟩
  · intro k r' i found' signal
    obtain ⟨r, found, same⟩ := back found'
    obtain ⟨invoice, row, positive⟩ := sound.positive k r i found (same.symm.trans signal)
    obtain ⟨invoice', row', base⟩ := h.invoice i invoice row
    exact ⟨invoice', row', by omega⟩
  · intro k k' r r' i found found' signal signal'
    obtain ⟨r₀, found₀, same⟩ := back found
    obtain ⟨r₁, found₁, same'⟩ := back found'
    exact sound.distinct k k' r₀ r₁ i found₀ found₁ (same.symm.trans signal)
      (same'.symm.trans signal')

/-! ### What a transaction keeps -/

theorem SignalsSound.same (sound : SignalsSound db) (h : Follows db db')
    (same : db'.reservations = db.reservations) : SignalsSound db' := by
  apply sound.follows h
  · intro k r i found signal marked
    rw [same] at found
    exact h.paid i (sound.marked k r i found signal marked)
  · intro k r found
    rw [same] at found
    exact sound.unconverted k r found
  · intro k r c found signal converted
    rw [same] at found
    obtain ⟨t, row⟩ := sound.pointer k r c found signal converted
    exact h.contract c t row

variable {start : RentalDb}

theorem LedgerSound.follows (sound : LedgerSound start s) (h : Follows s.db db')
    (credit : ∀ k, db'.creditAt k = s.db.creditAt k) : LedgerSound start ⟨db', s.ledger⟩ := by
  refine ⟨fun e mem => ?_, fun k => (credit k).trans (sound.sums k)⟩
  obtain ⟨invoice, found, cents⟩ := sound.amounts e mem
  obtain ⟨invoice', found', base⟩ := h.invoice _ invoice found
  exact ⟨invoice', found', cents.trans base.symm⟩

variable {id : ContractId} {i : InvoiceId} {input : CreateContractInput} {reads : ContractReads}
  {taken : ReservationId → Reservation → Bool} {d : Tenancy} {existing : Tenancy}

theorem creditAt_modify {f : Tenancy → Tenancy} {x : ℤ} {c : Tenancy}
    (contracts : db'.contracts = db.contracts.modify id f) (stored : db.contracts.find id = some c)
    (changed : (f c).pendingCreditAmount = c.pendingCreditAmount + x) (k : ContractId) :
    db'.creditAt k = db.creditAt k + if k = id then x else 0 := by
  unfold RentalDb.creditAt
  rw [contracts]
  by_cases same : k = id
  · subst same
    simp [stored, changed]
  · simp [Table.find_modify_ne _ same, same]

theorem credits_append (entries : List CreditEntry) (k : ContractId) :
    (SignalDb.mk db' (s.ledger ++ entries)).credits k =
      s.credits k + ((entries.filter fun e => e.contractId = k).map CreditEntry.cents).sum := by
  simp [SignalDb.credits]

theorem creditedFor_append (entries : List CreditEntry) (i : InvoiceId) :
    (SignalDb.mk db' (s.ledger ++ entries)).creditedFor i = s.creditedFor i ++
      (entries.filter fun e => e.invoiceId = i).map CreditEntry.contractId := by
  simp [SignalDb.creditedFor]

/-- What a transaction of a request keeps, and what it leaves to the rest of the request. -/
structure SignalsKept (start : RentalDb) (s : SignalDb) (process : SignalProcess) (s' : SignalDb)
    (rest : Option SignalProcess) : Prop where
  follows : Follows s.db s'.db
  sound : SignalsSound s'.db
  ledger : LedgerSound start s'
  read : ∀ r ∈ rest, ReadSignal s' r
  due : ∀ k r' i, s'.db.reservations.find k = some r' → r'.depositInvoiceId = some i →
    ∃ r added, s.db.reservations.find k = some r ∧ r.depositInvoiceId = some i ∧
      s'.creditedFor i = s.creditedFor i ++ added ∧
      (added ++ (rest.bind (SignalProcess.credits i)).toList ++ r.credited).Perm
        ((process.credits i).toList ++ r'.credited)

/-- A transaction pays what it adds out of what its request was about to credit. -/
theorem CreditsDue.step {running : List SignalProcess} {i : ℕ} (due : CreditsDue ⟨s, running⟩)
    (found : running[i]? = some process) (kept : SignalsKept start s process s' rest) :
    CreditsDue ⟨s', resume running i rest⟩ := by
  intro k r' invoiceId row signal
  obtain ⟨r, added, before, signal', written, balance⟩ := kept.due k r' invoiceId row signal
  have moved := filterMap_resume (SignalProcess.credits invoiceId) found rest
  have owed := due k r invoiceId before signal'
  rw [← List.perm_append_left_iff (process.credits invoiceId).toList]
  change ((process.credits invoiceId).toList ++ (s'.creditedFor invoiceId ++ _)).Perm _
  rw [written]
  refine List.Perm.trans ?_ balance
  rw [List.perm_iff_count] at moved owed ⊢
  intro contractId
  have moved := moved contractId
  have owed := owed contractId
  simp only [List.count_append] at moved owed ⊢
  omega

theorem isPaid_iff :
    db.isPaid i = true ↔ ∃ invoice, db.invoices.find i = some invoice ∧ invoice.status = .paid := by
  simp [RentalDb.isPaid, Option.any_eq_true]

theorem Follows.same (reservations : db'.reservations = db.reservations)
    (invoice : ∀ i invoice, db.invoices.find i = some invoice → ∃ invoice',
      db'.invoices.find i = some invoice' ∧ invoice'.baseCents = invoice.baseCents ∧
        (invoice.status = .paid → invoice'.status = .paid))
    (contract : ∀ k c, db.contracts.find k = some c → ∃ c', db'.contracts.find k = some c') :
    Follows db db' := by
  refine ⟨?_, ?_, ?_, ?_, contract⟩
  · intro k r found
    exact ⟨r, by rw [reservations, found], rfl, fun paid => paid, fun _ _ converted => converted⟩
  · intro k r found
    exact ⟨r, by rw [← reservations, found]⟩
  · intro i row found
    obtain ⟨row', found', base, -⟩ := invoice i row found
    exact ⟨row', found', base⟩
  · intro i paid
    obtain ⟨row, found, status⟩ := isPaid_iff.mp paid
    obtain ⟨row', found', -, kept⟩ := invoice i row found
    exact isPaid_iff.mpr ⟨row', found', kept status⟩

theorem Follows.refl (db : RentalDb) : Follows db db :=
  .same rfl (fun _ row found => ⟨row, found, rfl, fun status => status⟩) fun _ c found => ⟨c, found⟩

theorem SignalsKept.same (sound : SignalsSound s.db) (ledger : LedgerSound start s) (h : Follows s.db db')
    (reservations : db'.reservations = s.db.reservations) (credit : ∀ k, db'.creditAt k = s.db.creditAt k)
    (pending : ∀ i, process.credits i = none) (after : ∀ r ∈ rest, ReadSignal ⟨db', s.ledger⟩ r)
    (restPending : ∀ i, rest.bind (SignalProcess.credits i) = none) :
    SignalsKept start s process ⟨db', s.ledger⟩ rest := by
  refine ⟨h, sound.same h reservations, ledger.follows h credit, after, ?_⟩
  intro k r i found signal
  rw [reservations] at found
  refine ⟨r, [], found, signal, by simp [SignalDb.creditedFor], ?_⟩
  simp [pending, restPending]

theorem pay_kept {id : InvoiceId} (sound : SignalsSound s.db) (ledger : LedgerSound start s) :
    SignalsKept start s (.pay id) (s.next clock (.pay id)).1 (s.next clock (.pay id)).2 := by
  have follows : Follows s.db
      { s.db with invoices := s.db.invoices.modify id SignalInvoice.pay } := by
    refine Follows.same rfl (fun i invoice found => ?_) fun k c found => ⟨c, found⟩
    refine Table.exists_find_modify found (fun _ => ?_) ⟨rfl, fun status => status⟩
    unfold SignalInvoice.pay
    split
    · exact ⟨rfl, fun _ => rfl⟩
    · exact ⟨rfl, fun status => status⟩
  exact .same sound ledger follows rfl (fun _ => rfl) (fun _ => rfl) (by simp [SignalDb.next])
    fun _ => rfl

theorem readReservation_found {read : ReservationId × Reservation} (h : readReservation input db = .ok (some read)) :
    db.reservations.find read.1 = some read.2 := by
  unfold readReservation at h
  split at h
  · cases h
  · obtain ⟨r, found, h⟩ := Outcome.bind_ok h
    obtain ⟨_, -, h⟩ := Outcome.bind_ok h
    cases h
    exact (Option.filter_eq_some_iff.mp (orFail_ok found)).1

theorem create_kept (sound : SignalsSound s.db) (ledger : LedgerSound start s) :
    SignalsKept start s (.create input) (s.next clock (.create input)).1
      (s.next clock (.create input)).2 := by
  apply SignalsKept.same sound ledger (.refl s.db) rfl (fun _ => rfl) (fun _ => rfl)
  · intro r mem
    obtain ⟨reads, made, rfl⟩ := Option.map_eq_some_iff.mp mem
    intro read mem
    have stored := readForContract_ok (Outcome.ok_of_toOption made)
    rw [mem] at stored
    exact ⟨read.2, readReservation_found stored, rfl⟩
  · intro i
    cases h : (readForContract input s.db).toOption <;> simp [SignalDb.next, h, SignalProcess.credits]

theorem signalCredit_some {invoiceId : Option InvoiceId} {c : SignalCredit}
    (h : signalCredit db invoiceId = some c) : ∃ i invoice, invoiceId = some i ∧
      db.invoices.find i = some invoice ∧ invoice.status = .paid ∧ c.amount = invoice.baseCents := by
  unfold signalCredit at h
  simp only [Option.bind_eq_bind, Option.bind_eq_some_iff, Option.filter_eq_some_iff] at h
  obtain ⟨i, hi, invoice, ⟨found, paid⟩, h⟩ := h
  split at h
  · cases h
  · cases h
    exact ⟨i, invoice, hi, found, by simpa using paid, rfl⟩

theorem readSignal_kept (sound : SignalsSound s.db) (ledger : LedgerSound start s)
    (read : ReadSignal s (.readSignal input reads)) :
    SignalsKept start s (.readSignal input reads) (s.next clock (.readSignal input reads)).1
      (s.next clock (.readSignal input reads)).2 := by
  apply SignalsKept.same sound ledger (.refl s.db) rfl (fun _ => rfl) (fun _ => rfl) _
    fun _ => rfl
  intro r mem
  cases mem
  refine ⟨read, fun c credited => ?_⟩
  obtain ⟨row, hrow, credited⟩ := Option.bind_eq_some_iff.mp credited
  obtain ⟨i, invoice, signal, found, -, amount⟩ := signalCredit_some credited
  exact ⟨row, i, invoice, hrow, signal, found, amount⟩

theorem claim_kept {id : ReservationId} {contractId : Option ContractId} (sound : SignalsSound s.db)
    (ledger : LedgerSound start s) (read : ReadSignal s (.claim i id contractId))
    (fits : creditedOnce s (.claim i id contractId) clock) :
    SignalsKept start s (.claim i id contractId) (s.next clock (.claim i id contractId)).1
      (s.next clock (.claim i id contractId)).2 := by
  obtain ⟨paid, r, found, signal⟩ := read
  cases unmarked : r.depositPaid with
  | true =>
    have lost : s.next clock (.claim i id contractId) = (s, none) := by
      simp [SignalDb.next, SignalDb.claim, found, unmarked]
    rw [lost]
    exact .same sound ledger (.refl s.db) rfl (fun _ => rfl) (fun _ => rfl) (by simp) fun _ => rfl
  | false =>
    have won : s.next clock (.claim i id contractId) = ({ s with
        db := { s.db with reservations := s.db.reservations.modify id Reservation.markPaid } },
        contractId.map (.credit i)) := by
      simp [SignalDb.next, SignalDb.claim, found, unmarked]
    have current : r.convertedContractId = contractId := fits r found unmarked
    have follows : Follows s.db
        { s.db with reservations := s.db.reservations.modify id Reservation.markPaid } := by
      refine ⟨fun k r' found' => ?_, fun k r' found' => ?_, fun i invoice row => ⟨invoice, row, rfl⟩,
        fun i paid => paid, fun k c row => ⟨c, row⟩⟩
      · exact Table.exists_find_modify found' (fun _ => ⟨rfl, fun _ => rfl, fun _ _ converted => converted⟩)
          ⟨rfl, fun paid => paid, fun _ _ converted => converted⟩
      · rcases Table.find_modify_cases found' with ⟨-, before⟩ | ⟨rfl, before, row, -⟩
        · exact ⟨r', before⟩
        · exact ⟨before, row⟩
    rw [won]
    refine ⟨follows, sound.follows follows ?_ ?_ ?_, ledger.follows follows fun _ => rfl, ?_, ?_⟩
    · intro k r' j found' signal' marked
      rcases Table.find_modify_cases found' with ⟨-, before⟩ | ⟨rfl, before, row, rfl⟩
      · exact sound.marked k r' j before signal' marked
      · rw [found] at row
        cases row
        rw [show i = j from Option.some.inj (signal.symm.trans signal')] at paid
        exact paid
    · intro k r' found' signal' isOpen
      rcases Table.find_modify_cases found' with ⟨-, before⟩ | ⟨rfl, before, row, rfl⟩
      · exact sound.unconverted k r' before signal' isOpen
      · exact sound.unconverted k before row signal' isOpen
    · intro k r' c found' signal' converted
      rcases Table.find_modify_cases found' with ⟨-, before⟩ | ⟨rfl, before, row, rfl⟩
      · exact sound.pointer k r' c before signal' converted
      · exact sound.pointer k before c row signal' converted
    · intro next mem
      obtain ⟨c, given, rfl⟩ := Option.map_eq_some_iff.mp mem
      exact ⟨id, r.markPaid, by simp [found], signal, current.trans given⟩
    · intro k r' j found' signal'
      rcases Table.find_modify_cases found' with ⟨other, before⟩ | ⟨rfl, before, row, rfl⟩
      · refine ⟨r', [], before, signal', by simp [SignalDb.creditedFor], ?_⟩
        have apart : i ≠ j := by
          rintro rfl
          exact other (sound.distinct k id r' r i before found signal' signal)
        cases contractId <;> simp [SignalProcess.credits, apart]
      · rw [found] at row
        cases row
        refine ⟨r, [], found, signal', by simp [SignalDb.creditedFor], ?_⟩
        have same : i = j := Option.some.inj (signal.symm.trans signal')
        subst same
        cases contractId <;>
          simp [SignalProcess.credits, Reservation.credited, unmarked, Reservation.markPaid, current]

theorem credit_kept {contractId : ContractId} (sound : SignalsSound s.db) (ledger : LedgerSound start s)
    (read : ReadSignal s (.credit i contractId)) :
    SignalsKept start s (.credit i contractId) (s.next clock (.credit i contractId)).1
      (s.next clock (.credit i contractId)).2 := by
  obtain ⟨k, r, found, signal, converted⟩ := read
  obtain ⟨invoice, invoiced, positive⟩ := sound.positive k r i found signal
  obtain ⟨c, stored⟩ := sound.pointer k r contractId found (by simp [signal]) converted
  have written : s.next clock (.credit i contractId) = ({
      db := { s.db with contracts := s.db.contracts.modify contractId (Tenancy.addCredit invoice) }
      ledger := s.ledger ++ [⟨i, contractId, invoice.baseCents⟩] }, none) := by
    simp [SignalDb.next, SignalDb.credit, invoiced, stored, Int.not_le.mpr positive]
  have follows : Follows s.db
      { s.db with contracts := s.db.contracts.modify contractId (Tenancy.addCredit invoice) } := by
    refine Follows.same rfl (fun j row found => ⟨row, found, rfl, fun status => status⟩) fun k c row => ?_
    exact (Table.exists_find_modify row (fun _ => trivial) trivial).imp fun _ => And.left
  rw [written]
  refine ⟨follows, sound.same follows rfl, ⟨fun e mem => ?_, fun k => ?_⟩, by simp, ?_⟩
  · rcases List.mem_append.mp mem with mem | mem
    · exact ledger.amounts e mem
    · rw [List.mem_singleton.mp mem]
      exact ⟨invoice, invoiced, rfl⟩
  · rw [credits_append, creditAt_modify rfl stored rfl, ledger.sums k]
    by_cases same : contractId = k
    · simp [same, add_assoc]
    · simp [same, Ne.symm same]
  · intro k' r' j found' signal'
    refine ⟨r', _, found', signal', creditedFor_append _ j, ?_⟩
    by_cases same : i = j <;> simp [SignalProcess.credits, same]

/-- A transaction that converts reservations into one contract, where none with a signal has been
converted before. -/
structure Converts (db db' : RentalDb) (id : ContractId) (taken : ReservationId → Reservation → Bool) :
    Prop where
  rows : ∀ k, db'.reservations.find k = (db.reservations.find k).map fun r =>
    if taken k r then r.convertedTo id else r
  fresh : ∀ k r, db.reservations.find k = some r → taken k r = true →
    r.depositInvoiceId.isSome = true → r.convertedContractId = none
  invoices : db'.invoices = db.invoices
  contract : ∀ k c, db.contracts.find k = some c → ∃ c', db'.contracts.find k = some c'
  stored : ∃ c, db'.contracts.find id = some c

theorem Converts.before (h : Converts db db' id taken) {k : ReservationId} {r' : Reservation}
    (found : db'.reservations.find k = some r') : ∃ r, db.reservations.find k = some r ∧
      r' = (if taken k r then r.convertedTo id else r) ∧
      r'.depositInvoiceId = r.depositInvoiceId ∧ r'.depositPaid = r.depositPaid := by
  rw [h.rows, Option.map_eq_some_iff] at found
  obtain ⟨r, found, rfl⟩ := found
  refine ⟨r, found, rfl, ?_⟩
  split <;> exact ⟨rfl, rfl⟩

theorem Converts.follows (h : Converts db db' id taken) : Follows db db' := by
  refine ⟨?_, ?_, fun i invoice row => ⟨invoice, by rw [h.invoices, row], rfl⟩,
    fun i paid => by simpa only [RentalDb.isPaid, h.invoices] using paid, h.contract⟩
  · intro k r found
    refine ⟨_, by rw [h.rows, found, Option.map_some], ?_⟩
    split
    · rename_i taken
      refine ⟨rfl, fun paid => paid, fun c signal converted => ?_⟩
      rw [h.fresh k r found taken signal] at converted
      cases converted
    · exact ⟨rfl, fun paid => paid, fun _ _ converted => converted⟩
  · intro k r' found
    obtain ⟨r, found, -⟩ := h.before found
    exact ⟨r, found⟩

theorem Converts.sound (sound : SignalsSound db) (h : Converts db db' id taken) : SignalsSound db' := by
  apply sound.follows h.follows
  · intro k r' i found signal marked
    obtain ⟨r, found, -, same, paid⟩ := h.before found
    exact h.follows.paid i (sound.marked k r i found (same ▸ signal) (paid ▸ marked))
  · intro k r' found signal isOpen
    obtain ⟨r, before, rfl, -⟩ := h.before found
    split_ifs at signal isOpen ⊢
    · simp [Reservation.isOpen, Reservation.convertedTo] at isOpen
    · exact sound.unconverted k r before signal isOpen
  · intro k r' c found signal converted
    obtain ⟨r, before, rfl, -⟩ := h.before found
    split_ifs at signal converted
    · cases converted
      exact h.stored
    · obtain ⟨t, row⟩ := sound.pointer k r c before signal converted
      exact h.contract c t row

theorem creditAt_push (contracts : db'.contracts = db.contracts.push d) (fresh : d.pendingCreditAmount = 0)
    (k : ContractId) : db'.creditAt k = db.creditAt k := by
  unfold RentalDb.creditAt
  rw [contracts, Table.find_push]
  split
  · rename_i new
    rw [new, Table.find_nextKey]
    exact fresh
  · rfl

@[simp] theorem creditAt_markConverted (id : ReservationId) (contractId k : ContractId) :
    (db.markConverted id contractId).creditAt k = db.creditAt k := rfl

theorem creditAt_setCredit (stored : db.contracts.find id = some d) (fresh : d.pendingCreditAmount = 0)
    (credit : SignalCredit) (k : ContractId) :
    (db.setCredit id credit).creditAt k = db.creditAt k + if k = id then credit.amount else 0 := by
  unfold RentalDb.creditAt RentalDb.setCredit
  by_cases same : k = id
  · subst same
    simp [stored, fresh]
  · simp [Table.find_modify_ne _ same, same]

variable {credit : Option SignalCredit}

theorem creditAt_convertReservation {reservation : Option (ReservationId × Reservation)}
    (stored : db.contracts.find id = some d) (fresh : d.pendingCreditAmount = 0) (k : ContractId) :
    (convertReservation id reservation credit db).creditAt k = db.creditAt k +
      if k = id then ((reservation.bind fun _ => credit).map SignalCredit.amount).getD 0 else 0 := by
  unfold convertReservation
  cases reservation with
  | none => simp
  | some row =>
    cases credit with
    | none => simp
    | some credit =>
      have stored : (db.markConverted row.1 id).contracts.find id = some d := stored
      simpa using creditAt_setCredit stored fresh credit k

theorem creditAt_writeContract (k : ContractId) :
    (writeContract clock input reads credit db).creditAt k = db.creditAt k +
      if k = db.contracts.nextKey then
        ((reads.reservation.bind fun _ => credit).map SignalCredit.amount).getD 0
      else 0 := by
  have fresh : (draftContract clock.today reads.customer reads.facility input).pendingCreditAmount
      = 0 := rfl
  unfold writeContract
  rw [creditAt_convertReservation (by rw [convertWaitlistEntry_contracts, Table.find_push, if_pos rfl])
    fresh, creditAt_push convertWaitlistEntry_contracts fresh]

theorem convert_converts (fits : creditedOnce s (.convert input reads credit) clock) :
    Converts s.db (writeContract clock input reads credit s.db) s.db.contracts.nextKey
      fun k _ => reads.reservation.any fun row => row.1 = k := by
  refine ⟨fun k => ?_, fun k r found taken _ => ?_, writeContract_invoices,
    fun k c row => ⟨c, find_writeContract row⟩, ?_⟩
  · rw [writeContract_reservations]
    cases reads.reservation with
    | none => simp
    | some row =>
      by_cases same : k = row.1
      · simp [same]
      · simp [Table.find_modify_ne _ same, Ne.symm same]
  · obtain ⟨row, hrow, rfl⟩ : ∃ row, reads.reservation = some row ∧ row.1 = k := by
      simpa [Option.any_eq_true] using taken
    exact (fits row hrow r found).1
  · exact writeContract_stored

theorem sign_converts (sound : SignalsSound s.db) (h : StorageOS.sign clock id existing s.db = .ok db') :
    Converts s.db db' id fun _ r => r.ownOf existing := by
  obtain ⟨-, _, facility, -, -, -, -, updated, -, reservations, -, invoices⟩ := sign_ok h
  refine ⟨fun k => ?_, fun k r found taken signal => ?_, invoices, fun k c row => ?_, ?_⟩
  · rw [reservations, RentalDb.convertOwnReservations, Table.find_updateMany]
    rfl
  · simp only [Reservation.ownOf, Bool.and_eq_true] at taken
    exact sound.unconverted k r found signal taken.1.2
  · rw [updated.contracts]
    exact (Table.exists_find_modify row (fun _ => trivial) trivial).imp fun _ => And.left
  · obtain ⟨c, row⟩ := updated.stored
    exact ⟨existing.signed facility c, by simp [updated.contracts, row]⟩

theorem sign_creditAt (h : StorageOS.sign clock id existing db = .ok db') (k : ContractId) :
    db'.creditAt k = db.creditAt k := by
  obtain ⟨-, _, facility, -, -, -, -, updated, -⟩ := sign_ok h
  obtain ⟨c, stored⟩ := updated.stored
  have := creditAt_modify (x := 0) updated.contracts stored (by simp [Tenancy.signed]) k
  simpa using this

theorem creditEntry_some {c : SignalCredit} {row : ReservationId × Reservation} (found : reads.reservation = some row)
    (signal : row.2.depositInvoiceId = some i) :
    creditEntry id reads (some c) = some ⟨i, id, c.amount⟩ := by
  simp [creditEntry, found, signal]

theorem creditEntry_none :
    creditEntry id reads none = none := by
  simp only [creditEntry, Option.bind_eq_bind, Option.bind_none, Option.bind_fun_none]

theorem convert_kept (sound : SignalsSound s.db) (ledger : LedgerSound start s)
    (read : ReadSignal s (.convert input reads credit)) (fits : creditedOnce s (.convert input reads credit) clock) :
    SignalsKept start s (.convert input reads credit)
      (s.next clock (.convert input reads credit)).1
      (s.next clock (.convert input reads credit)).2 := by
  have converts := convert_converts fits
  have made : s.next clock (.convert input reads credit) =
      ({ db := writeContract clock input reads credit s.db
         ledger := s.ledger ++ (creditEntry s.db.contracts.nextKey reads credit).toList }, none) := rfl
  rw [made]
  refine ⟨converts.follows, converts.sound sound, ⟨fun e mem => ?_, fun k => ?_⟩, by simp, ?_⟩
  · rw [writeContract_invoices]
    rcases List.mem_append.mp mem with mem | mem
    · exact ledger.amounts e mem
    · cases credit with
      | none => simp [creditEntry_none] at mem
      | some c =>
        obtain ⟨row, i, invoice, hrow, signal, found, amount⟩ := read.2 c rfl
        rw [creditEntry_some hrow signal] at mem
        obtain rfl : e = _ := by simpa using mem
        exact ⟨invoice, found, amount⟩
  · rw [credits_append, creditAt_writeContract, ledger.sums k]
    cases credit with
    | none => simp [creditEntry_none]
    | some c =>
      obtain ⟨row, i, invoice, hrow, signal, -⟩ := read.2 c rfl
      rw [creditEntry_some hrow signal, hrow]
      by_cases same : k = s.db.contracts.nextKey
      · simp [same, add_assoc]
      · simp [same, Ne.symm same]
  · intro k r' j found' signal'
    obtain ⟨r, found, rfl, same, marked⟩ := converts.before found'
    rw [same] at signal'
    refine ⟨r, _, found, signal', creditedFor_append _ j, ?_⟩
    split
    · rename_i taken
      obtain ⟨row, hrow, rfl⟩ : ∃ row, reads.reservation = some row ∧ row.1 = k := by
        simpa [Option.any_eq_true] using taken
      obtain ⟨fresh, paid⟩ := fits row hrow r found
      have paid := paid (by simp [signal'])
      obtain ⟨r₁, found₁, signal₁⟩ := read.1 row hrow
      obtain rfl : r₁ = r := Option.some.inj (found₁.symm.trans found)
      cases credit with
      | none =>
        have unpaid : r₁.depositPaid = false := by simpa using paid.symm
        simp [creditEntry_none, SignalProcess.credits, Reservation.credited, unpaid,
          Reservation.convertedTo]
      | some c =>
        have paid : r₁.depositPaid = true := by simpa using paid.symm
        rw [creditEntry_some hrow (signal₁.symm.trans signal')]
        simp [SignalProcess.credits, Reservation.credited, paid, fresh, Reservation.convertedTo]
    · rename_i taken
      cases credit with
      | none => simp [creditEntry_none, SignalProcess.credits]
      | some c =>
        obtain ⟨row, i, invoice, hrow, signal, -⟩ := read.2 c rfl
        obtain ⟨r₁, found₁, signal₁⟩ := read.1 row hrow
        have apart : i ≠ j := by
          rintro rfl
          have here := sound.distinct row.1 k r₁ r i found₁ found (signal₁.trans signal) signal'
          simp [hrow, here] at taken
        rw [creditEntry_some hrow signal]
        simp [SignalProcess.credits, apart]

theorem sign_kept (sound : SignalsSound s.db) (ledger : LedgerSound start s)
    (fits : creditedOnce s (.sign id existing) clock) :
    SignalsKept start s (.sign id existing) (s.next clock (.sign id existing)).1
      (s.next clock (.sign id existing)).2 := by
  cases made : StorageOS.sign clock id existing s.db with
  | error failure =>
    have refused : s.next clock (.sign id existing) = (s, none) := by
      simp [SignalDb.next, made, Except.toOption]
    rw [refused]
    exact .same sound ledger (.refl s.db) rfl (fun _ => rfl) (fun _ => rfl) (by simp) fun _ => rfl
  | ok db' =>
    have signed : s.next clock (.sign id existing) = ({ s with db := db' }, none) := by
      simp [SignalDb.next, made, Except.toOption]
    have converts := sign_converts sound made
    rw [signed]
    refine ⟨converts.follows, converts.sound sound,
      ledger.follows converts.follows (sign_creditAt made), by simp, ?_⟩
    intro k r' j found' signal'
    obtain ⟨r, found, rfl, same, -⟩ := converts.before found'
    rw [same] at signal'
    refine ⟨r, [], found, signal', by simp [SignalDb.creditedFor], ?_⟩
    split
    · rename_i taken
      have unpaid : r.depositPaid = false :=
        fits (k, r) (Table.find_eq_some.mp found) taken (by simp [signal'])
      simp [SignalProcess.credits, Reservation.credited, unpaid, Reservation.convertedTo]
    · simp [SignalProcess.credits]

theorem next_kept (sound : SignalsSound s.db) (ledger : LedgerSound start s) (read : ReadSignal s process)
    (fits : creditedOnce s process clock) (made : signals.next s process clock = some (s', rest)) :
    SignalsKept start s process s' rest := by
  have both : s.next clock process = (s', rest) := Option.some.inj made
  obtain ⟨rfl, rfl⟩ := Prod.ext_iff.mp both
  cases process with
  | pay id => exact pay_kept sound ledger
  | claim i id contractId => exact claim_kept sound ledger read fits
  | credit i contractId => exact credit_kept sound ledger read
  | create input => exact create_kept sound ledger
  | readSignal input reads => exact readSignal_kept sound ledger read
  | convert input reads credit => exact convert_kept sound ledger read fits
  | sign id existing => exact sign_kept sound ledger fits

/-- What a request reads first. A handler finds the reservation of the invoice it is about. -/
theorem enter_readSignal {request : SignalRequest} (h : s.enter request = some process) :
    ReadSignal s process ∧ ∀ i, process.credits i = none := by
  cases request with
  | pay id =>
    cases h
    exact ⟨trivial, fun _ => rfl⟩
  | invoicePaid id =>
    simp only [SignalDb.enter] at h
    split at h
    · rename_i paid
      obtain ⟨row, found, rfl⟩ := Option.map_eq_some_iff.mp h
      have selected := List.find?_some found
      simp only [Bool.and_eq_true, decide_eq_true_eq] at selected
      exact ⟨⟨paid, row.2, Table.find_eq_some.mpr (List.mem_of_find?_eq_some found), selected.1⟩,
        fun _ => rfl⟩
    · cases h
  | create input =>
    cases h
    exact ⟨trivial, fun _ => rfl⟩
  | convertToContract id input =>
    obtain ⟨existing, -, h⟩ := Option.bind_eq_some_iff.mp h
    obtain ⟨given, -, rfl⟩ := Option.map_eq_some_iff.mp h
    exact ⟨trivial, fun _ => rfl⟩
  | sign id =>
    obtain ⟨existing, -, rfl⟩ := Option.map_eq_some_iff.mp h
    exact ⟨trivial, fun _ => rfl⟩

end

/-- Before anything is credited: nothing is under way, and no reservation with a signal that is marked
paid has become a contract. -/
structure SignalsOpen (start : State SignalDb SignalProcess) : Prop where
  idle : start.running = []
  ledger : start.db.ledger = []
  sound : SignalsSound start.db.db
  uncredited : ∀ k r, start.db.db.reservations.find k = some r → r.depositInvoiceId.isSome = true →
    r.credited = []

section

variable {start t : State SignalDb SignalProcess}

theorem signals_invariant (begins : SignalsOpen start)
    (run : Run signals.step (System.admits creditedOnce) start t) :
    (SignalsSound t.db.db ∧ LedgerSound start.db.db t.db) ∧
      (∀ process ∈ t.running, ReadSignal t.db process) ∧ CreditsDue t := by
  apply System.invariant_with (P := fun s => SignalsSound s.db ∧ LedgerSound start.db.db s) run
    ⟨begins.sound, ?_, ?_⟩
  · simp [begins.idle]
  · intro k r i found signal
    simp [SignalDb.creditedFor, begins.ledger, begins.idle,
      begins.uncredited k r found (by simp [signal])]
  · exact fun _ entered => (enter_readSignal entered).1
  · intro s process clock s' rest before read fits made
    have kept := next_kept before.1 before.2 read fits made
    exact ⟨⟨kept.sound, kept.ledger⟩, kept.read, fun _ other => other.follows kept.follows⟩
  · intro s running request process _ due entered k r i found signal
    have silent := (enter_readSignal entered).2 i
    simpa [silent] using due k r i found signal
  · intro s running i process clock s' rest before read due fits found made
    exact due.step found (next_kept before.1 before.2 read fits made)
  · simp [begins.ledger]
  · simp [SignalDb.credits, begins.ledger]

theorem handler_finds {s : SignalDb} {k : ReservationId} {r : Reservation} {i : InvoiceId} (sound : SignalsSound s.db)
    (found : s.db.reservations.find k = some r) (signal : r.depositInvoiceId = some i) (paid : s.db.isPaid i = true)
    (unmarked : r.depositPaid = false) :
    s.enter (.invoicePaid i) = some (.claim i k r.convertedContractId) := by
  obtain ⟨row, first⟩ : ∃ row, s.db.unmarked i = some row := by
    rw [← Option.isSome_iff_exists, RentalDb.unmarked, List.find?_isSome]
    exact ⟨(k, r), Table.find_eq_some.mp found, by simp [signal, unmarked]⟩
  have selected := List.find?_some first
  simp only [Bool.and_eq_true, decide_eq_true_eq] at selected
  have stored := Table.find_eq_some.mpr (List.mem_of_find?_eq_some first)
  have same := sound.distinct row.1 k row.2 r i stored found selected.1 signal
  rw [same, found] at stored
  cases stored
  simp [SignalDb.enter, paid, first, same]

/-- A signal that is paid is credited to the contract of its reservation, once and by the sum of its lines, as soon as
its handler is through, after every run in which conversions credit the signals that are marked, signatures take
reservations whose signals are not, and handlers have read the contract they credit. -/
theorem signal_credited_once (begins : SignalsOpen start)
    (run : Run signals.step (System.admits creditedOnce) start t) (idle : t.running = []) :
    (∀ k r i c, t.db.db.reservations.find k = some r → r.depositInvoiceId = some i →
      r.convertedContractId = some c → t.db.db.isPaid i = true →
      ∃ invoice, t.db.db.invoices.find i = some invoice ∧
        (r.depositPaid = true → t.db.ledger.filter (fun e => e.invoiceId = i) =
          [⟨i, c, invoice.baseCents⟩]) ∧
        (r.depositPaid = false → t.db.ledger.filter (fun e => e.invoiceId = i) = [] ∧
          t.db.enter (.invoicePaid i) = some (.claim i k (some c)))) ∧
    ∀ c, t.db.db.creditAt c = start.db.db.creditAt c + t.db.credits c := by
  obtain ⟨⟨sound, ledger⟩, -, due⟩ := signals_invariant begins run
  refine ⟨fun k r i c found signal converted paid => ?_, ledger.sums⟩
  obtain ⟨invoice, invoiced, -⟩ := sound.positive k r i found signal
  have owed := due k r i found signal
  rw [idle, List.filterMap_nil, List.append_nil] at owed
  refine ⟨invoice, invoiced, fun marked => ?_, fun unmarked => ⟨?_, ?_⟩⟩
  · simp only [Reservation.credited, marked, if_true, converted, Option.toList_some,
      List.perm_singleton, SignalDb.creditedFor, List.map_eq_singleton_iff] at owed
    obtain ⟨e, only, contract⟩ := owed
    rw [only]
    have mem : e ∈ t.db.ledger.filter fun e => e.invoiceId = i := by simp [only]
    obtain ⟨mem, own⟩ := List.mem_filter.mp mem
    have own : e.invoiceId = i := of_decide_eq_true own
    obtain ⟨invoice', found', cents⟩ := ledger.amounts e mem
    rw [own, invoiced] at found'
    cases found'
    have same : e = ⟨i, c, invoice.baseCents⟩ := by rw [← own, ← contract, ← cents]
    rw [same]
  · simpa [Reservation.credited, unmarked, SignalDb.creditedFor] using owed
  · rw [handler_finds sound found signal paid unmarked, converted]

end

instance decidableCreditedOnce (s : SignalDb) :
    (process : SignalProcess) → (clock : RentalClock) → Decidable (creditedOnce s process clock)
  | .convert _ reads credit, _ => inferInstanceAs (Decidable (∀ read ∈ reads.reservation,
      ∀ r ∈ s.db.reservations.find read.1, r.convertedContractId = none ∧
        (r.depositInvoiceId.isSome = true → credit.isSome = r.depositPaid)))
  | .sign _ existing, _ => inferInstanceAs (Decidable (∀ r ∈ s.db.reservations.rows,
      r.2.ownOf existing = true → r.2.depositInvoiceId.isSome = true → r.2.depositPaid = false))
  | .claim _ id contractId, _ => inferInstanceAs (Decidable (∀ r ∈ s.db.reservations.find id,
      r.depositPaid = false → r.convertedContractId = contractId))
  | .pay _, _ => inferInstanceAs (Decidable True)
  | .credit _ _, _ => inferInstanceAs (Decidable True)
  | .create _, _ => inferInstanceAs (Decidable True)
  | .readSignal _ _, _ => inferInstanceAs (Decidable True)

/-- A unit reserved for a tenant who has a draft on it, with the signal of the reservation issued. -/
def signalledReservation : RentalDb where
  customers := Table.empty.push ⟨none, false, false⟩
  facilities := Table.empty.push ⟨none, false, none, 6⟩
  units := Table.empty.push ⟨0, .reserved, 8000⟩
  contracts := Table.empty.push (draftContract 0 ⟨none, false, false⟩ ⟨none, false, none, 6⟩
    ⟨0, 0, none, none, 0, none, 1, 1, 0, 8000, 0, 0, none, true, 15⟩)
  reservations := Table.empty.push ⟨0, some 0, .confirmed, 100, false, some 0, none⟩
  waitlist := Table.empty
  invoices := Table.empty.push ⟨.issued, "S-1", [⟨6050, 1050⟩]⟩

def signalledStart : State SignalDb SignalProcess := ⟨⟨signalledReservation, []⟩, []⟩

theorem signalledReservation_find {k : ReservationId} {r : Reservation}
    (found : signalledReservation.reservations.find k = some r) :
    k = 0 ∧ r = ⟨0, some 0, .confirmed, 100, false, some 0, none⟩ := by
  rw [Table.find_eq_some] at found
  simpa [signalledReservation, Table.empty, Table.nextKey] using found

theorem signalledStart_open : SignalsOpen signalledStart := by
  refine ⟨rfl, rfl, ⟨?_, ?_, ?_, ?_, ?_⟩, ?_⟩
  · intro k r i found signal
    obtain ⟨rfl, rfl⟩ := signalledReservation_find found
    cases signal
    exact ⟨_, rfl, by decide⟩
  · intro k k' r r' i found found' _ _
    rw [(signalledReservation_find found).1, (signalledReservation_find found').1]
  · intro k r i found _ marked
    rw [(signalledReservation_find found).2] at marked
    cases marked
  · intro k r found _ _
    rw [(signalledReservation_find found).2]
  · intro k r c found _ converted
    rw [(signalledReservation_find found).2] at converted
    cases converted
  · intro k r found _
    rw [(signalledReservation_find found).2]
    rfl

/-- The signal is paid after the conversion, and the handler credits it. -/
theorem signal_credited_once_converted : ∃ t,
    Run signals.step (System.admits creditedOnce) signalledStart t ∧
    t.db.ledger.filter (fun e => e.invoiceId = 0) = [⟨0, 1, 5000⟩] ∧
    t.db.db.creditAt 1 = t.db.credits 1 := by
  obtain ⟨t, run, ht⟩ := Run.exists_of_exec signals.step (System.admits creditedOnce)
    signalledStart
    [.start (.convertToContract 0 ⟨none, 0, none, 8000, 0, 0⟩), .advance 0 ⟨0, 0⟩,
      .advance 0 ⟨0, 0⟩, .start (.pay 0), .advance 0 ⟨0, 0⟩, .advance 0 ⟨0, 0⟩,
      .start (.invoicePaid 0), .advance 0 ⟨0, 0⟩, .advance 0 ⟨0, 0⟩]
    (fun t => t.running = [] ∧ t.db.db.invoices.find 0 = some ⟨.paid, "S-1", [⟨6050, 1050⟩]⟩ ∧
      t.db.db.reservations.find 0 = some ⟨0, some 0, .converted, 100, true, some 0, some 1⟩)
    (by decide +kernel)
  obtain ⟨idle, invoiced, found⟩ := of_decide_eq_true ht
  obtain ⟨credited, sums⟩ := signal_credited_once signalledStart_open run idle
  obtain ⟨invoice, invoiced', once, -⟩ := credited 0 _ 0 1 found rfl rfl
    (isPaid_iff.mpr ⟨_, invoiced, rfl⟩)
  rw [invoiced] at invoiced'
  cases invoiced'
  refine ⟨t, run, once rfl, ?_⟩
  rw [sums]
  exact zero_add _

/-- Paid before the conversion, the signal is credited by it and by the handler; marked before a
signature, it is credited by neither. -/
theorem signal_credited_twice_or_never :
    (∃ t, Reaches signals.step signalledStart t ∧ t.running = [] ∧
      t.db.ledger = [⟨0, 1, 5000⟩, ⟨0, 1, 5000⟩] ∧ t.db.db.creditAt 1 = 10000) ∧
    ∃ t, Reaches signals.step signalledStart t ∧ t.running = [] ∧ t.db.db.isPaid 0 = true ∧
      (t.db.db.reservations.find 0).map (·.convertedContractId) = some (some 0) ∧
      t.db.db.unmarked 0 = none ∧ t.db.ledger = [] ∧ t.db.db.creditAt 0 = 0 := by
  constructor
  · obtain ⟨t, run, ht⟩ := Run.exists_of_exec signals.step (fun _ _ => True) signalledStart
      [.start (.pay 0), .advance 0 ⟨0, 0⟩,
        .start (.convertToContract 0 ⟨none, 0, none, 8000, 0, 0⟩), .advance 0 ⟨0, 0⟩,
        .advance 0 ⟨0, 0⟩, .advance 0 ⟨0, 0⟩,
        .start (.invoicePaid 0), .advance 0 ⟨0, 0⟩, .advance 0 ⟨0, 0⟩]
      (fun t => t.running = [] ∧ t.db.ledger = [⟨0, 1, 5000⟩, ⟨0, 1, 5000⟩] ∧
        t.db.db.creditAt 1 = 10000) (by decide +kernel)
    exact ⟨t, run, of_decide_eq_true ht⟩
  · obtain ⟨t, run, ht⟩ := Run.exists_of_exec signals.step (fun _ _ => True) signalledStart
      [.start (.pay 0), .advance 0 ⟨0, 0⟩, .start (.invoicePaid 0), .advance 0 ⟨0, 0⟩,
        .start (.sign 0), .advance 0 ⟨0, 0⟩]
      (fun t => t.running = [] ∧ t.db.db.isPaid 0 = true ∧
        (t.db.db.reservations.find 0).map (·.convertedContractId) = some (some 0) ∧
        t.db.db.unmarked 0 = none ∧ t.db.ledger = [] ∧ t.db.db.creditAt 0 = 0) (by decide +kernel)
    exact ⟨t, run, of_decide_eq_true ht⟩

end StorageOS
