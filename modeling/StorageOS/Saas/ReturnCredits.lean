import StorageOS.Saas.Returns

/-! What is refunded of a payment and what its invoice is credited. A claim leaves a credit to be issued
by the same request, so that the credits of the invoice and those under way are what is refunded. -/

namespace StorageOS

open Transition Processes

variable {db db' : PlatformDb} {call : PlatformCall} {rest : Option PlatformCall} {env : PlatformEnv}
  {input : PlatformInput} {entry : PlatformEntry} {id k : SubscriptionPaymentId}
  {running : List PlatformCall} {i : ℕ}

/-! ### Credits under way -/

def PlatformCall.owes (id : SubscriptionPaymentId) : PlatformCall → ℤ
  | .crediting payment delta => if payment = id then max 0 delta else 0
  | .rectifying _ input (some payment) =>
    if payment = id then max 0 (round2 (input.amount.getD 0)) else 0
  | .numbering entry | .inserting entry _ =>
    if entry.credits = some id then max 0 (-entry.invoice.total) else 0
  | _ => 0

def owed (running : List PlatformCall) (id : SubscriptionPaymentId) : ℤ :=
  (running.map (PlatformCall.owes id)).sum

theorem owes_nonneg (id : SubscriptionPaymentId) (call : PlatformCall) : 0 ≤ call.owes id := by
  cases call with
  | rectifying original input credits =>
    cases credits with
    | none => exact le_rfl
    | some payment =>
      rw [PlatformCall.owes]
      split <;> omega
  | crediting | numbering | inserting =>
    rw [PlatformCall.owes]
    split <;> omega
  | _ => exact le_rfl

theorem owed_nonneg (running : List PlatformCall) (id : SubscriptionPaymentId) :
    0 ≤ owed running id :=
  List.sum_nonneg fun x mem => by
    obtain ⟨call, -, rfl⟩ := List.mem_map.mp mem
    exact owes_nonneg id call

theorem owed_append (id : SubscriptionPaymentId) (free : call.owes id = 0) :
    owed (running ++ [call]) id = owed running id := by
  rw [owed, List.map_append, List.sum_append, List.map_singleton, List.sum_singleton, free, add_zero,
    owed]

theorem owed_resume (place : running[i]? = some call) (rest : Option PlatformCall)
    (id : SubscriptionPaymentId) :
    owed (resume running i rest) id + call.owes id =
      owed running id + (rest.map (PlatformCall.owes id)).getD 0 :=
  sum_resume _ place rest

theorem owes_le_owed (place : running[i]? = some call) (id : SubscriptionPaymentId) :
    call.owes id ≤ owed running id := by
  have change := owed_resume place none id
  have left := owed_nonneg (resume running i none) id
  simp only [Option.map_none, Option.getD_none] at change
  omega

def PlatformDb.refunded (db : PlatformDb) : Table SubscriptionPaymentId ℤ :=
  db.payments.view SubscriptionPayment.refundedAmount

variable {p : SubscriptionPayment} {running' : List PlatformCall} {q : PlatformInvoiceId × PlatformInvoice}
  {original : PlatformInvoice} {delta total : ℤ} {rects : List (PlatformInvoiceId × PlatformInvoice)}

theorem find_refunded (found : db.payments.find id = some p) :
    db.refunded.find id = some p.refundedAmount := by
  rw [PlatformDb.refunded, Table.find_view, found]
  rfl

/-- The credits of the invoice of a payment and those under way are what is refunded of it. -/
structure Owed (s : State PlatformDb PlatformCall) : Prop where
  within : ∀ id, owed s.running id ≤ (s.db.refunded.find id).getD 0
  credited : ∀ id r k inv, s.db.refunded.find id = some r → s.db.ledger.find k = some inv →
    inv.paymentId = some id →
    s.db.credited k + owed s.running id = r ∧ r ≤ max 0 inv.total

theorem Owed.of_same (held : Owed ⟨db, running⟩) (refunded : db'.refunded = db.refunded)
    (invoices : db'.invoices = db.invoices) (same : ∀ id, owed running' id = owed running id) :
    Owed ⟨db', running'⟩ := by
  have credited : ∀ k, db'.credited k = db.credited k := fun k => by
    rw [PlatformDb.credited, PlatformDb.ledger, invoices]
    rfl
  refine ⟨fun id => ?_, fun id r k inv found row of => ?_⟩
  · dsimp only
    rw [refunded, same]
    exact held.within id
  · dsimp only at found row ⊢
    rw [refunded] at found
    rw [PlatformDb.ledger, invoices] at row
    rw [credited, same]
    exact held.credited id r k inv found row of

theorem owed_idle (place : running[i]? = some call) (before : ∀ id, call.owes id = 0)
    (after : ∀ id call', rest = some call' → call'.owes id = 0) (id : SubscriptionPaymentId) :
    owed (resume running i rest) id = owed running id := by
  have change := owed_resume place rest id
  rw [before] at change
  cases rest with
  | none => simpa using change
  | some call' =>
    rw [Option.map_some, Option.getD_some, after id call' rfl] at change
    omega

/-! ### Credits -/

theorem invoiceOf_some (found : db.invoiceOf id = some q) :
    db.invoices.find q.1 = some q.2 ∧ q.2.paymentId = some id := by
  have of := List.find?_some found
  exact ⟨Table.find_of_mem (List.mem_of_find?_eq_some found), of_decide_eq_true of⟩

variable {credits : Option SubscriptionPaymentId} {number : ℕ}

theorem rectifyEntry_credit (h : rectifyEntry k original rects (creditInput delta total) credits env = some entry) :
    entry.invoice.rectifies = some (k, .differences) ∧ entry.invoice.total = -min delta total := by
  unfold rectifyEntry at h
  split at h
  · cases h
  · dsimp only [creditInput, Option.getD_some] at h
    rw [round2_euros] at h
    split at h
    · cases h
    · cases h
      exact ⟨rfl, rfl⟩

theorem rectifyEntry_issued (invoice : original.invoiceType = .F1) (uncancelled : original.status ≠ .cancelled)
    (complete : env.issuerMissing = false) (positive : 0 < min delta total)
    (left : creditedIn k rects + min delta total ≤ original.total) :
    rectifyEntry k original rects (creditInput delta total) credits env ≠ none := by
  unfold rectifyEntry
  rw [if_neg (by simp [invoice, uncancelled, complete])]
  dsimp only [creditInput, Option.getD_some]
  rw [round2_euros, euros_sub, round2_euros, if_neg]
  · exact Option.some_ne_none _
  · simp only [Bool.or_eq_true, decide_eq_true_eq, euros_lt_margin]
    omega

/-- The invoices of payments and the items are of stored payments, and a cancelled invoice is credited in
full. -/
structure PlatformDb.Tied (db : PlatformDb) : Prop where
  invoice : ∀ k inv id, db.ledger.find k = some inv → inv.paymentId = some id →
    inv.invoiceType = .F1 ∧ ∃ p, db.payments.find id = some p
  item : ∀ k row id, db.items.find k = some row → row.paymentId = some id →
    ∃ p, db.payments.find id = some p
  cancelled : ∀ k inv, db.invoices.find k = some inv → inv.status = .cancelled →
    inv.total ≤ db.credited k

/-- A credit is of the invoice of its payment, and an invoice is of a stored payment. -/
structure PlatformEntry.Credits (db : PlatformDb) (entry : PlatformEntry) : Prop where
  credited : ∀ id, entry.credits = some id → ∃ k inv, db.ledger.find k = some inv ∧
    inv.paymentId = some id ∧ entry.invoice.rectifies = some (k, .differences)
  paid : ∀ id, entry.invoice.paymentId = some id →
    entry.invoice.invoiceType = .F1 ∧ ∃ p, db.payments.find id = some p

def PlatformCall.Credits (db : PlatformDb) : PlatformCall → Prop
  | .crediting _ delta => 0 < delta
  | .rectifying k input (some id) => ∃ inv delta, db.ledger.find k = some inv ∧
      inv.paymentId = some id ∧ 0 < delta ∧ input = creditInput delta inv.total
  | .numbering entry | .inserting entry _ => entry.Credits db
  | _ => True

theorem PlatformCall.Credits.keep (credits : call.Credits db) (grows : db.Grows db')
    (keeps : db.Keeps db') : call.Credits db' := by
  cases call with
  | rectifying k input payment =>
    cases payment with
    | none => trivial
    | some id =>
      obtain ⟨inv, delta, found, rest⟩ := credits
      exact ⟨inv, delta, keeps k inv found, rest⟩
  | numbering entry | inserting entry =>
    refine ⟨fun id own => ?_, fun id own => ?_⟩
    · obtain ⟨k, inv, found, rest⟩ := PlatformEntry.Credits.credited credits id own
      exact ⟨k, inv, keeps k inv found, rest⟩
    · obtain ⟨invoice, p, found⟩ := PlatformEntry.Credits.paid credits id own
      obtain ⟨p', found', -⟩ := grows id p found
      exact ⟨invoice, p', found'⟩
  | crediting => exact credits
  | _ => trivial

theorem PlatformMove.credited {call' : PlatformCall}
    (move : PlatformMove db env call db' (some call')) (claims : call.Claims db)
    (credits : call.Credits db) : call'.Credits db' := by
  cases move with
  | @pays id p found =>
    refine ⟨fun id own => (by cases own), fun id own => ?_⟩
    cases own
    exact ⟨rfl, p, found⟩
  | @rectifies k input payment original entry found made =>
    obtain ⟨sound, -, -, same⟩ := rectifyEntry_sound made
    refine ⟨fun id own => ?_, fun id own => ?_⟩
    · rw [own] at same
      subst same
      obtain ⟨inv, delta, there, of, -, rfl⟩ := credits
      exact ⟨k, inv, there, of, (rectifyEntry_credit made).1⟩
    · rw [sound.payment] at own
      cases own
  | locks =>
    obtain ⟨credited, paid⟩ : PlatformEntry.Credits db _ := credits
    exact ⟨credited, paid⟩
  | claims found =>
    have more := claims.2
    exact Int.sub_pos_of_lt more
  | @credits id delta q found positive =>
    obtain ⟨there, of⟩ := invoiceOf_some found
    exact ⟨q.2.unstatus, delta, by rw [find_ledger, there]; rfl, of, positive, rfl⟩
  | pushes about next | updates next =>
    rw [next call' rfl]
    trivial
  | bounces found next =>
    obtain ⟨id, -, rfl⟩ := Option.map_eq_some_iff.mp next.symm
    trivial
  | _ => trivial

/-! ### Ties -/

theorem PlatformDb.Tied.of_same (tied : db.Tied) (grows : db.Grows db')
    (invoices : db'.invoices = db.invoices)
    (items : ∀ k row id, db'.items.find k = some row → row.paymentId = some id →
      ∃ p, db'.payments.find id = some p) : db'.Tied := by
  refine ⟨fun k inv id found of => ?_, items, fun k inv found cancelled => ?_⟩
  · rw [PlatformDb.ledger, invoices] at found
    obtain ⟨invoice, p, stored⟩ := tied.invoice k inv id found of
    obtain ⟨p', stored', -⟩ := grows id p stored
    exact ⟨invoice, p', stored'⟩
  · rw [invoices] at found
    rw [PlatformDb.credited, PlatformDb.ledger, invoices]
    exact tied.cancelled k inv found cancelled

theorem PlatformDb.Tied.items_keep (tied : db.Tied) (grows : db.Grows db')
    (items : db'.items = db.items) (k : PlatformSepaItemId) (row : PlatformSepaItem)
    (id : SubscriptionPaymentId) (found : db'.items.find k = some row) (of : row.paymentId = some id) :
    ∃ p, db'.payments.find id = some p := by
  rw [items] at found
  obtain ⟨p, stored⟩ := tied.item k row id found of
  obtain ⟨p', stored', -⟩ := grows id p stored
  exact ⟨p', stored'⟩

/-- An invoice that is numbered is tied to its payment, and cancels the one that it credits in full. -/
theorem PlatformDb.Tied.insert (tied : db.Tied) (sound : entry.Sound db)
    (read : (PlatformCall.inserting entry number).Read db) (credits : entry.Credits db) :
    (db.insert entry number).Tied := by
  refine ⟨fun k inv id found of => ?_, tied.item, fun k inv found cancelled => ?_⟩
  · rw [ledger_insert number sound.fresh, Table.find_push] at found
    split at found
    · cases found
      exact credits.paid id of
    · exact tied.invoice k inv id found of
  · obtain ⟨before, stays, change⟩ := find_insert found
    have more := credited_le_insert sound number k
    rcases change with ⟨method, status, own, marks, rfl⟩ | ⟨rfl, -⟩
    · obtain ⟨stored, there, rectifies⟩ := sound.rectify own
      have total : before.total = stored.total := by
        rw [find_ledger, Option.map_eq_some_iff] at there
        obtain ⟨before', there, rfl⟩ := there
        rw [Table.find_push_of_some there] at stays
        cases stays
        rfl
      have cancelled : status = .cancelled := cancelled
      have credited : (db.insert entry number).credited k = _ := credited_insert number sound.fresh k
      rcases rectifies.method with ⟨about, -, -, other⟩ | ⟨about, -, -, full⟩
      · rw [marks, cancelled] at other
        cases other
      · rw [marks, cancelled] at full
        split at full
        · rename_i reached
          rw [if_pos (rectifiesBy_iff.mpr about)] at credited
          have seen := read k _ about
          dsimp only
          omega
        · cases full
    · rw [Table.find_push] at stays
      split at stays
      · cases stays
        have fresh : entry.invoice.status = .cancelled := cancelled
        rw [sound.fresh] at fresh
        cases fresh
      · exact (tied.cancelled k inv stays cancelled).trans more

theorem PlatformMove.tied (move : PlatformMove db env call db' rest) (tied : db.Tied)
    (claims : call.Claims db) (sound : call.Sound db) (read : call.Read db)
    (credits : call.Credits db) : db'.Tied := by
  have grows := move.grows claims
  cases move with
  | inserts => exact tied.insert sound read credits
  | @bounces item row rest found next =>
    refine tied.of_same grows rfl fun k row' id found' of => ?_
    rcases Table.find_modify_cases found' with ⟨-, before⟩ | ⟨rfl, row'', before, rfl⟩
    · exact tied.item k row' id before of
    · exact tied.item k row'' id before of
  | @collects amount =>
    refine tied.of_same grows rfl fun k row id found of => ?_
    rw [Table.find_push] at found
    split at found
    · cases found
      cases of
      exact ⟨_, by rw [Table.find_push, if_pos rfl]⟩
    · obtain ⟨p, stored⟩ := tied.item k row id found of
      exact ⟨p, Table.find_push_of_some stored _⟩
  | _ =>
    exact tied.of_same grows rfl (tied.items_keep grows rfl)

/-! ### Balance -/

theorem invoiceOf_row (once : db.InvoicedOnce) {inv : PlatformInvoice}
    (row : db.ledger.find k = some inv) (of : inv.paymentId = some id) :
    ∃ q, db.invoiceOf id = some q ∧ q.1 = k ∧ q.2.unstatus = inv := by
  cases found : db.invoiceOf id with
  | none => exact absurd of (invoiceOf_none found row)
  | some q =>
    obtain ⟨there, own⟩ := invoiceOf_some found
    have stored : db.ledger.find q.1 = some q.2.unstatus := by
      rw [find_ledger, there]
      rfl
    have same : q.1 = k := once q.1 k _ inv id stored row own of
    rw [same, row] at stored
    exact ⟨q, rfl, same, (Option.some.inj stored).symm⟩

variable (held : Owed ⟨db, running⟩)
include held

theorem Owed.claim {back : PaymentReturn} {amount target : ℤ} (once : db.InvoicedOnce)
    (place : running[i]? = some (.claiming id back p.refundedAmount amount target))
    (found : db.payments.find id = some p) (more : p.refundedAmount < target)
    (fits : (db.invoiceOf id).all (fun q => target ≤ q.2.total) = true) :
    Owed ⟨(db.claim id amount target).settle id back,
      resume running i (some (.crediting id (target - p.refundedAmount)))⟩ := by
  have refunded : ((db.claim id amount target).settle id back).refunded =
      db.refunded.modify id fun _ => target := by
    rw [PlatformDb.refunded, claim_settle_payments]
    refine Table.view_modify fun p _ => ?_
    exact settle_refundedAmount (p.claim amount target) back
  have change : ∀ j, owed (resume running i (some (.crediting id (target - p.refundedAmount)))) j =
      owed running j + if id = j then target - p.refundedAmount else 0 := by
    intro j
    have change := owed_resume place (some (.crediting id (target - p.refundedAmount))) j
    simp only [Option.map_some, Option.getD_some, PlatformCall.owes, add_zero] at change
    rw [change]
    congr 2
    omega
  refine ⟨fun j => ?_, fun j r k inv there row of => ?_⟩
  · have within := held.within j
    dsimp only at within ⊢
    rw [refunded, Table.find_modify, change]
    by_cases own : j = id
    · subst own
      rw [find_refunded found] at within ⊢
      simp only [if_true, Option.map_some, Option.getD_some] at within ⊢
      omega
    · rw [if_neg own, if_neg (Ne.symm own)]
      omega
  · dsimp only at there row ⊢
    rw [refunded, Table.find_modify] at there
    rw [change]
    by_cases own : j = id
    · subst own
      rw [if_pos rfl, find_refunded found, Option.map_some, Option.some.injEq] at there
      subst there
      have credited := held.credited j _ k inv (find_refunded found) row of
      dsimp only at credited
      obtain ⟨q, invoice, -, rfl⟩ := invoiceOf_row once row of
      rw [invoice, Option.all_some, decide_eq_true_eq] at fits
      have total : q.2.unstatus.total = q.2.total := rfl
      rw [if_pos rfl]
      refine ⟨?_, by omega⟩
      have same : ((db.claim j amount target).settle j back).credited k = db.credited k := rfl
      omega
    · rw [if_neg own] at there
      rw [if_neg (Ne.symm own), add_zero]
      exact held.credited j r k inv there row of

theorem Owed.uncredited {delta : ℤ} (rows : db.Rows) (tied : db.Tied) (once : db.InvoicedOnce)
    (place : running[i]? = some (.crediting id delta))
    (refused : ∀ q, db.invoiceOf id = some q → delta ≤ 0 ∨ q.2.status = .cancelled) :
    Owed ⟨db, resume running i none⟩ := by
  have change : ∀ j, owed (resume running i none) j + (if id = j then max 0 delta else 0) =
      owed running j := by
    intro j
    have change := owed_resume place none j
    simpa only [Option.map_none, Option.getD_none, PlatformCall.owes, add_zero] using change
  refine ⟨fun j => ?_, fun j r k inv there row of => ?_⟩
  · have within := held.within j
    have less := change j
    dsimp only at within ⊢
    split at less <;> omega
  · have credited := held.credited j r k inv there row of
    have same := change j
    dsimp only at credited ⊢
    split at same
    · rename_i own
      subst own
      obtain ⟨q, invoice, rfl, rfl⟩ := invoiceOf_row once row of
      have left := owed_nonneg (resume running i none) id
      have paid := rows.credited q.1
      have total : q.2.unstatus.total = q.2.total := rfl
      rcases refused q invoice with nothing | cancelled
      · omega
      · have full := tied.cancelled q.1 q.2 (invoiceOf_some invoice).1 cancelled
        omega
    · omega

theorem Owed.push {payment : SubscriptionPayment} (tied : db.Tied) (invoices : db'.invoices = db.invoices)
    (payments : db'.payments = db.payments.push payment) (fresh : payment.refundedAmount = 0)
    (same : ∀ id, owed running' id = owed running id) : Owed ⟨db', running'⟩ := by
  have refunded : db'.refunded = db.refunded.push 0 := by
    rw [PlatformDb.refunded, payments, Table.view_push, fresh]
    rfl
  have credited : ∀ k, db'.credited k = db.credited k := fun k => by
    rw [PlatformDb.credited, PlatformDb.ledger, invoices]
    rfl
  have key : db.refunded.nextKey = db.payments.nextKey := Table.nextKey_view _ _
  refine ⟨fun id => ?_, fun id r k inv found row of => ?_⟩
  · have within := held.within id
    dsimp only at within ⊢
    rw [refunded, same, Table.find_push]
    split
    · rename_i new
      rw [new, Table.find_nextKey] at within
      rwa [new]
    · exact within
  · dsimp only at found row ⊢
    rw [PlatformDb.ledger, invoices] at row
    rw [refunded, Table.find_push] at found
    rw [credited, same]
    split at found
    · rename_i new
      obtain ⟨-, p, stored⟩ := tied.invoice k inv id row of
      rw [new, key, Table.find_nextKey] at stored
      cases stored
    · exact held.credited id r k inv found row of

theorem Owed.rectify {input : RectifyPlatformInvoiceInput} (rows : db.Rows) (tied : db.Tied)
    (place : running[i]? = some (.rectifying k input credits))
    (known : (PlatformCall.rectifying k input credits).Credits db)
    (complete : credits ≠ none → env.issuerMissing = false)
    (next : rest = ((db.invoices.find k).bind fun original =>
      (rectifyEntry k original (db.rectifications k) input credits env).map .numbering)) :
    Owed ⟨db, resume running i rest⟩ := by
  refine held.of_same rfl rfl fun j => ?_
  have change := owed_resume place rest j
  suffices same : (rest.map (PlatformCall.owes j)).getD 0 =
      PlatformCall.owes j (.rectifying k input credits) by omega
  cases credits with
  | none =>
    have plain : PlatformCall.owes j (.rectifying k input none) = 0 := rfl
    rw [next, plain]
    cases db.invoices.find k with
    | none => rfl
    | some original =>
      rw [Option.bind_some]
      cases made : rectifyEntry k original (db.rectifications k) input none env with
      | none => rfl
      | some entry =>
        rw [Option.map_some, Option.map_some, Option.getD_some, PlatformCall.owes,
          (rectifyEntry_sound made).2.2.2]
        rfl
  | some id =>
    obtain ⟨inv, delta, row, of, positive, rfl⟩ := known
    have there := row
    rw [find_ledger, Option.map_eq_some_iff] at there
    obtain ⟨original, stored, rfl⟩ := there
    have amount : round2 ((creditInput delta original.unstatus.total).amount.getD 0) =
        min delta original.total := round2_euros _
    rw [next, stored, Option.bind_some, PlatformCall.owes, amount]
    cases made : rectifyEntry k original (db.rectifications k)
        (creditInput delta original.unstatus.total) (some id) env with
    | some entry =>
      rw [Option.map_some, Option.map_some, Option.getD_some, PlatformCall.owes,
        (rectifyEntry_sound made).2.2.2, (rectifyEntry_credit made).2, neg_neg]
      simp only [Option.some.injEq]
      rfl
    | none =>
      -- A credit that is owed fits what is left of the invoice, so that it is not refused.
      obtain ⟨invoice, p, paid⟩ := tied.invoice k _ id row of
      have credited := held.credited id _ k _ (find_refunded paid) row of
      have owes := owes_le_owed place id
      rw [PlatformCall.owes, if_pos rfl, amount] at owes
      have total : original.unstatus.total = original.total := rfl
      have before := rows.credited k
      dsimp only at credited
      rw [Option.map_none, Option.map_none, Option.getD_none]
      split
      · by_contra owing
        have uncancelled : original.status ≠ .cancelled := by
          intro cancelled
          have full := tied.cancelled k original stored cancelled
          omega
        have left : creditedIn k (db.rectifications k) + min delta original.unstatus.total ≤
            original.total := by
          rw [creditedIn_rectifications]
          omega
        have invoice : original.invoiceType = .F1 := invoice
        exact rectifyEntry_issued invoice uncancelled (complete (Option.some_ne_none id))
          (by omega) left made
      · rfl

omit held

theorem owed_inserted (place : running[i]? = some (.inserting entry number)) (id : SubscriptionPaymentId) :
    owed (resume running i none) id +
      (if entry.credits = some id then max 0 (-entry.invoice.total) else 0) = owed running id := by
  have change := owed_resume place none id
  simpa only [Option.map_none, Option.getD_none, PlatformCall.owes, add_zero] using change

/-- The invoice of a payment is issued before anything is refunded of it, and what is refunded is credited
on its invoice. -/
theorem Owed.insert (held : Owed ⟨db, running⟩) (rows : db.Rows) (once : db.InvoicedOnce) (sound : entry.Sound db)
    (credits : entry.Credits db) (place : running[i]? = some (.inserting entry number))
    (fits : returnsInTurn db (.inserting entry number) (.proceed env) = true)
    (unpaid : ∀ id, entry.invoice.paymentId = some id → db.invoiceOf id = none) :
    Owed ⟨db.insert entry number, resume running i none⟩ := by
  have left := owed_inserted place
  have refunded : (db.insert entry number).refunded = db.refunded := rfl
  have credited : ∀ k, (db.insert entry number).credited k = _ :=
    credited_insert number sound.fresh
  simp only [returnsInTurn, Bool.and_eq_true] at fits
  refine ⟨fun id => ?_, fun id r k inv found row of => ?_⟩
  · have within := held.within id
    have less := left id
    dsimp only at within ⊢
    rw [refunded]
    split at less <;> omega
  · dsimp only at found row ⊢
    rw [refunded] at found
    rw [ledger_insert number sound.fresh, Table.find_push] at row
    split at row
    · -- The invoice of a payment of which nothing is refunded.
      rename_i new
      cases row
      have free : ∀ method, entry.invoice.rectifies ≠ some (k, method) := by
        intro method own
        obtain ⟨stored, -, rectifies⟩ := sound.rectify own
        have none_ := rectifies.payment
        have of : entry.invoice.paymentId = some id := of
        rw [none_] at of
        cases of
      have of : entry.invoice.paymentId = some id := of
      obtain ⟨-, p, stored⟩ := credits.paid id of
      have zero := fits.2
      rw [of, Option.all_some, unpaid id of, stored] at zero
      have zero : p.refundedAmount = 0 := by simpa using zero
      rw [find_refunded stored, zero] at found
      cases found
      have within := held.within id
      have less := left id
      have nonneg := owed_nonneg (resume running i none) id
      rw [find_refunded stored, Option.getD_some, zero] at within
      obtain ⟨same, -⟩ := rectified_insert_other number sound.fresh free
      have key : db.ledger.nextKey = db.invoices.nextKey := Table.nextKey_view _ _
      have none_ := rows.unrectified.1
      rw [← key, ← new] at none_
      rw [same, none_]
      dsimp only at within
      refine ⟨?_, le_max_left _ _⟩
      split at less <;> omega
    · obtain ⟨whole, most⟩ := held.credited id r k inv found row of
      refine ⟨?_, most⟩
      have less := left id
      rw [credited]
      dsimp only at whole
      by_cases own : entry.credits = some id
      · -- The credit that was owed.
        rw [if_pos own] at less
        obtain ⟨k', inv', row', of', rectifies⟩ := credits.credited id own
        obtain rfl := once k' k inv' inv id row' row of' of
        obtain ⟨stored, -, entrySound⟩ := sound.rectify rectifies
        have negative : entry.invoice.total < 0 := by
          rcases entrySound.method with ⟨about, -⟩ | ⟨-, negative, -⟩
          · rw [rectifies] at about
            cases about
          · exact negative
        rw [if_pos (rectifiesBy_iff.mpr rectifies)]
        omega
      · -- A substitution, or a credit of another invoice.
        rw [if_neg own] at less
        rw [if_neg]
        · omega
        · intro about
          have about := rectifiesBy_iff.mp about
          have returns := fits.1
          rw [about, Option.all_some] at returns
          obtain ⟨payment, own'⟩ := Option.isSome_iff_exists.mp (by simpa using returns)
          obtain ⟨k', inv', row', of', rectifies⟩ := credits.credited payment own'
          rw [about] at rectifies
          cases rectifies
          rw [row] at row'
          cases row'
          rw [of] at of'
          cases of'
          exact own own'

theorem settle_refunded (db : PlatformDb) (id : SubscriptionPaymentId) (back : PaymentReturn) :
    (db.settle id back).refunded = db.refunded :=
  Table.view_modify_same fun p _ => settle_refundedAmount p back

theorem rest_idle (idle : ∀ r, rest = some r → r = .issuing k) (id : SubscriptionPaymentId)
    (call' : PlatformCall) (same : rest = some call') : call'.owes id = 0 := by
  rw [idle call' same]
  rfl

theorem rectify_complete {input : RectifyPlatformInvoiceInput}
    (fits : returnsInTurn db (.rectifying k input credits) (.proceed env) = true) (own : credits ≠ none) :
    env.issuerMissing = false := by
  cases credits with
  | none => exact absurd rfl own
  | some id => exact (Bool.not_eq_true' _).mp fits

theorem credits_of_paid (sound : entry.Sound db) (credits : entry.Credits db)
    (paid : entry.invoice.paymentId = some id) : entry.credits = none := by
  cases own : entry.credits with
  | none => rfl
  | some payment =>
    obtain ⟨k, inv, row, of, about⟩ := credits.credited payment own
    obtain ⟨stored, -, rectifies⟩ := sound.rectify about
    rw [rectifies.payment] at paid
    cases paid

include held

theorem Owed.credit {delta : ℤ} (rows : db.Rows) (tied : db.Tied) (place : running[i]? = some (.crediting id delta))
    (found : db.invoiceOf id = some q) (positive : 0 < delta) :
    Owed ⟨db, resume running i
      (some (.rectifying q.1 (creditInput delta q.2.total) (some id)))⟩ := by
  obtain ⟨there, of⟩ := invoiceOf_some found
  have row : db.ledger.find q.1 = some q.2.unstatus := by
    rw [find_ledger, there]
    rfl
  obtain ⟨-, p, paid⟩ := tied.invoice q.1 _ id row of
  have credited := held.credited id _ q.1 _ (find_refunded paid) row of
  have owes := owes_le_owed place id
  rw [PlatformCall.owes, if_pos rfl] at owes
  have before := rows.credited q.1
  have total : q.2.unstatus.total = q.2.total := rfl
  have amount : round2 ((creditInput delta q.2.total).amount.getD 0) = min delta q.2.total :=
    round2_euros _
  refine held.of_same rfl rfl fun j => ?_
  have change := owed_resume place
    (some (.rectifying q.1 (creditInput delta q.2.total) (some id))) j
  dsimp only at credited
  rw [Option.map_some, Option.getD_some, PlatformCall.owes, PlatformCall.owes, amount] at change
  split at change <;> omega

theorem Owed.step (rows : db.Rows) (once : db.InvoicedOnce) (tied : db.Tied) (sound : call.Sound db)
    (claims : call.Claims db) (known : call.Credits db) (place : running[i]? = some call)
    (fits : returnsInTurn db call (.proceed env) = true) (made : stepPlatform db env call = some (db', rest)) :
    Owed ⟨db', resume running i rest⟩ := by
  have move := stepPlatform_move made
  cases move with
  | gone missing about =>
    refine held.of_same rfl rfl (owed_idle place (fun id => ?_) fun _ _ same => by cases same)
    rcases about with ⟨_, _, rfl⟩ | ⟨_, rfl⟩ | ⟨_, _, _, _, rfl⟩ <;> rfl
  | pays =>
    refine held.of_same rfl rfl (owed_idle place (fun _ => rfl) fun id call' same => ?_)
    cases same
    rw [PlatformCall.owes, if_neg]
    exact (Option.some_ne_none id).symm
  | settles | unclaimed =>
    exact held.of_same (settle_refunded db _ _) rfl
      (owed_idle place (fun _ => rfl) fun _ _ same => by cases same)
  | marks about =>
    refine held.of_same (Table.view_modify_same fun _ _ => rfl) rfl
      (owed_idle place (fun id => ?_) fun _ _ same => by cases same)
    rcases about with rfl | rfl <;> rfl
  | updates next =>
    exact held.of_same (Table.view_modify_same fun _ _ => rfl) rfl
      (owed_idle place (fun _ => rfl) (rest_idle next))
  | bounces found next =>
    refine held.of_same rfl rfl (owed_idle place (fun _ => rfl) fun id call' same => ?_)
    rw [next, Option.map_eq_some_iff] at same
    obtain ⟨payment, -, rfl⟩ := same
    rfl
  | pushes about next =>
    refine held.push tied rfl rfl rfl (owed_idle place (fun id => ?_) (rest_idle next))
    rcases about with ⟨_, rfl⟩ | ⟨_, rfl⟩ <;> rfl
  | collects =>
    refine held.push tied rfl rfl rfl (owed_idle place (fun _ => rfl) fun id call' same => ?_)
    cases same
    rfl
  | @refuses k input credits | @rectifies k input credits =>
    exact held.rectify rows tied place known (rectify_complete fits)
      (congrArg Prod.snd (Option.some.inj made)).symm
  | @locks entry free =>
    refine held.of_same rfl rfl fun id => ?_
    have change := owed_resume place
      (some (.inserting entry (db.lastNumber entry.invoice.series + 1))) id
    exact add_right_cancel change
  | inserts unpaid => exact held.insert rows once sound known place fits unpaid
  | repeats invoiced =>
    obtain ⟨id, paid⟩ := invoiced
    refine held.of_same rfl rfl fun j => ?_
    have left := owed_inserted place j
    rw [credits_of_paid sound known paid, if_neg (Option.some_ne_none j).symm] at left
    omega
  | claims found =>
    simp only [returnsInTurn, found, Option.all_some, Bool.and_eq_true, if_true] at fits
    exact held.claim once place found claims.2 fits.2.2
  | uncredited refused => exact held.uncredited rows tied once place refused
  | credits found positive => exact held.credit rows tied place found positive
  | _ =>
    refine held.of_same rfl rfl (owed_idle place (fun _ => rfl) fun id call' same => ?_)
    cases same
    try rfl

theorem Owed.fail (rows : db.Rows) (once : db.InvoicedOnce) (tied : db.Tied) (place : running[i]? = some call)
    (fits : returnsInTurn db call .fail = true) : Owed ⟨failPlatform db call, resume running i none⟩ := by
  cases call with
  | crediting id delta =>
    have absent := Option.isNone_iff_eq_none.mp fits
    refine held.uncredited rows tied once place fun q found => ?_
    rw [absent] at found
    cases found
  | rectifying k input credits =>
    cases credits with
    | none => exact held.of_same rfl rfl (owed_idle place (fun _ => rfl) fun _ _ same => by cases same)
    | some id => cases fits
  | numbering entry | inserting entry =>
    have free := Option.isNone_iff_eq_none.mp fits
    refine held.of_same rfl rfl (owed_idle place (fun id => ?_) fun _ _ same => by cases same)
    rw [PlatformCall.owes, free, if_neg (Option.some_ne_none id).symm]
  | _ =>
    exact held.of_same rfl rfl (owed_idle place (fun _ => rfl) fun _ _ same => by cases same)

end StorageOS
