import StorageOS.Saas.RectifiedOnce

/-! What is returned of the subscription payments. A payment is refunded what was returned of it, up to
its amount, and is not shown as paid then, as long as each notice adds to what is refunded what it
returns. -/

namespace StorageOS

open Transition Processes

variable {db db' : PlatformDb} {call : PlatformCall} {rest : Option PlatformCall} {env : PlatformEnv}
  {input : PlatformInput} {p : SubscriptionPayment} {back : PaymentReturn} {amount target : ℤ}
  {id k : SubscriptionPaymentId}

/-! ### Payments -/

def SubscriptionPayment.lostAmount (p : SubscriptionPayment) : ℕ := (p.lost.map Prod.snd).sum

/-- The money returned of a payment: its refunds and its lost disputes. -/
def SubscriptionPayment.returned (p : SubscriptionPayment) : ℤ := p.refunds + p.lostAmount

/-- The notice adds what it returns. Refunds are notified with what they total, so that they must not
follow a lost dispute, and a lost dispute must be new and find refunded what it had read; or the payment
is refunded in full. -/
def PaymentReturn.fits (p : SubscriptionPayment) : PaymentReturn → Bool
  | .refund total | .bounce _ total =>
    p.lostAmount = 0 || total ≤ p.refunds || p.amount ≤ max p.refundedAmount total
  | .dispute id amount base =>
    if id ∈ p.lost.map Prod.fst then base + amount ≤ p.refundedAmount || p.amount ≤ p.refundedAmount
    else base = p.refundedAmount || p.amount ≤ max p.refundedAmount (base + amount)

structure SubscriptionPayment.Returned (p : SubscriptionPayment) : Prop where
  refunded : p.refundedAmount = min p.returned (max 0 p.amount)
  unpaid : 0 < p.refundedAmount → p.status ≠ .paid

@[simp] theorem settle_amount (p : SubscriptionPayment) (back : PaymentReturn) :
    (p.settle back).amount = p.amount := by
  cases back with
  | refund | bounce => rfl
  | dispute dispute =>
    rw [SubscriptionPayment.settle]
    split <;> rfl

@[simp] theorem settle_refundedAmount (p : SubscriptionPayment) (back : PaymentReturn) :
    (p.settle back).refundedAmount = p.refundedAmount := by
  cases back with
  | refund | bounce => rfl
  | dispute dispute =>
    rw [SubscriptionPayment.settle]
    split <;> rfl

@[simp] theorem settle_status (p : SubscriptionPayment) (back : PaymentReturn) :
    (p.settle back).status = p.status := by
  cases back with
  | refund | bounce => rfl
  | dispute dispute =>
    rw [SubscriptionPayment.settle]
    split <;> rfl

/-- A refund is settled up to its total, and a dispute that was not settled adds its amount. -/
theorem returned_settle (p : SubscriptionPayment) (back : PaymentReturn) :
    (p.settle back).returned = match back with
      | .refund total | .bounce _ total => max (p.refunds : ℤ) total + p.lostAmount
      | .dispute dispute amount _ =>
        if dispute ∈ p.lost.map Prod.fst then p.returned else p.returned + amount := by
  cases back with
  | refund total =>
    simp [SubscriptionPayment.returned, SubscriptionPayment.settle, SubscriptionPayment.lostAmount]
  | bounce item total =>
    simp [SubscriptionPayment.returned, SubscriptionPayment.settle, SubscriptionPayment.lostAmount]
  | dispute dispute amount base =>
    simp only [SubscriptionPayment.settle]
    split
    · rfl
    · simp only [SubscriptionPayment.returned, SubscriptionPayment.lostAmount, List.map_cons,
        List.sum_cons]
      push_cast
      ring

def PaymentReturn.base (p : SubscriptionPayment) : PaymentReturn → Prop
  | .dispute _ _ base => base ≤ p.refundedAmount
  | .refund _ | .bounce _ _ => True

/-- The cap on what was returned after a notice: nothing is left to refund, or the notice refunds what it
returns. -/
theorem SubscriptionPayment.Returned.capped_settle (returned : p.Returned) (fits : back.fits p = true)
    (known : back.base p) :
    min (p.settle back).returned (max 0 p.amount) =
      max p.refundedAmount (min back.total p.amount) := by
  have refunded := returned.refunded
  rw [returned_settle]
  rw [SubscriptionPayment.returned] at refunded
  cases back with
  | refund total | bounce item total =>
    simp only [PaymentReturn.fits, Bool.or_eq_true, decide_eq_true_eq] at fits
    simp only [PaymentReturn.total]
    omega
  | dispute dispute amount base =>
    simp only [PaymentReturn.fits] at fits
    simp only [PaymentReturn.total, PaymentReturn.base] at known ⊢
    rw [SubscriptionPayment.returned]
    split at fits
    · rename_i settled
      simp only [Bool.or_eq_true, decide_eq_true_eq] at fits
      rw [if_pos settled]
      omega
    · rename_i new
      simp only [Bool.or_eq_true, decide_eq_true_eq] at fits
      rw [if_neg new]
      omega

theorem SubscriptionPayment.Returned.settle (returned : p.Returned) (fits : back.fits p = true)
    (known : back.base p) (covered : min back.total p.amount ≤ p.refundedAmount) :
    (p.settle back).Returned := by
  have capped := returned.capped_settle fits known
  refine ⟨?_, fun positive => ?_⟩
  · rw [settle_refundedAmount, settle_amount, capped, max_eq_left covered]
  · rw [settle_refundedAmount] at positive
    rw [settle_status]
    exact returned.unpaid positive

def SubscriptionPayment.claim (amount target : ℤ) (p : SubscriptionPayment) : SubscriptionPayment :=
  { p with
    refundedAmount := target
    status := if amount ≤ target then .refunded else .partiallyRefunded }

theorem returned_claim (p : SubscriptionPayment) (amount target : ℤ) (back : PaymentReturn) :
    ((p.claim amount target).settle back).returned = (p.settle back).returned := by
  cases back with
  | refund | bounce => rfl
  | dispute dispute =>
    rw [SubscriptionPayment.settle, SubscriptionPayment.settle]
    split <;> rename_i settled <;> split <;> first | rfl | contradiction

theorem SubscriptionPayment.Returned.claim (returned : p.Returned) (fits : back.fits p = true)
    (known : back.base p) (next : target = min back.total p.amount) (more : p.refundedAmount < target)
    (amount : ℤ) : ((p.claim amount target).settle back).Returned := by
  have capped := returned.capped_settle fits known
  refine ⟨?_, fun _ => ?_⟩
  · rw [returned_claim, settle_amount, settle_refundedAmount]
    have same : (p.claim amount target).amount = p.amount := rfl
    rw [same, capped, ← next, max_eq_right more.le]
    rfl
  · rw [settle_status, SubscriptionPayment.claim]
    split <;> exact nofun

/-! ### Conditions -/

/-- Each notice adds what it returns to a payment that stays as it was read, within its invoice. What is claimed is
credited, and a returned debit is claimed. A refunded payment is not invoiced. Only what is returned is credited. -/
def returnsInTurn (db : PlatformDb) : PlatformCall → PlatformInput → Bool
  | .refunding id back, .proceed _ => (db.payments.find id).all fun p =>
    p.refundedAmount < min back.total p.amount || back.fits p
  | .claiming id back before _ target, .proceed _ => (db.payments.find id).all fun p =>
    back.fits p && if p.refundedAmount = before then
      target = min back.total p.amount && (db.invoiceOf id).all fun q => target ≤ q.2.total
    else min back.total p.amount ≤ p.refundedAmount
  | .refunding _ (.bounce ..), .fail | .claiming _ (.bounce ..) .., .fail => false
  | .crediting id _, .fail => (db.invoiceOf id).isNone
  | .rectifying _ _ (some _), .proceed env => !env.issuerMissing
  | .rectifying _ _ (some _), .fail => false
  | .numbering entry, .fail | .inserting entry _, .fail => entry.credits.isNone
  | .inserting entry _, .proceed _ =>
    (entry.invoice.rectifies.all fun r => r.2 = .substitution || entry.credits.isSome) &&
    (entry.invoice.paymentId.all fun id => (db.invoiceOf id).isSome ||
      (db.payments.find id).all fun p => p.refundedAmount = 0)
  | .updating id _ invoice, .proceed _ => (db.payments.find id).all fun p =>
    (p.refundedAmount = 0 || invoice.status.1 ≠ .paid) &&
    min p.returned (max 0 invoice.amount) = p.refundedAmount
  | _, _ => true

/-! ### Steps -/

def PlatformDb.Grows (db db' : PlatformDb) : Prop :=
  ∀ id p, db.payments.find id = some p → ∃ p', db'.payments.find id = some p' ∧
    p.refundedAmount ≤ p'.refundedAmount ∧ p.refunds ≤ p'.refunds

theorem PlatformDb.Grows.of_same (same : db'.payments = db.payments) : db.Grows db' := by
  intro id p found
  exact ⟨p, by rw [same, found], le_rfl, le_rfl⟩

variable {f : SubscriptionPayment → SubscriptionPayment}

theorem PlatformDb.Grows.of_modify (changed : db'.payments = db.payments.modify k f)
    (more : ∀ p, db.payments.find k = some p → p.refundedAmount ≤ (f p).refundedAmount ∧ p.refunds ≤ (f p).refunds) :
    db.Grows db' := by
  intro id p found
  rw [changed]
  exact Table.exists_find_modify found (more p) ⟨le_rfl, le_rfl⟩

theorem PlatformDb.Grows.of_push {payment : SubscriptionPayment}
    (changed : db'.payments = db.payments.push payment) : db.Grows db' := by
  intro id p found
  rw [changed]
  exact ⟨p, Table.find_push_of_some found _, le_rfl, le_rfl⟩

theorem refunds_le_settle (p : SubscriptionPayment) (back : PaymentReturn) :
    p.refunds ≤ (p.settle back).refunds := by
  cases back with
  | refund | bounce => exact le_max_left _ _
  | dispute dispute =>
    rw [SubscriptionPayment.settle]
    split <;> exact le_rfl

/-- A dispute is notified with what was refunded before of a stored payment. -/
def PaymentReturn.Based (db : PlatformDb) (id : SubscriptionPaymentId) : PaymentReturn → Prop
  | .dispute _ _ base => ∃ p, db.payments.find id = some p ∧ base ≤ p.refundedAmount
  | .refund _ | .bounce _ _ => True

theorem PaymentReturn.Based.known (based : back.Based db id) (found : db.payments.find id = some p) :
    back.base p := by
  cases back with
  | refund | bounce => trivial
  | dispute =>
    obtain ⟨p', found', known⟩ := based
    rw [found] at found'
    cases found'
    exact known

theorem PaymentReturn.Based.keep (based : back.Based db id) (grows : db.Grows db') :
    back.Based db' id := by
  cases back with
  | refund | bounce => trivial
  | dispute =>
    obtain ⟨p, found, known⟩ := based
    obtain ⟨p', found', more, -⟩ := grows id p found
    exact ⟨p', found', known.trans more⟩

def PlatformCall.Claims (db : PlatformDb) : PlatformCall → Prop
  | .refunding id back => back.Based db id
  | .claiming id back before _ target => back.Based db id ∧ before < target
  | _ => True

theorem PlatformCall.Claims.keep (claims : call.Claims db) (grows : db.Grows db') :
    call.Claims db' := by
  cases call with
  | refunding => exact PaymentReturn.Based.keep claims grows
  | claiming => exact ⟨claims.1.keep grows, claims.2⟩
  | _ => trivial

theorem PlatformMove.claimed {call' : PlatformCall}
    (move : PlatformMove db env call db' (some call')) (claims : call.Claims db) :
    call'.Claims db' := by
  cases move with
  | @loses id dispute amount p found => exact ⟨p, found, le_rfl⟩
  | reads found more => exact ⟨claims, more⟩
  | pushes about next | updates next =>
    rw [next call' rfl]
    trivial
  | bounces found next =>
    obtain ⟨id, -, rfl⟩ := Option.map_eq_some_iff.mp next.symm
    trivial
  | _ => trivial

theorem claim_settle_payments (db : PlatformDb) (id : SubscriptionPaymentId) (amount target : ℤ)
    (back : PaymentReturn) : ((db.claim id amount target).settle id back).payments =
      db.payments.modify id fun p => (p.claim amount target).settle back :=
  Table.modify_modify db.payments id (SubscriptionPayment.claim amount target) fun p => p.settle back

theorem PlatformMove.grows (move : PlatformMove db env call db' rest) (claims : call.Claims db) :
    db.Grows db' := by
  cases move with
  | settles | unclaimed =>
    exact .of_modify rfl fun p _ => ⟨(settle_refundedAmount p _).ge, refunds_le_settle p _⟩
  | @claims id back amount target p found =>
    refine .of_modify (claim_settle_payments db id amount target back) fun p' there => ?_
    rw [found] at there
    cases there
    exact ⟨(settle_refundedAmount (p.claim amount target) back).ge.trans' claims.2.le,
      refunds_le_settle (p.claim amount target) back⟩
  | @marks _ id disputed =>
    exact .of_modify (f := fun p => { p with disputed }) rfl fun _ _ => ⟨le_rfl, le_rfl⟩
  | @updates id _ invoice =>
    exact .of_modify (f := fun p => { p with status := invoice.status.1, amount := invoice.amount }) rfl
      fun _ _ => ⟨le_rfl, le_rfl⟩
  | pushes | collects => exact .of_push rfl
  | _ =>
    exact .of_same rfl

def PlatformDb.Returned (db : PlatformDb) : Prop :=
  ∀ id p, db.payments.find id = some p → p.Returned

theorem PlatformDb.Returned.of_same (returned : db.Returned) (same : db'.payments = db.payments) :
    db'.Returned := by
  intro id p found
  rw [same] at found
  exact returned id p found

theorem PlatformDb.Returned.of_modify (returned : db.Returned) (changed : db'.payments = db.payments.modify k f)
    (row : ∀ p, db.payments.find k = some p → (f p).Returned) : db'.Returned := by
  intro id p found
  rw [changed] at found
  rcases Table.find_modify_cases found with ⟨-, before⟩ | ⟨rfl, p, before, rfl⟩
  · exact returned id p before
  · exact row p before

theorem PlatformDb.Returned.of_push {externalId : Option StripeInvoiceId}
    {status : SubscriptionPaymentStatus} (returned : db.Returned)
    (changed : db'.payments = db.payments.push (newPayment externalId amount status)) :
    db'.Returned := by
  intro id p found
  rw [changed, Table.find_push] at found
  split at found
  · cases found
    refine ⟨?_, fun positive => absurd positive (lt_irrefl 0)⟩
    have nothing : (newPayment externalId amount status).returned = 0 := rfl
    rw [nothing, min_eq_left (le_max_left 0 _)]
    rfl
  · exact returned id p found

theorem PlatformDb.Returned.settle (returned : db.Returned) (based : back.Based db id)
    (found : db.payments.find id = some p) (fits : back.fits p = true)
    (covered : min back.total p.amount ≤ p.refundedAmount) : (db.settle id back).Returned := by
  refine returned.of_modify (f := fun p => p.settle back) rfl fun p' there => ?_
  rw [found] at there
  cases there
  exact (returned id p found).settle fits (based.known found) covered

theorem PlatformMove.returned (move : PlatformMove db env call db' rest) (claims : call.Claims db)
    (returned : db.Returned) (fits : returnsInTurn db call (.proceed env) = true) : db'.Returned := by
  cases move with
  | @settles id back p found covered =>
    simp only [returnsInTurn, found, Option.all_some, Bool.or_eq_true, decide_eq_true_eq] at fits
    exact returned.settle claims found (fits.resolve_left (not_lt.mpr covered)) covered
  | @unclaimed id back before amount target p found changed =>
    simp only [returnsInTurn, found, Option.all_some, Bool.and_eq_true, if_neg changed,
      decide_eq_true_eq] at fits
    exact returned.settle claims.1 found fits.1 fits.2
  | @claims id back amount target p found =>
    simp only [returnsInTurn, found, Option.all_some, Bool.and_eq_true, if_true,
      decide_eq_true_eq] at fits
    refine returned.of_modify (claim_settle_payments db id amount target back) fun p' there => ?_
    rw [found] at there
    cases there
    exact (returned id p found).claim fits.1 (claims.1.known found) fits.2.1 claims.2 amount
  | @marks _ id disputed =>
    refine returned.of_modify (f := fun p => { p with disputed }) rfl fun p found => ?_
    exact ⟨(returned id p found).refunded, (returned id p found).unpaid⟩
  | @updates id _ invoice =>
    refine returned.of_modify (f := fun p =>
      { p with status := invoice.status.1, amount := invoice.amount }) rfl fun p found => ?_
    simp only [returnsInTurn, found, Option.all_some, Bool.and_eq_true, Bool.or_eq_true,
      decide_eq_true_eq] at fits
    refine ⟨fits.2.symm, fun positive => ?_⟩
    exact fits.1.resolve_left (ne_of_gt positive)
  | pushes | collects => exact returned.of_push rfl
  | _ =>
    exact returned.of_same rfl

end StorageOS
