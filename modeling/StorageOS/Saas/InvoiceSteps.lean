import StorageOS.Saas.PlatformInvoices

/-! What the steps do to the invoices: they lock a series and read its last number, insert the invoice
with the next one, and leave invoices and locks alone otherwise. -/

namespace StorageOS

open Processes

variable {db db' : PlatformDb} {call : PlatformCall} {rest : Option PlatformCall} {env : PlatformEnv}
  {input : PlatformInput}

theorem round2_euros (cents : ℤ) : round2 (euros cents) = cents := by
  rw [round2, euros, div_mul_cancel₀ _ (by norm_num), Int.floor_intCast_add]
  norm_num

theorem euros_sub (a b : ℤ) : euros a - euros b = euros (a - b) := by
  simp only [euros]
  push_cast
  ring

theorem euros_lt_margin {a b : ℤ} : euros a + 5 / 1000 < euros b ↔ a < b := by
  simp only [euros]
  constructor
  · intro h
    have : (a : ℚ) < b := by linarith
    exact_mod_cast this
  · intro h
    have : (a : ℚ) + 1 ≤ b := by exact_mod_cast h
    linarith

theorem euros_sub_lt_margin {a b : ℤ} : euros a - euros b < 5 / 1000 ↔ a ≤ b := by
  rw [euros_sub]
  simp only [euros]
  constructor
  · intro h
    by_contra less
    have : (1 : ℚ) ≤ ((a - b : ℤ) : ℚ) := by exact_mod_cast (by omega : 1 ≤ a - b)
    linarith
  · intro h
    have : ((a - b : ℤ) : ℚ) ≤ 0 := by exact_mod_cast (by omega : a - b ≤ 0)
    linarith

/-! ### Entries -/

/-- What the checks of `rectify` establish of its invoice, for the rectifications that it read. -/
structure RectifyEntry (id : PlatformInvoiceId) (total : ℤ) (entry : PlatformEntry) : Prop where
  fresh : entry.invoice.status = .issued
  payment : entry.invoice.paymentId = none
  method : (entry.invoice.rectifies = some (id, .substitution) ∧
      substitutionsIn id entry.seen = [] ∧ creditedIn id entry.seen ≤ 0 ∧
      entry.originalStatus = some .rectified) ∨
    (entry.invoice.rectifies = some (id, .differences) ∧ entry.invoice.total < 0 ∧
      creditedIn id entry.seen - entry.invoice.total ≤ total ∧
      entry.originalStatus = if total ≤ creditedIn id entry.seen - entry.invoice.total then
        some .cancelled else none)

theorem rectifyEntry_sound {id : PlatformInvoiceId} {original : PlatformInvoice}
    {rects : List (PlatformInvoiceId × PlatformInvoice)} {input : RectifyPlatformInvoiceInput}
    {credits : Option SubscriptionPaymentId} {entry : PlatformEntry}
    (h : rectifyEntry id original rects input credits env = some entry) :
    RectifyEntry id original.total entry ∧ original.invoiceType = .F1 ∧ entry.seen = rects ∧
      entry.credits = credits := by
  unfold rectifyEntry at h
  split at h
  · cases h
  rename_i allowed
  simp only [ne_eq, Bool.or_eq_true, decide_eq_true_eq, not_or, Decidable.not_not] at allowed
  dsimp only at h
  rw [euros_sub, round2_euros] at h
  split at h
  · split at h
    · cases h
    rename_i fits
    simp only [Bool.or_eq_true, Bool.not_eq_true', decide_eq_true_eq, not_or, Bool.not_eq_false,
      List.isEmpty_iff, not_lt] at fits
    cases h
    exact ⟨⟨rfl, rfl, .inl ⟨rfl, fits.1.1, fits.1.2, rfl⟩⟩, allowed.1.1, rfl, rfl⟩
  · split at h
    · cases h
    rename_i fits
    simp only [Bool.or_eq_true, decide_eq_true_eq, not_or, not_le, euros_lt_margin, not_lt] at fits
    cases h
    refine ⟨⟨rfl, rfl, .inr ⟨rfl, by dsimp only; omega, by dsimp only; omega, ?_⟩⟩,
      allowed.1.1, rfl, rfl⟩
    simp only [euros_sub_lt_margin]
    congr 1
    rw [eq_iff_iff]
    omega

/-! ### Steps -/

def PlatformDb.claim (db : PlatformDb) (id : SubscriptionPaymentId) (amount target : ℤ) :
    PlatformDb :=
  { db with payments := db.payments.modify id fun p =>
      { p with
        refundedAmount := target
        status := if amount ≤ target then .refunded else .partiallyRefunded } }

inductive PlatformMove (db : PlatformDb) (env : PlatformEnv) :
    PlatformCall → PlatformDb → Option PlatformCall → Prop
  | invoiced {id : SubscriptionPaymentId} : PlatformMove db env (.issuing id) db none
  | issues {id : SubscriptionPaymentId} : PlatformMove db env (.issuing id) db (some (.paying id))
  | unpaid {id : SubscriptionPaymentId} : PlatformMove db env (.paying id) db none
  | pays {id : SubscriptionPaymentId} {p : SubscriptionPayment}
      (found : db.payments.find id = some p) (isPaid : p.status = .paid) :
    PlatformMove db env (.paying id) db (some (.numbering (issueEntry id p env)))
  | refuses {id : PlatformInvoiceId} {input : RectifyPlatformInvoiceInput}
      {credits : Option SubscriptionPaymentId}
      (refused : ∀ original, db.invoices.find id = some original →
        rectifyEntry id original (db.rectifications id) input credits env = none) :
    PlatformMove db env (.rectifying id input credits) db none
  | rectifies {id : PlatformInvoiceId} {input : RectifyPlatformInvoiceInput}
      {credits : Option SubscriptionPaymentId} {original : PlatformInvoice} {entry : PlatformEntry}
      (found : db.invoices.find id = some original)
      (made : rectifyEntry id original (db.rectifications id) input credits env = some entry) :
    PlatformMove db env (.rectifying id input credits) db (some (.numbering entry))
  | locks {entry : PlatformEntry} (free : entry.invoice.series ∉ db.locked) :
    PlatformMove db env (.numbering entry)
      { db with locked := entry.invoice.series :: db.locked }
      (some (.inserting entry (db.lastNumber entry.invoice.series + 1)))
  | inserts {entry : PlatformEntry} {number : ℕ}
      (unpaid : ∀ id, entry.invoice.paymentId = some id → db.invoiceOf id = none) :
    PlatformMove db env (.inserting entry number) (db.insert entry number) none
  | repeats {entry : PlatformEntry} {number : ℕ}
      (invoiced : ∃ id, entry.invoice.paymentId = some id) :
    PlatformMove db env (.inserting entry number)
      { db with locked := db.locked.erase entry.invoice.series } none
  | gone {id : SubscriptionPaymentId} {call : PlatformCall} (missing : db.payments.find id = none)
      (about : (∃ dispute amount, call = .losing id dispute amount) ∨
        (∃ back, call = .refunding id back) ∨
        ∃ back before amount target, call = .claiming id back before amount target) :
    PlatformMove db env call db none
  | loses {id : SubscriptionPaymentId} {dispute : DisputeId} {amount : ℕ} {p : SubscriptionPayment}
      (found : db.payments.find id = some p) :
    PlatformMove db env (.losing id dispute amount) db
      (some (.refunding id (.dispute dispute amount p.refundedAmount)))
  | settles {id : SubscriptionPaymentId} {back : PaymentReturn} {p : SubscriptionPayment}
      (found : db.payments.find id = some p)
      (covered : min back.total p.amount ≤ p.refundedAmount) :
    PlatformMove db env (.refunding id back) (db.settle id back) none
  | reads {id : SubscriptionPaymentId} {back : PaymentReturn} {p : SubscriptionPayment}
      (found : db.payments.find id = some p)
      (more : p.refundedAmount < min back.total p.amount) :
    PlatformMove db env (.refunding id back) db
      (some (.claiming id back p.refundedAmount p.amount (min back.total p.amount)))
  | unclaimed {id : SubscriptionPaymentId} {back : PaymentReturn} {before amount target : ℤ}
      {p : SubscriptionPayment} (found : db.payments.find id = some p)
      (changed : p.refundedAmount ≠ before) :
    PlatformMove db env (.claiming id back before amount target) (db.settle id back) none
  | claims {id : SubscriptionPaymentId} {back : PaymentReturn} {amount target : ℤ}
      {p : SubscriptionPayment} (found : db.payments.find id = some p) :
    PlatformMove db env (.claiming id back p.refundedAmount amount target)
      ((db.claim id amount target).settle id back)
      (some (.crediting id (target - p.refundedAmount)))
  | uncredited {id : SubscriptionPaymentId} {delta : ℤ}
      (none_ : ∀ q, db.invoiceOf id = some q → delta ≤ 0 ∨ q.2.status = .cancelled) :
    PlatformMove db env (.crediting id delta) db none
  | credits {id : SubscriptionPaymentId} {delta : ℤ} {q : PlatformInvoiceId × PlatformInvoice}
      (found : db.invoiceOf id = some q) (positive : 0 < delta) :
    PlatformMove db env (.crediting id delta) db
      (some (.rectifying q.1 (creditInput delta q.2.total) (some id)))
  | marks {call : PlatformCall} {id : SubscriptionPaymentId} {disputed : Bool}
      (about : call = .disputing id ∨ call = .winning id) :
    PlatformMove db env call
      { db with payments := db.payments.modify id fun p => { p with disputed } } none
  | unbounced {item : PlatformSepaItemId} : PlatformMove db env (.bouncing item) db none
  | bounces {item : PlatformSepaItemId} {row : PlatformSepaItem} {rest : Option PlatformCall}
      (found : db.items.find item = some row)
      (next : rest = row.paymentId.map fun id => .refunding id (.bounce item row.amount)) :
    PlatformMove db env (.bouncing item)
      { db with items := db.items.modify item fun i => { i with bounced := true } } rest
  | syncs {invoice : StripeInvoice} {id : SubscriptionPaymentId} {p : SubscriptionPayment} :
    PlatformMove db env (.syncing invoice) db (some (.updating id p.status invoice))
  | syncsNew {invoice : StripeInvoice} :
    PlatformMove db env (.syncing invoice) db (some (.recording invoice))
  | updates {id : SubscriptionPaymentId} {status : SubscriptionPaymentStatus}
      {invoice : StripeInvoice} {rest : Option PlatformCall}
      (next : ∀ r, rest = some r → r = .issuing id) :
    PlatformMove db env (.updating id status invoice)
      { db with payments := db.payments.modify id fun p =>
          { p with status := invoice.status.1, amount := invoice.amount } } rest
  | recorded {invoice : StripeInvoice} : PlatformMove db env (.recording invoice) db none
  | pushes {call : PlatformCall} {externalId : Option StripeInvoiceId} {amount : ℤ}
      {status : SubscriptionPaymentStatus} {rest : Option PlatformCall}
      (about : (∃ invoice, call = .recording invoice) ∨ ∃ amount, call = .paid amount)
      (next : ∀ r, rest = some r → r = .issuing db.payments.nextKey) :
    PlatformMove db env call
      { db with payments := db.payments.push (newPayment externalId amount status) } rest
  | collects {amount : ℕ} : PlatformMove db env (.collected amount)
      { db with
        payments := db.payments.push (newPayment none amount .paid)
        items := db.items.push ⟨some db.payments.nextKey, amount, false⟩ }
      (some (.issuing db.payments.nextKey))

theorem readReturn_move (db : PlatformDb) (env : PlatformEnv) (id : SubscriptionPaymentId)
    (back : PaymentReturn) :
    PlatformMove db env (.refunding id back) (readReturn db id back).1 (readReturn db id back).2 := by
  unfold readReturn
  split
  · rename_i missing
    exact .gone missing (.inr (.inl ⟨back, rfl⟩))
  · rename_i p found
    dsimp only
    split
    · exact .settles found (by omega)
    · exact .reads found (by omega)

theorem claimReturn_move (db : PlatformDb) (env : PlatformEnv) (id : SubscriptionPaymentId)
    (back : PaymentReturn) (before amount target : ℤ) :
    PlatformMove db env (.claiming id back before amount target)
      (claimReturn db id back before amount target).1
      (claimReturn db id back before amount target).2 := by
  unfold claimReturn
  split
  · rename_i missing
    exact .gone missing (.inr (.inr ⟨back, before, amount, target, rfl⟩))
  · rename_i p found
    split
    · rename_i changed
      exact .unclaimed found changed
    · rename_i same
      obtain rfl := not_ne_iff.mp same
      exact .claims found

theorem payingEntry_move (db : PlatformDb) (env : PlatformEnv) (id : SubscriptionPaymentId) :
    PlatformMove db env (.paying id) db (payingEntry db id env) := by
  unfold payingEntry
  split
  · exact .unpaid
  · rename_i p found
    split
    · exact .unpaid
    · rename_i allowed
      simp only [ne_eq, Bool.or_eq_true, decide_eq_true_eq, not_or, Decidable.not_not] at allowed
      exact .pays found allowed.1.1.1

theorem creditForPayment_move (db : PlatformDb) (env : PlatformEnv) (id : SubscriptionPaymentId)
    (delta : ℤ) :
    PlatformMove db env (.crediting id delta) db (creditForPayment db id delta) := by
  unfold creditForPayment
  split
  · rename_i missing
    exact .uncredited fun q found => by rw [missing] at found; cases found
  · rename_i i inv found
    split
    · rename_i refused
      refine .uncredited fun q found' => ?_
      rw [found] at found'
      cases found'
      simpa using refused
    · rename_i allowed
      simp only [Bool.or_eq_true, decide_eq_true_eq, not_or, not_le] at allowed
      exact .credits found allowed.1

theorem stepPlatform_move (h : stepPlatform db env call = some (db', rest)) :
    PlatformMove db env call db' rest := by
  cases call with
  | issuing id =>
    cases h
    split
    · exact .invoiced
    · exact .issues
  | paying id =>
    cases h
    exact payingEntry_move db env id
  | rectifying id input credits =>
    cases h
    cases found : db.invoices.find id with
    | none => exact .refuses fun original found' => by rw [found] at found'; cases found'
    | some original =>
      cases made : rectifyEntry id original (db.rectifications id) input credits env with
      | none =>
        rw [Option.bind_some, made]
        refine .refuses fun original' found' => ?_
        rw [found] at found'
        cases found'
        exact made
      | some entry =>
        rw [Option.bind_some, made]
        exact .rectifies found made
  | numbering entry =>
    rw [stepPlatform] at h
    split at h
    · cases h
    · rename_i free
      cases h
      exact .locks free
  | inserting entry number =>
    rw [stepPlatform] at h
    split at h
    · rename_i invoiced
      obtain ⟨id, paid, -⟩ := (Option.any_eq_true _ _).mp invoiced
      cases h
      exact .repeats ⟨id, paid⟩
    · rename_i free
      cases h
      refine .inserts fun id paid => ?_
      simpa [paid] using free
  | losing id dispute amount =>
    cases h
    cases found : db.payments.find id with
    | none => exact .gone found (.inl ⟨dispute, amount, rfl⟩)
    | some p => exact .loses found
  | refunding id back =>
    rw [stepPlatform, Option.some.injEq] at h
    have move := readReturn_move db env id back
    rwa [h] at move
  | claiming id back before amount target =>
    rw [stepPlatform, Option.some.injEq] at h
    have move := claimReturn_move db env id back before amount target
    rwa [h] at move
  | crediting id delta =>
    cases h
    exact creditForPayment_move db env id delta
  | disputing id =>
    cases h
    exact .marks (.inl rfl)
  | winning id =>
    cases h
    exact .marks (.inr rfl)
  | bouncing item =>
    rw [stepPlatform] at h
    split at h
    · cases h
      exact .unbounced
    · rename_i row found
      split at h
      · cases h
        exact .unbounced
      · cases h
        exact .bounces found rfl
  | syncing invoice =>
    cases h
    split
    · exact .syncs
    · exact .syncsNew
  | updating id status invoice =>
    cases h
    refine .updates fun r same => ?_
    split at same <;> cases same
    rfl
  | recording invoice =>
    rw [stepPlatform] at h
    split at h
    · cases h
      exact .recorded
    · cases h
      refine .pushes (.inl ⟨invoice, rfl⟩) fun r same => ?_
      split at same <;> cases same
      rfl
  | paid amount =>
    cases h
    exact .pushes (.inr ⟨amount, rfl⟩) fun r same => (Option.some.inj same).symm
  | collected amount =>
    cases h
    exact .collects

theorem nextPlatform_move (h : nextPlatform db call input = some (db', rest)) :
    (∃ env, input = .proceed env ∧ PlatformMove db env call db' rest) ∨
      (input = .fail ∧ db' = failPlatform db call ∧ rest = none) := by
  cases input with
  | proceed env => exact .inl ⟨env, rfl, stepPlatform_move h⟩
  | fail =>
    cases h
    exact .inr ⟨rfl, rfl, rfl⟩

end StorageOS
