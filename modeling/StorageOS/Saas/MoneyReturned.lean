import StorageOS.Saas.ReturnCredits

/-! The money returned of the subscription payments is refunded, claimed and credited once in every run
whose notices come in turn. -/

namespace StorageOS

open Transition Processes

variable {db db' : PlatformDb} {call : PlatformCall} {rest : Option PlatformCall} {env : PlatformEnv}
  {input : PlatformInput} {id : SubscriptionPaymentId} {running : List PlatformCall} {i : ℕ}

/-! ### Returned debits -/

def PlatformCall.bounces (id : SubscriptionPaymentId) (item : PlatformSepaItemId) (amount : ℕ) :
    PlatformCall → Prop
  | .refunding payment back | .claiming payment back .. => payment = id ∧ back = .bounce item amount
  | _ => False

/-- A returned debit is among the refunds of its payment, or a request claims it. -/
def Bounced (s : State PlatformDb PlatformCall) : Prop :=
  ∀ item row id, s.db.items.find item = some row → row.bounced = true → row.paymentId = some id →
    (∃ p, s.db.payments.find id = some p ∧ row.amount ≤ p.refunds) ∨
    ∃ call ∈ s.running, call.bounces id item row.amount

variable {item : PlatformSepaItemId} {amount : ℕ} {p : SubscriptionPayment}

theorem settle_bounce (found : db.payments.find id = some p) : ∃ p',
      (db.settle id (.bounce item amount)).payments.find id = some p' ∧ amount ≤ p'.refunds := by
  refine ⟨p.settle (.bounce item amount), ?_, le_max_right _ _⟩
  rw [PlatformDb.settle, Table.find_modify_self, found]
  rfl

/-- A request that claims a returned debit goes on claiming it until it is among the refunds. -/
theorem PlatformMove.handed (move : PlatformMove db env call db' rest) (there : db.payments.find id = some p)
    (does : call.bounces id item amount) :
    (∃ call', rest = some call' ∧ call'.bounces id item amount) ∨
      ∃ p', db'.payments.find id = some p' ∧ amount ≤ p'.refunds := by
  cases move with
  | gone missing about =>
    rcases about with ⟨_, _, rfl⟩ | ⟨_, rfl⟩ | ⟨_, _, _, _, rfl⟩
    · cases does
    · rw [does.1, there] at missing
      cases missing
    · rw [does.1, there] at missing
      cases missing
  | settles found | unclaimed found =>
    obtain ⟨rfl, rfl⟩ := does
    exact .inr (settle_bounce found)
  | reads found =>
    obtain ⟨rfl, rfl⟩ := does
    exact .inl ⟨_, rfl, rfl, rfl⟩
  | @claims id back amount target p found =>
    obtain ⟨rfl, rfl⟩ := does
    have claimed : (db.claim id amount target).payments.find id = some (p.claim amount target) := by
      rw [PlatformDb.claim, Table.find_modify_self, found]
      rfl
    exact .inr (settle_bounce claimed)
  | marks about => rcases about with rfl | rfl <;> cases does
  | pushes about => rcases about with ⟨_, rfl⟩ | ⟨_, rfl⟩ <;> cases does
  | _ =>
    cases does

variable (bounced : Bounced ⟨db, running⟩)
include bounced

theorem Bounced.keep (tied : db.Tied) (grows : db.Grows db') (place : running[i]? = some call)
    (handed : ∀ id item amount p, db.payments.find id = some p → call.bounces id item amount →
      (∃ call', rest = some call' ∧ call'.bounces id item amount) ∨
        ∃ p', db'.payments.find id = some p' ∧ amount ≤ p'.refunds) {row : PlatformSepaItem}
    (found : db.items.find item = some row) (back : row.bounced = true) (of : row.paymentId = some id) :
    (∃ p, db'.payments.find id = some p ∧ row.amount ≤ p.refunds) ∨
      ∃ call ∈ resume running i rest, call.bounces id item row.amount := by
  obtain ⟨p, stored⟩ := tied.item item row id found of
  rcases bounced item row id found back of with ⟨p', stored', covered⟩ | claimed
  · obtain ⟨p'', stored'', -, more⟩ := grows id p' stored'
    exact .inl ⟨p'', stored'', covered.trans more⟩
  · by_cases settled : ∃ p', db'.payments.find id = some p' ∧ row.amount ≤ p'.refunds
    · exact .inl settled
    · refine .inr (exists_resume place claimed fun does => ?_)
      exact (handed id item row.amount p stored does).resolve_right settled

theorem Bounced.step (tied : db.Tied) (claims : call.Claims db) (place : running[i]? = some call)
    (move : PlatformMove db env call db' rest) : Bounced ⟨db', resume running i rest⟩ := by
  have grows := move.grows claims
  have kept : ∀ {item row id}, db.items.find item = some row → row.bounced = true →
      row.paymentId = some id → _ :=
    fun found back of => bounced.keep tied grows place (fun _ _ _ _ there => move.handed there)
      found back of
  intro item row id found back of
  cases move with
  | @bounces item' row' rest found' next =>
    rcases Table.find_modify_cases found with ⟨-, before⟩ | ⟨rfl, row'', before, rfl⟩
    · exact kept before back of
    · rw [found'] at before
      cases before
      have of : row'.paymentId = some id := of
      rw [of] at next
      subst next
      exact .inr ⟨_, mem_resume_self place _, rfl, rfl⟩
  | collects =>
    dsimp only at found
    rw [Table.find_push] at found
    split at found
    · cases found
      cases back
    · exact kept found back of
  | _ => exact kept found back of

theorem Bounced.fail (tied : db.Tied) (place : running[i]? = some call) (fits : returnsInTurn db call .fail = true) :
    Bounced ⟨failPlatform db call, resume running i none⟩ := by
  have payments : (failPlatform db call).payments = db.payments := by cases call <;> rfl
  have items : (failPlatform db call).items = db.items := by cases call <;> rfl
  intro item row id found back of
  dsimp only at found ⊢
  rw [items] at found
  refine bounced.keep tied (.of_same payments) place (fun payment _ _ _ _ does => ?_) found back of
  cases call with
  | refunding | claiming =>
    obtain ⟨rfl, rfl⟩ := does
    cases fits
  | _ => cases does

omit bounced

/-! ### Runs -/

/-- Each payment is refunded what was returned of it, up to its amount, and its invoice is credited that
much, beside the credits under way. A refunded payment is not shown as paid, and the returned debits are
among what is refunded or under way. -/
structure MoneyReturned (s : State PlatformDb PlatformCall) : Prop where
  refunded : ∀ id p, s.db.payments.find id = some p →
    p.refundedAmount = min p.returned (max 0 p.amount)
  unpaid : ∀ id p, s.db.payments.find id = some p → 0 < p.refundedAmount → p.status ≠ .paid
  credited : ∀ id p k inv, s.db.payments.find id = some p → s.db.invoices.find k = some inv →
    inv.paymentId = some id → s.db.credited k + owed s.running id = p.refundedAmount
  bounced : Bounced s

theorem enterPlatform_returns {request : PlatformRequest} (h : enterPlatform db request = some call) :
    call.Claims db ∧ call.Credits db ∧ (∀ id, call.owes id = 0) := by
  cases request with
  | closeSubscriptionDispute id dispute lost amount =>
    cases lost <;> cases h <;> exact ⟨trivial, trivial, fun _ => rfl⟩
  | _ =>
    cases h
    exact ⟨trivial, trivial, fun _ => rfl⟩

theorem Bounced.entered (bounced : Bounced ⟨db, running⟩) (call : PlatformCall) :
    Bounced ⟨db, running ++ [call]⟩ := by
  intro item row id found back of
  rcases bounced item row id found back of with covered | ⟨other, mem, does⟩
  · exact .inl covered
  · exact .inr ⟨other, List.mem_append_left _ mem, does⟩

theorem Owed.entered (held : Owed ⟨db, running⟩) (free : ∀ id, call.owes id = 0) :
    Owed ⟨db, running ++ [call]⟩ :=
  held.of_same rfl rfl fun id => owed_append id (free id)

structure PlatformDb.Balanced (db : PlatformDb) : Prop where
  returned : db.Returned
  rows : db.Rows
  once : db.InvoicedOnce
  tied : db.Tied

structure PlatformCall.Knows (db : PlatformDb) (call : PlatformCall) : Prop where
  sound : call.Sound db
  read : call.Read db
  claims : call.Claims db
  credits : call.Credits db

theorem nextPlatform_grows (made : nextPlatform db call input = some (db', rest))
    (claims : call.Claims db) : db.Grows db' := by
  rcases nextPlatform_move made with ⟨env, rfl, move⟩ | ⟨rfl, rfl, rfl⟩
  · exact move.grows claims
  · exact .of_same (by cases call <;> rfl)

theorem PlatformDb.Balanced.next (balanced : db.Balanced) (knows : call.Knows db)
    (fits : returnsInTurn db call input = true)
    (made : nextPlatform db call input = some (db', rest)) : db'.Balanced := by
  have series := nextPlatform_series made
  have rows := series.rows knows.sound balanced.rows
  have once := series.invoicedOnce knows.sound balanced.once
  have grows := nextPlatform_grows made knows.claims
  rcases nextPlatform_move made with ⟨env, rfl, move⟩ | ⟨rfl, rfl, rfl⟩
  · exact ⟨move.returned knows.claims balanced.returned fits, rows, once,
      move.tied balanced.tied knows.claims knows.sound knows.read knows.credits⟩
  · have payments : (failPlatform db call).payments = db.payments := by cases call <;> rfl
    have items : (failPlatform db call).items = db.items := by cases call <;> rfl
    exact ⟨balanced.returned.of_same payments, rows, once,
      balanced.tied.of_same grows (failPlatform_invoices db call)
        (balanced.tied.items_keep grows items)⟩

theorem PlatformCall.Knows.keep {other : PlatformCall} (known : other.Knows db)
    (knows : call.Knows db) (made : nextPlatform db call input = some (db', rest)) :
    other.Knows db' := by
  have series := nextPlatform_series made
  have keeps := series.keeps knows.sound
  have grows := nextPlatform_grows made knows.claims
  exact ⟨known.sound.keep keeps, known.read.keep (series.credited_le knows.sound),
    known.claims.keep grows, known.credits.keep grows keeps⟩

theorem PlatformCall.Knows.next {call' : PlatformCall} (knows : call.Knows db)
    (made : nextPlatform db call input = some (db', some call')) : call'.Knows db' := by
  rcases nextPlatform_move made with ⟨env, rfl, move⟩ | ⟨-, -, none_⟩
  · exact ⟨move.sound knows.sound, move.read knows.read, move.claimed knows.claims,
      move.credited knows.claims knows.credits⟩
  · cases none_

theorem paid_synced : SubscriptionPaymentStatus.paid ≠ .refunded ∧
    SubscriptionPaymentStatus.paid ≠ .partiallyRefunded := by decide

def stripePaid : StripeInvoice := ⟨7, ⟨.paid, paid_synced⟩, 10000⟩

def alone (request : PlatformRequest) (steps : ℕ) : List (Action PlatformRequest PlatformInput) :=
  .start request :: List.replicate steps (in2026 0)

end StorageOS
