import StorageOS.Billing.Coverage

/-! The credit of a contract over any interleaving of first invoices, monthly runs and cancellations of the drafts,
with a failure at any of their calls: what is pending, what the invoices in force used and what is under way add up to
the credit granted. -/

namespace StorageOS

open Gregorian Transition

/-- What a process under way is to invoice. -/
inductive BillingPlan
  | recurring (plan : RecurringPlan) (autoIssue : Bool)
  | first (plan : FirstInvoicePlan)
  deriving DecidableEq

/-- The next call of a process. -/
inductive BillingPhase
  | readingCredit
  | takingCredit (read : CreditRead)
  | creating
  | settlingRewards (invoiceId : InvoiceId)
  | deferringBilling (invoiceId : InvoiceId)
  | issuing (invoiceId : InvoiceId)
  | usingFreeMonth
  | makingReceipt
  | releasingRewards
  | restoringCredit
  | done
  deriving DecidableEq

/-- A first invoice or a run for a contract under way, with the credit it has taken. -/
structure BillingProcess where
  plan : BillingPlan
  phase : BillingPhase
  credit : ClaimedContractCredit
  deriving DecidableEq

/-- A contract with its invoices, the processes under way, the cancelled invoices whose benefits are
still to be released, and the credit granted to the contract so far. -/
structure CreditState where
  lease : Lease
  processes : Table ℕ BillingProcess
  releasing : List InvoiceId
  granted : ℤ
  deriving DecidableEq

def BillingPlan.maxCents : BillingPlan → ℤ
  | .recurring plan _ => plan.rentBeforeCredit
  | .first plan => plan.rentCentsTotal

def BillingPlan.draft : BillingPlan → ClaimedContractCredit → RentInvoice
  | .recurring plan _ => plan.draft
  | .first plan => plan.draft

/-- Rewards are settled or released with a call only when some were set aside. -/
def BillingPlan.hasRewards : BillingPlan → Bool
  | .recurring plan _ => plan.reward.referralIds ≠ []
  | .first _ => false

def BillingPlan.isFreeMonth : BillingPlan → Bool
  | .recurring plan _ => plan.contract.isFreeMonth
  | .first _ => false

/-- An invoice of the contract in force starts its period on the same day. -/
def Lease.periodTaken (l : Lease) (draft : RentInvoice) : Bool :=
  l.invoices.values.any fun i => i.kind = .invoice && i.status ≠ .cancelled && i.deletedAt.isNone &&
    i.period.isSome && i.period.map Period.first = draft.period.map Period.first

def Lease.isDraft (l : Lease) (id : InvoiceId) : Bool := (l.invoices.find id).any (·.status = .draft)

def Lease.setStatus (l : Lease) (id : InvoiceId) (status : InvoiceStatus) : Lease :=
  { l with invoices := l.invoices.modify id fun i => { i with status := status } }

def BillingProcess.goTo (x : BillingProcess) (phase : BillingPhase) : BillingProcess :=
  { x with phase := phase }

def BillingProcess.next (l : Lease) (x : BillingProcess) (succeeds : Bool) : Lease × BillingProcess :=
  match x.phase with
  | .readingCredit =>
    if succeeds then
      match readContractCredit x.plan.maxCents l.contract with
      | none => (l, x.goTo .creating)
      | some read => (l, x.goTo (.takingCredit read))
    else (l, x.goTo .done)
  | .takingCredit read =>
    if succeeds then
      let (credit, contract) := takeContractCredit read l.contract
      ({ l with contract := contract }, { x with phase := .creating, credit := credit })
    else (l, x.goTo .done)
  | .creating =>
    let draft := x.plan.draft x.credit
    if succeeds && !l.periodTaken draft then
      let id := l.invoices.nextKey
      ({ l with invoices := l.invoices.push draft }, x.goTo (match x.plan with
        | .recurring _ _ => .settlingRewards id
        | .first _ => .deferringBilling id))
    else (l, x.goTo (match x.plan with
      | .recurring _ _ => .releasingRewards
      | .first _ => .restoringCredit))
  | .settlingRewards id =>
    (l, x.goTo (if succeeds || !x.plan.hasRewards then .issuing id else .releasingRewards))
  | .deferringBilling id =>
    match x.plan with
    | .recurring _ _ => (l, x.goTo (.issuing id))
    | .first plan =>
      if plan.billingStartsOn = none then (l, x.goTo (.issuing id))
      else if succeeds then
        ({ l with contract := plan.deferBilling l.contract }, x.goTo (.issuing id))
      else (l, x.goTo .done)
  | .issuing id =>
    match x.plan with
    -- A failure is logged and the draft stays.
    | .recurring _ autoIssue =>
      (if autoIssue && succeeds && l.isDraft id then l.setStatus id .issued else l,
        x.goTo .usingFreeMonth)
    | .first _ =>
      if succeeds && l.isDraft id then (l.setStatus id .issued, x.goTo .makingReceipt)
      else (l, x.goTo .done)
  | .usingFreeMonth =>
    if !x.plan.isFreeMonth then (l, x.goTo .done)
    else if succeeds then ({ l with contract := l.contract.useFreeMonth true }, x.goTo .done)
    else (l, x.goTo .releasingRewards)
  | .makingReceipt =>
    (if succeeds && 0 < l.contract.depositAmount then
      { l with invoices := l.invoices.push (depositReceipt l.contract.depositAmount) } else l,
      x.goTo .done)
  | .releasingRewards =>
    (l, x.goTo (if succeeds || !x.plan.hasRewards then .restoringCredit else .done))
  -- A failure is swallowed.
  | .restoringCredit =>
    (if succeeds then { l with contract := x.credit.restore l.contract } else l, x.goTo .done)
  | .done => (l, x)

/-- What a cancelled invoice spent goes back to the contract, once. -/
def releaseConsumedBenefits (id : InvoiceId) (l : Lease) : Lease :=
  match (l.invoices.find id).bind (·.consumedBenefits) with
  | none => l
  | some benefits =>
    let c := l.contract
    { contract :=
        { c with
          freeMonthsRemaining := c.freeMonthsRemaining + if benefits.freeMonth then 1 else 0
          pendingCreditAmount := c.pendingCreditAmount +
            if 0 < benefits.creditCents then benefits.creditCents else 0
          pendingCreditReason :=
            if 0 < benefits.creditCents then benefits.creditReason <|> c.pendingCreditReason
            else c.pendingCreditReason }
      invoices := l.invoices.modify id fun i => { i with consumedBenefits := none } }

inductive CreditAction
  | startRecurring (month : Period) (hasDefaultSeries autoIssue : Bool)
      (referrals : List PendingReferral)
  | startFirst (nextMonthFromDay : Option ℤ) (hasDefaultSeries : Bool)
  | advance (process : ℕ) (succeeds : Bool)
  | cancel (invoiceId : InvoiceId)
  | release (invoiceId : InvoiceId)
  | grant (cents : ℤ) (reason : String)

def CreditState.start (s : CreditState) (plan : BillingPlan) : CreditState :=
  { s with processes := s.processes.push ⟨plan, .readingCredit, .none⟩ }

/-- A step of a process or a request, `none` when there is nothing to do. -/
def creditStep (s : CreditState) : CreditAction → Option CreditState
  | .startRecurring month hasDefaultSeries autoIssue referrals =>
    (recurringPlan month hasDefaultSeries referrals s.lease).map fun plan =>
      s.start (.recurring plan autoIssue)
  | .startFirst nextMonthFromDay hasDefaultSeries =>
    (firstPlan nextMonthFromDay hasDefaultSeries s.lease).map fun plan => s.start (.first plan)
  | .advance process succeeds =>
    (s.processes.find process).map fun x =>
      { s with
        lease := (x.next s.lease succeeds).1
        processes := s.processes.modify process fun _ => (x.next s.lease succeeds).2 }
  | .cancel invoiceId =>
    if s.lease.isDraft invoiceId then
      some { s with
        lease := s.lease.setStatus invoiceId .cancelled
        releasing := invoiceId :: s.releasing }
    else none
  | .release invoiceId =>
    if invoiceId ∈ s.releasing then
      some { s with
        lease := releaseConsumedBenefits invoiceId s.lease
        releasing := s.releasing.erase invoiceId }
    else none
  | .grant cents reason =>
    if 0 < cents then
      some { s with
        lease := { s.lease with
          contract := { s.lease.contract with
            pendingCreditAmount := s.lease.contract.pendingCreditAmount + cents
            pendingCreditReason := some reason } }
        granted := s.granted + cents }
    else none

def RentInvoice.creditUsed (i : RentInvoice) : ℤ :=
  match i.consumedBenefits with
  | some benefits => benefits.creditCents
  | none => 0

def Lease.consumedCredit (l : Lease) : ℤ :=
  l.invoices.sum fun i => if i.status = .cancelled then 0 else i.creditUsed

/-- The credit of the cancelled invoices that is still to go back. -/
def Lease.cancelledCredit (l : Lease) : ℤ :=
  l.invoices.sum fun i => if i.status = .cancelled then i.creditUsed else 0

/-- The credit a process has taken and neither invoiced nor given back. -/
def BillingProcess.held (x : BillingProcess) : ℤ :=
  match x.phase with
  | .creating => x.credit.cents
  | .releasingRewards => x.credit.cents
  | .restoringCredit => x.credit.cents
  | _ => 0

def CreditState.underWay (s : CreditState) : ℤ :=
  s.processes.sum BillingProcess.held + s.lease.cancelledCredit

/-- No process is under way, and every cancelled invoice has released its benefits. -/
structure CreditState.Quiet (s : CreditState) : Prop where
  done : ∀ x ∈ s.processes.values, x.phase = .done
  released : s.releasing = []

/-- A call that fails leaves no credit in two places or in none: the rewards of an invoice that used
credit are settled, and after a failure the rewards are released and the credit restored. -/
def BillingProcess.keepsCredit (x : BillingProcess) (succeeds : Bool) : Bool :=
  succeeds || x.credit.cents = 0 ||
    match x.phase with
    | .settlingRewards _ => !x.plan.hasRewards
    | .releasingRewards => !x.plan.hasRewards
    | .restoringCredit => false
    | _ => true

/-- The condition on a step: no failed call of a process loses its credit or gives it back twice. -/
def creditOk (s : CreditState) : CreditAction → Bool
  | .advance process succeeds => (s.processes.find process).all fun x => x.keepsCredit succeeds
  | _ => true

def Lease.totalCredit (l : Lease) : ℤ :=
  l.contract.pendingCreditAmount + l.invoices.sum RentInvoice.creditUsed

/-- A process takes no negative credit, and none for a free month. -/
structure BillingProcess.Sound (x : BillingProcess) : Prop where
  credit : 0 ≤ x.credit.cents
  free : x.plan.isFreeMonth = true → x.credit.cents = 0
  reading : x.phase = .readingCredit → x.credit.cents = 0
  taking : ∀ read, x.phase = .takingCredit read → 0 ≤ read.cents ∧ x.plan.isFreeMonth = false

structure CreditConserved (s : CreditState) : Prop where
  balance : s.lease.totalCredit + s.processes.sum BillingProcess.held = s.granted
  used : ∀ i ∈ s.lease.invoices.values, 0 ≤ i.creditUsed
  sound : ∀ x ∈ s.processes.values, x.Sound
  cancelled : ∀ id i, s.lease.invoices.find id = some i → i.status = .cancelled →
    id ∈ s.releasing ∨ i.consumedBenefits = none

/-! ### The calls of a process -/

theorem claimRewards_nonneg {rentCents : ℤ} {claimed : ClaimedRewards}
    {pending : List PendingReferral} (h : 0 ≤ claimed.discountCents) :
    0 ≤ (claimRewards rentCents claimed pending).discountCents := by
  induction pending generalizing claimed with
  | nil => exact h
  | cons p rest ih =>
    unfold claimRewards
    dsimp only
    generalize (if p.isPercentage then _ else _) = cents
    by_cases skipped : cents ≤ 0 ∨ rentCents < claimed.discountCents + cents
    · rw [if_pos skipped]
      exact ih h
    · rw [if_neg skipped]
      split
      · exact ih h
      · exact ih (show 0 ≤ claimed.discountCents + cents by omega)

theorem claimRewardsForInvoice_nonneg (rentCents : ℤ) (pending : List PendingReferral) :
    0 ≤ (claimRewardsForInvoice rentCents pending).discountCents := by
  unfold claimRewardsForInvoice
  split
  · exact le_refl 0
  · exact claimRewards_nonneg (le_refl 0)

theorem BillingPlan.maxCents_free {plan : BillingPlan} (free : plan.isFreeMonth = true) :
    plan.maxCents ≤ 0 := by
  cases plan with
  | recurring plan autoIssue =>
    have reward := claimRewardsForInvoice_nonneg
      (plan.contract.baseRent plan.period plan.fullDays) plan.referrals
    have rent : plan.contract.baseRent plan.period plan.fullDays = 0 := if_pos free
    show plan.contract.baseRent plan.period plan.fullDays - plan.reward.discountCents ≤ 0
    unfold RecurringPlan.reward
    omega
  | first plan => cases free

variable {credit : ClaimedContractCredit} {read : CreditRead} {succeeds : Bool}

theorem BillingPlan.draft_creditUsed (plan : BillingPlan) (nonneg : 0 ≤ credit.cents) :
    (plan.draft credit).creditUsed = credit.cents := by
  unfold RentInvoice.creditUsed
  cases plan with
  | recurring plan autoIssue =>
    simp only [BillingPlan.draft, RecurringPlan.draft]
    by_cases spent : (plan.contract.isFreeMonth || decide (0 < credit.cents)) = true
    · rw [if_pos spent]
    · rw [if_neg spent]
      simp only [Bool.or_eq_true, decide_eq_true_eq, not_or] at spent
      exact le_antisymm nonneg (not_lt.mp spent.2)
  | first plan =>
    simp only [BillingPlan.draft, FirstInvoicePlan.draft]
    by_cases spent : 0 < credit.cents
    · rw [if_pos spent]
    · rw [if_neg spent]
      exact le_antisymm nonneg (not_lt.mp spent)

theorem BillingPlan.draft_status (plan : BillingPlan) (credit : ClaimedContractCredit) :
    (plan.draft credit).status = .draft := by
  cases plan <;> rfl

variable {c : Contract} {x' : BillingProcess}

theorem readContractCredit_some {maxCents : ℤ} (h : readContractCredit maxCents c = some read) :
    0 < read.cents ∧ 0 < maxCents := by
  unfold readContractCredit at h
  split_ifs at h with nothing empty
  cases h
  exact ⟨by simp only [lt_min_iff]; omega, by omega⟩

theorem takeContractCredit_moves (nonneg : 0 ≤ read.cents) :
    (takeContractCredit read c).2.pendingCreditAmount + (takeContractCredit read c).1.cents =
        c.pendingCreditAmount ∧
      0 ≤ (takeContractCredit read c).1.cents := by
  unfold takeContractCredit
  split
  · rename_i same
    exact ⟨by rw [same]; dsimp only; omega, nonneg⟩
  · exact ⟨Int.add_zero _, le_refl 0⟩

theorem ClaimedContractCredit.restore_pending (c : Contract) (nonneg : 0 ≤ credit.cents) :
    (credit.restore c).pendingCreditAmount = c.pendingCreditAmount + credit.cents := by
  unfold ClaimedContractCredit.restore
  split
  · rfl
  · omega

/-- What a call of a process keeps: no credit appears or is lost, and the cancelled invoices are
those there were. -/
structure Kept (l : Lease) (x : BillingProcess) (l' : Lease) (x' : BillingProcess) : Prop where
  total : l'.totalCredit + x'.held = l.totalCredit + x.held
  used : (∀ i ∈ l.invoices.values, 0 ≤ i.creditUsed) → ∀ i ∈ l'.invoices.values, 0 ≤ i.creditUsed
  sound : x'.Sound
  cancelled : ∀ id i, l'.invoices.find id = some i → i.status = .cancelled →
    l.invoices.find id = some i

section

variable {l : Lease} {x : BillingProcess}

theorem BillingProcess.Sound.goTo (sound : x.Sound) {phase : BillingPhase}
    (taken : phase ≠ .readingCredit := by simp)
    (other : ∀ read, phase ≠ .takingCredit read := by simp) : (x.goTo phase).Sound :=
  ⟨sound.credit, sound.free, fun h => absurd h taken, fun read h => absurd h (other read)⟩

theorem Kept.contract (sound : x'.Sound)
    (total : c.pendingCreditAmount + x'.held = l.contract.pendingCreditAmount + x.held) :
    Kept l x { l with contract := c } x' where
  total := by
    unfold Lease.totalCredit
    dsimp only
    omega
  used := id
  sound := sound
  cancelled := fun _ _ found _ => found

theorem Kept.same (sound : x'.Sound) (held : x'.held = x.held) :
    Kept l x l x' :=
  Kept.contract (c := l.contract) sound (by rw [held])

theorem Kept.push {i : RentInvoice} (sound : x'.Sound) (inForce : i.status ≠ .cancelled) (nonneg : 0 ≤ i.creditUsed)
    (total : x'.held + i.creditUsed = x.held) :
    Kept l x { l with invoices := l.invoices.push i } x' where
  total := by
    unfold Lease.totalCredit
    dsimp only
    rw [Table.sum_push]
    omega
  used := by
    intro used j mem
    rw [Table.values_push, List.mem_append, List.mem_singleton] at mem
    rcases mem with mem | rfl
    · exact used j mem
    · exact nonneg
  sound := sound
  cancelled := by
    intro id j found cancelled
    dsimp only at found
    rw [Table.find_push] at found
    split at found
    · cases found
      exact absurd cancelled inForce
    · exact found

theorem Lease.totalCredit_setStatus (l : Lease) (id : InvoiceId) (status : InvoiceStatus) :
    (l.setStatus id status).totalCredit = l.totalCredit := by
  unfold Lease.totalCredit Lease.setStatus
  dsimp only
  cases found : l.invoices.find id with
  | none => rw [Table.modify_of_find_none found]
  | some i =>
    rw [Table.sum_modify found]
    simp [RentInvoice.creditUsed]

theorem Kept.issue (id : InvoiceId) (sound : x'.Sound) (held : x'.held = x.held) :
    Kept l x (l.setStatus id .issued) x' where
  total := by rw [Lease.totalCredit_setStatus, held]
  used := fun used => Table.forall_modify used fun _ h => h
  sound := sound
  cancelled := by
    intro j i found cancelled
    rcases Table.find_modify_cases found with ⟨-, same⟩ | ⟨-, r, -, rfl⟩
    · exact same
    · cases cancelled

theorem unused_of_fails {cents : ℤ} {succeeds harmless : Bool}
    (kept : (succeeds || decide (cents = 0) || harmless) = true)
    (fails : ¬(succeeds || harmless) = true) : cents = 0 := by
  rw [Bool.or_eq_true, not_or] at fails
  rw [Bool.or_eq_true, Bool.or_eq_true] at kept
  rcases kept with (succeeded | unused) | never
  · exact absurd succeeded fails.1
  · exact of_decide_eq_true unused
  · exact absurd never fails.2

theorem next_keeps (sound : x.Sound) (kept : x.keepsCredit succeeds = true) :
    Kept l x (x.next l succeeds).1 (x.next l succeeds).2 := by
  obtain ⟨plan, phase, credit⟩ := x
  unfold BillingProcess.next
  cases phase with
  | readingCredit =>
    have untaken : credit.cents = 0 := sound.reading rfl
    cases succeeds with
    | false => exact .same sound.goTo rfl
    | true =>
      dsimp only
      cases found : readContractCredit plan.maxCents l.contract with
      | none => exact .same sound.goTo untaken
      | some read =>
        obtain ⟨positive, rent⟩ := readContractCredit_some found
        refine .same ⟨sound.credit, sound.free, by simp [BillingProcess.goTo], ?_⟩ rfl
        intro read' same
        cases same
        refine ⟨positive.le, Bool.eq_false_iff.mpr fun free => ?_⟩
        exact absurd rent (not_lt.mpr (BillingPlan.maxCents_free free))
  | takingCredit read =>
    cases succeeds with
    | false => exact .same sound.goTo rfl
    | true =>
      obtain ⟨nonneg, paid⟩ := sound.taking read rfl
      obtain ⟨moved, taken⟩ := takeContractCredit_moves (c := l.contract) nonneg
      refine .contract ⟨taken, fun free => ?_, by simp, by simp⟩ ?_
      · exact absurd (paid.symm.trans free) (by simp)
      · exact moved.trans (Int.add_zero _).symm
  | creating =>
    dsimp only
    split
    · refine .push ?_ ?_ ?_ ?_
      · cases plan <;> exact sound.goTo
      · rw [BillingPlan.draft_status]
        simp
      · rw [BillingPlan.draft_creditUsed plan sound.credit]
        exact sound.credit
      · rw [BillingPlan.draft_creditUsed plan sound.credit]
        cases plan <;> exact Int.zero_add _
    · refine .same ?_ ?_
      · cases plan <;> exact sound.goTo
      · cases plan <;> rfl
  | settlingRewards id =>
    dsimp only
    split
    · exact .same sound.goTo rfl
    · rename_i fails
      exact .same sound.goTo (unused_of_fails kept fails)
  | deferringBilling id =>
    cases plan with
    | recurring plan autoIssue => exact .same sound.goTo rfl
    | first plan =>
      dsimp only
      split
      · exact .same sound.goTo rfl
      · split
        · exact .contract sound.goTo rfl
        · exact .same sound.goTo rfl
  | issuing id =>
    cases plan with
    | recurring plan autoIssue =>
      dsimp only
      split
      · exact .issue id sound.goTo rfl
      · exact .same sound.goTo rfl
    | first plan =>
      dsimp only
      split
      · exact .issue id sound.goTo rfl
      · exact .same sound.goTo rfl
  | usingFreeMonth =>
    dsimp only
    split
    · exact .same sound.goTo rfl
    · rename_i free
      split
      · exact .contract sound.goTo rfl
      · exact .same sound.goTo (sound.free (by simpa using free))
  | makingReceipt =>
    dsimp only
    split
    · exact .push sound.goTo (by simp [depositReceipt]) (le_refl 0) rfl
    · exact .same sound.goTo rfl
  | releasingRewards =>
    dsimp only
    split
    · exact .same sound.goTo rfl
    · rename_i fails
      exact .same sound.goTo (unused_of_fails kept fails).symm
  | restoringCredit =>
    dsimp only
    split
    · refine .contract sound.goTo ?_
      rw [ClaimedContractCredit.restore_pending _ sound.credit]
      exact Int.add_zero _
    · rename_i fails
      exact .same sound.goTo (unused_of_fails kept (by simpa using fails)).symm
  | done => exact .same sound rfl

end

/-! ### Runs -/

section

variable {s t : CreditState}

variable (conserved : CreditConserved s)
include conserved

theorem CreditConserved.begin (plan : BillingPlan) : CreditConserved (s.start plan) where
  balance := by
    unfold CreditState.start
    rw [Table.sum_push]
    exact (congrArg _ (Int.add_zero _)).trans conserved.balance
  used := conserved.used
  sound := by
    intro x mem
    unfold CreditState.start at mem
    rw [Table.values_push, List.mem_append, List.mem_singleton] at mem
    rcases mem with mem | rfl
    · exact conserved.sound x mem
    · exact ⟨le_refl 0, fun _ => rfl, fun _ => rfl, by simp⟩
  cancelled := conserved.cancelled

theorem CreditConserved.advance {process : ℕ} {x : BillingProcess} (found : s.processes.find process = some x)
    (kept : x.keepsCredit succeeds = true) :
    CreditConserved { s with
      lease := (x.next s.lease succeeds).1
      processes := s.processes.modify process fun _ => (x.next s.lease succeeds).2 } := by
  have sound := conserved.sound x (Table.mem_values.mpr ⟨process, found⟩)
  have keeps := next_keeps (l := s.lease) sound kept
  refine ⟨?_, keeps.used conserved.used, ?_, ?_⟩
  · dsimp only
    rw [Table.sum_modify found]
    have := keeps.total
    have := conserved.balance
    omega
  · exact Table.forall_modify conserved.sound fun _ _ => keeps.sound
  · intro id i found cancelled
    exact conserved.cancelled id i (keeps.cancelled id i found cancelled) cancelled

theorem CreditConserved.cancel (id : InvoiceId) :
    CreditConserved { s with
      lease := s.lease.setStatus id .cancelled
      releasing := id :: s.releasing } := by
  refine ⟨?_, Table.forall_modify conserved.used fun _ h => h, conserved.sound, ?_⟩
  · dsimp only
    rw [Lease.totalCredit_setStatus]
    exact conserved.balance
  · intro j i found cancelled
    rcases Table.find_modify_cases found with ⟨other, same⟩ | ⟨rfl, -⟩
    · exact (conserved.cancelled j i same cancelled).imp_left (List.mem_cons_of_mem _)
    · exact .inl List.mem_cons_self

theorem CreditConserved.release (id : InvoiceId) :
    CreditConserved { s with
      lease := releaseConsumedBenefits id s.lease
      releasing := s.releasing.erase id } := by
  unfold releaseConsumedBenefits
  cases spent : (s.lease.invoices.find id).bind (·.consumedBenefits) with
  | none =>
    refine ⟨conserved.balance, conserved.used, conserved.sound, ?_⟩
    intro j i found cancelled
    by_cases same : j = id
    · subst same
      right
      have found : s.lease.invoices.find j = some i := found
      rw [found] at spent
      exact spent
    · exact (conserved.cancelled j i found cancelled).imp_left (List.mem_erase_of_ne same).mpr
  | some benefits =>
    obtain ⟨i, found, consumed⟩ := Option.bind_eq_some_iff.mp spent
    have used := conserved.used i (Table.mem_values.mpr ⟨id, found⟩)
    unfold RentInvoice.creditUsed at used
    rw [consumed] at used
    dsimp only at used
    refine ⟨?_, ?_, conserved.sound, ?_⟩
    · have balance := conserved.balance
      unfold Lease.totalCredit at balance ⊢
      dsimp only
      rw [Table.sum_modify found]
      simp only [RentInvoice.creditUsed, consumed]
      split <;> omega
    · refine Table.forall_modify conserved.used fun _ _ => le_refl 0
    · intro j r found' cancelled
      rcases Table.find_modify_cases found' with ⟨other, same⟩ | ⟨rfl, r', -, rfl⟩
      · exact (conserved.cancelled j r same cancelled).imp_left (List.mem_erase_of_ne other).mpr
      · exact .inr rfl

theorem conserved_step {a : CreditAction} (ok : creditOk s a = true) (h : creditStep s a = some t) :
    CreditConserved t := by
  cases a with
  | startRecurring month hasDefaultSeries autoIssue referrals =>
    obtain ⟨plan, -, rfl⟩ := Option.map_eq_some_iff.mp h
    exact conserved.begin _
  | startFirst nextMonthFromDay hasDefaultSeries =>
    obtain ⟨plan, -, rfl⟩ := Option.map_eq_some_iff.mp h
    exact conserved.begin _
  | advance process succeeds =>
    obtain ⟨x, found, rfl⟩ := Option.map_eq_some_iff.mp h
    simp only [creditOk, found, Option.all_some] at ok
    exact conserved.advance found ok
  | cancel invoiceId =>
    simp only [creditStep] at h
    split_ifs at h
    cases h
    exact conserved.cancel invoiceId
  | release invoiceId =>
    simp only [creditStep] at h
    split_ifs at h
    cases h
    exact conserved.release invoiceId
  | grant cents reason =>
    simp only [creditStep] at h
    split_ifs at h
    cases h
    refine ⟨?_, conserved.used, conserved.sound, conserved.cancelled⟩
    have balance := conserved.balance
    unfold Lease.totalCredit at balance ⊢
    dsimp only
    omega

omit conserved

theorem Lease.totalCredit_eq (l : Lease) :
    l.totalCredit = l.contract.pendingCreditAmount + l.consumedCredit + l.cancelledCredit := by
  have parts : RentInvoice.creditUsed = fun i : RentInvoice =>
      (if i.status = .cancelled then 0 else i.creditUsed) +
        (if i.status = .cancelled then i.creditUsed else 0) := by
    funext i
    split <;> simp
  unfold Lease.totalCredit Lease.consumedCredit Lease.cancelledCredit
  conv_lhs => rw [parts, Table.sum_add]
  ring

end

/-- No process is under way, the cancelled invoices have released their benefits, and the credit
granted is pending or used. -/
structure CreditState.Settled (s : CreditState) : Prop where
  idle : s.processes = .empty
  used : ∀ i ∈ s.lease.invoices.values, 0 ≤ i.creditUsed
  released : ∀ i ∈ s.lease.invoices.values, i.status = .cancelled → i.consumedBenefits = none
  granted : s.lease.contract.pendingCreditAmount + s.lease.consumedCredit = s.granted

theorem cancelledCredit_released {l : Lease}
    (released : ∀ i ∈ l.invoices.values, i.status = .cancelled → i.consumedBenefits = none) :
    l.cancelledCredit = 0 := by
  refine Table.sum_eq_zero fun i mem => ?_
  split
  · rename_i cancelled
    unfold RentInvoice.creditUsed
    rw [released i mem cancelled]
  · rfl

theorem conserved_settled {s : CreditState} (settled : s.Settled) : CreditConserved s where
  balance := by
    rw [Lease.totalCredit_eq, cancelledCredit_released settled.released, settled.idle]
    have := settled.granted
    simp only [Table.sum, Table.values_empty, List.map_nil, List.sum_nil]
    omega
  used := settled.used
  sound := by simp [settled.idle]
  cancelled := fun id i found cancelled =>
    .inr (settled.released i (Table.mem_values.mpr ⟨id, found⟩) cancelled)

/-- In every run in which no failed call loses credit or gives it back twice, the credit pending, the
credit used by the invoices in force and the credit under way are the credit granted. When nothing
is under way, the credit pending and the credit used are. -/
theorem credit_conserved {s t : CreditState} (settled : s.Settled)
    (run : Run creditStep (fun s a => creditOk s a = true) s t) :
    t.lease.contract.pendingCreditAmount + t.lease.consumedCredit + t.underWay = t.granted ∧
      (t.Quiet → t.lease.contract.pendingCreditAmount + t.lease.consumedCredit = t.granted) := by
  have conserved : CreditConserved t := run.invariant (P := CreditConserved)
    (conserved_settled settled) fun conserved ok h => conserved_step conserved ok h
  have balance := conserved.balance
  rw [Lease.totalCredit_eq] at balance
  constructor
  · unfold CreditState.underWay
    omega
  · intro quiet
    have idle : t.processes.sum BillingProcess.held = 0 := by
      refine Table.sum_eq_zero fun x mem => ?_
      unfold BillingProcess.held
      rw [quiet.done x mem]
    have released : t.lease.cancelledCredit = 0 := by
      refine cancelledCredit_released fun i mem cancelled => ?_
      obtain ⟨id, found⟩ := Table.mem_values.mp mem
      rcases conserved.cancelled id i found cancelled with waiting | released
      · rw [quiet.released] at waiting
        cases waiting
      · exact released
    omega

/-! ### Rewards that fail to settle -/

def withCredit : CreditState where
  lease := ⟨{ fromMidMonth with pendingCreditAmount := 2000 }, .empty⟩
  processes := .empty
  releasing := []
  granted := 2000

theorem withCredit_settled : withCredit.Settled where
  idle := rfl
  used := by simp [withCredit]
  released := by simp [withCredit]
  granted := by decide

def startMarch : CreditAction :=
  .startRecurring (resolvePeriod (date 2024 3 12) none) true false [⟨7, true, 10, true⟩]

/-- A run that cannot create its invoice, another that can, and the draft cancelled and released. -/
theorem credit_conserved_march : ∃ t,
    Run creditStep (fun s a => creditOk s a = true) withCredit t ∧
      t.lease.contract.pendingCreditAmount + t.lease.consumedCredit = t.granted := by
  obtain ⟨t, run, quiet⟩ := Run.exists_of_exec creditStep (fun s a => creditOk s a = true)
    withCredit
    [startMarch, startMarch, .advance 0 true, .advance 0 true, .advance 0 false, .advance 0 true,
      .advance 0 true, .advance 1 true, .advance 1 true, .advance 1 true, .advance 1 true,
      .cancel 0, .advance 1 true, .advance 1 true, .release 0]
    (fun t => (t.processes.values.all fun x => x.phase = .done) && t.releasing = [])
    (by decide +kernel)
  simp only [Bool.and_eq_true, List.all_eq_true, decide_eq_true_eq] at quiet
  exact ⟨t, run, (credit_conserved withCredit_settled run).2 ⟨quiet.1, quiet.2⟩⟩

/-- The invoice of March uses the credit, settling its reward fails, and the credit is restored. -/
theorem credit_used_twice : ¬∀ s t : CreditState, s.Settled → Reaches creditStep s t → t.Quiet →
    t.lease.contract.pendingCreditAmount + t.lease.consumedCredit = t.granted := by
  intro conserved
  obtain ⟨t, run, twice⟩ := Run.exists_of_exec creditStep (fun _ _ => True) withCredit
    [startMarch, .advance 0 true, .advance 0 true, .advance 0 true, .advance 0 false,
      .advance 0 true, .advance 0 true]
    (fun t => (t.processes.values.all fun x => x.phase = .done) && t.releasing = [] &&
      t.lease.contract.pendingCreditAmount + t.lease.consumedCredit = 4000 && t.granted = 2000)
    (by decide +kernel)
  simp only [Bool.and_eq_true, List.all_eq_true, decide_eq_true_eq] at twice
  have := conserved withCredit t withCredit_settled run ⟨twice.1.1.1, twice.1.1.2⟩
  omega

end StorageOS
