import Mathlib.Algebra.BigOperators.Ring.List
import StorageOS.Billing.Recurring
import StorageOS.Lib.Processes

/-! The rewards of who recommends, which the invoices of the monthly job take off their rent. A call claims them
before it makes its invoice and links them to it then; they are released when the invoice fails or is cancelled. -/

namespace StorageOS

open Transition Processes

abbrev ReferralId := ℕ

inductive ReferralRewardType
  | percentage
  | fixed
  deriving DecidableEq

/-- What the conversion of a referral writes, with the value in hundredths; without a value there is no reward. -/
structure ReferralReward where
  rewardType : ReferralRewardType
  rewardValue : ℤ
  hasReward : 0 < rewardValue

def ReferralReward.cents (p : ReferralReward) (rentCents : ℤ) : ℤ :=
  match p.rewardType with
  | .percentage => mathRound (rentCents * (p.rewardValue / 100) / 100)
  | .fixed => p.rewardValue

structure Referral where
  rewardAppliedAt : Option Instant
  deriving DecidableEq

/-- An invoice with its rent and the rewards that its line takes off, which are linked to it as their
`rewardInvoiceId` all at once. -/
structure RewardedInvoice where
  rentCents : ℤ
  referralIds : List ReferralId
  linked : Bool
  cancelled : Bool
  deriving DecidableEq

/-- The referrals in the order of their conversion, and the invoices of the contracts of the referrer. -/
structure RewardDb where
  referrals : Table ReferralId Referral
  invoices : Table InvoiceId RewardedInvoice
  deriving DecidableEq

def RewardDb.pending (db : RewardDb) : List ReferralId :=
  (db.referrals.rows.filter fun q => q.2.rewardAppliedAt.isNone).map Prod.fst

def RewardDb.isPending (db : RewardDb) (id : ReferralId) : Bool :=
  (db.referrals.find id).any (·.rewardAppliedAt.isNone)

def RewardDb.isLinked (db : RewardDb) (invoiceId : InvoiceId) : Bool :=
  (db.invoices.find invoiceId).any (·.linked)

def RewardDb.setApplied (db : RewardDb) (referralIds : List ReferralId) (rewardAppliedAt : Option Instant) : RewardDb :=
  { db with referrals := db.referrals.updateMany (fun q => q.1 ∈ referralIds) fun p => { p with rewardAppliedAt } }

inductive RewardRequest
  | onContractSigned
  | invoice (rentCents : ℤ)
  | cancel (invoiceId : InvoiceId)

inductive RewardCall
  | converting
  | reading (rentCents : ℤ)
  /-- In the loop of `claimRewardsForInvoice`; with no reward left, before the invoice is made. -/
  | claiming (rentCents : ℤ) (pending referralIds : List ReferralId)
  | settling (referralIds : List ReferralId) (invoiceId : InvoiceId)
  | releasing (referralIds : List ReferralId)
  | cancelling (invoiceId : InvoiceId)
  /-- Before `releaseConsumedBenefits` of the cancelled invoice. -/
  | freeing (invoiceId : InvoiceId) (referralIds : List ReferralId)
  deriving DecidableEq

structure RewardInput where
  now : Instant
  fails : Bool

def enterRewards (_ : RewardDb) : RewardRequest → Option RewardCall
  | .onContractSigned => some .converting
  | .invoice rentCents => some (.reading rentCents)
  | .cancel invoiceId => some (.cancelling invoiceId)

section

variable (rewards : ReferralId → ReferralReward)

def discountCents (rentCents : ℤ) (referralIds : List ReferralId) : ℤ :=
  (referralIds.map fun id => (rewards id).cents rentCents).sum

def runRewards (db : RewardDb) (input : RewardInput) : RewardCall → RewardDb × Option RewardCall
  | .converting => (if input.fails then db else { db with referrals := db.referrals.push ⟨none⟩ }, none)
  | .reading rentCents =>
    (db, if input.fails then none else some (.claiming rentCents (if rentCents ≤ 0 then [] else db.pending) []))
  | .claiming rentCents (id :: pending) referralIds =>
    let cents := (rewards id).cents rentCents
    if cents ≤ 0 ∨ discountCents rewards rentCents referralIds + cents > rentCents then
      (db, some (.claiming rentCents pending referralIds))
    else if input.fails then (db, none)
    else if db.isPending id then
      (db.setApplied [id] (some input.now), some (.claiming rentCents pending (referralIds ++ [id])))
    else (db, some (.claiming rentCents pending referralIds))
  | .claiming rentCents [] referralIds =>
    if input.fails then (db, some (.releasing referralIds))
    else ({ db with invoices := db.invoices.push ⟨rentCents, referralIds, false, false⟩ },
      some (.settling referralIds db.invoices.nextKey))
  | .settling referralIds invoiceId =>
    if input.fails then (db, some (.releasing referralIds))
    else ({ db with invoices := db.invoices.modify invoiceId fun v => { v with linked := true } }, none)
  | .releasing referralIds => (if input.fails then db else db.setApplied referralIds none, none)
  | .freeing invoiceId referralIds =>
    (if input.fails || !db.isLinked invoiceId then db else db.setApplied referralIds none, none)
  | .cancelling invoiceId =>
    match db.invoices.find invoiceId with
    | some v =>
      if input.fails || v.cancelled then (db, none)
      else ({ db with invoices := db.invoices.modify invoiceId fun v => { v with cancelled := true } },
        some (.freeing invoiceId v.referralIds))
    | none => (db, none)

def rewardSystem : System RewardDb RewardCall RewardRequest RewardInput where
  enter := enterRewards
  next db call input := some (runRewards rewards db input call)

/-! ### Rewards spent once and in full -/

/-- How often the live invoices take the reward off. -/
def RewardDb.timesGranted (db : RewardDb) (k : ReferralId) : ℤ :=
  db.invoices.sum fun v => if v.cancelled then 0 else v.referralIds.count k

def RewardDb.centsGranted (db : RewardDb) (k : ReferralId) : ℤ :=
  db.invoices.sum fun v => if v.cancelled then 0 else discountCents rewards v.rentCents (v.referralIds.filter (· = k))

structure RewardDb.SpentOnce (db : RewardDb) : Prop where
  once : ∀ k, db.timesGranted k ≤ 1
  atMostRent : ∀ v ∈ db.invoices.values, 0 ≤ v.rentCents →
    discountCents rewards v.rentCents v.referralIds ≤ v.rentCents
  atMostValue : ∀ k, (rewards k).rewardType = .fixed → db.centsGranted rewards k ≤ (rewards k).rewardValue

/-- A step of an invoice of a rent that succeeds. -/
def laterInvoice (rentCents : ℤ) (call : RewardCall) (input : RewardInput) : Bool :=
  !input.fails && match call with
  | .reading rent => rent = rentCents
  | .claiming .. | .settling .. => true
  | _ => false

/-- Where all pending rewards are fixed, as many later invoices of one rent as the claim counts grant them in full. -/
def GrantsAll (ok : RewardDb → RewardCall → RewardInput → Bool) (t : State RewardDb RewardCall) : Prop :=
  ∀ (r : ℤ) (u : State RewardDb RewardCall), 0 < r → t.running = [] → u.running = [] →
    (∀ k ∈ t.db.pending, (rewards k).rewardType = .fixed) →
    Run (rewardSystem rewards).step
      (System.admits fun db call input => (ok db call input && laterInvoice r call input) = true) t u →
    (t.db.pending.map fun k => ⌈((rewards k).rewardValue / r : ℚ)⌉).sum ≤
      u.db.invoices.values.length - t.db.invoices.values.length →
    ∀ k ∈ t.db.pending, u.db.centsGranted rewards k = (rewards k).rewardValue

/-- The fixed rewards that an invoice reads are not more than its rent. -/
def rewardFits (db : RewardDb) : RewardCall → Bool
  | .reading rentCents => rentCents ≤ 0 || db.pending.all fun k =>
    (rewards k).rewardType = .percentage || (rewards k).rewardValue ≤ rentCents
  | _ => true

/-- The rewards of a cancelled invoice are linked to it before it frees them, and nothing fails but the making of an
invoice. -/
def rewardInOrder (db : RewardDb) (call : RewardCall) (input : RewardInput) : Bool :=
  match call with
  | .converting | .reading _ | .claiming _ [] _ | .cancelling _ => true
  | .freeing invoiceId _ => !input.fails && db.isLinked invoiceId
  | _ => !input.fails

end

/-! ### Each reward in one place -/

def RewardCall.holds (call : RewardCall) (k : ReferralId) : ℤ :=
  match call with
  | .claiming _ _ referralIds | .releasing referralIds | .freeing _ referralIds => referralIds.count k
  | _ => 0

def RewardDb.places (db : RewardDb) (k : ReferralId) : ℤ :=
  db.timesGranted k + (db.isPending k).toInt

/-- A referral is pending, in one call or on one live invoice. -/
def Placed (s : State RewardDb RewardCall) : Prop := ∀ k,
  s.db.places k + (s.running.map (·.holds k)).sum = (s.db.referrals.find k).isSome.toInt

section

variable {rewards : ReferralId → ReferralReward} {db db' : RewardDb} {call : RewardCall} {rest : Option RewardCall}
  {input : RewardInput} {running : List RewardCall} {i : ℕ} {k : ReferralId} {ids : List ReferralId}
  {s t : State RewardDb RewardCall} {r : ℤ}

theorem sum_holds_nonneg (running : List RewardCall) (k : ReferralId) : 0 ≤ (running.map (·.holds k)).sum := by
  refine List.sum_nonneg fun n mem => ?_
  obtain ⟨r, -, rfl⟩ := List.mem_map.mp mem
  cases r <;> simp [RewardCall.holds]

theorem timesGranted_nonneg (db : RewardDb) (k : ReferralId) : 0 ≤ db.timesGranted k := by
  refine List.sum_nonneg fun n mem => ?_
  obtain ⟨v, -, rfl⟩ := List.mem_map.mp mem
  split <;> positivity

theorem find_setApplied (applied : Option Instant) :
    (db.setApplied ids applied).referrals.find k =
      if k ∈ ids then (db.referrals.find k).map fun _ => ⟨applied⟩ else db.referrals.find k := by
  rw [RewardDb.setApplied, Table.find_updateMany]
  by_cases own : k ∈ ids <;> simp [own]

/-- A step moves a referral from place to place, and a call that lets go of one has it alone. -/
theorem runRewards_places (inOrder : rewardInOrder db call input = true)
    (alone : 1 ≤ call.holds k → call.holds k = 1 ∧ db.isPending k = false ∧ (db.referrals.find k).isSome = true)
    (made : runRewards rewards db input call = (db', rest)) :
    db'.places k + (rest.map (·.holds k)).getD 0 + (db.referrals.find k).isSome.toInt =
      db.places k + call.holds k + (db'.referrals.find k).isSome.toInt := by
  have released : ∀ ids : List ReferralId, (1 ≤ (ids.count k : ℤ) → (ids.count k : ℤ) = 1 ∧ db.isPending k = false ∧
      (db.referrals.find k).isSome = true) → (db.setApplied ids none).places k + (db.referrals.find k).isSome.toInt =
        db.places k + ids.count k + ((db.setApplied ids none).referrals.find k).isSome.toInt := by
    intro ids alone
    have granted : (db.setApplied ids none).timesGranted k = db.timesGranted k := rfl
    rw [RewardDb.places, RewardDb.places, granted, RewardDb.isPending, find_setApplied]
    by_cases own : k ∈ ids
    · obtain ⟨count, pending, there⟩ := alone (by exact_mod_cast List.count_pos_iff.mpr own)
      obtain ⟨p, row⟩ := Option.isSome_iff_exists.mp there
      simp [own, row, count, pending]
    · simp [own, List.count_eq_zero.mpr own, RewardDb.isPending]
  cases call with
  | converting =>
    simp only [runRewards] at made
    split at made <;> cases made
    · simp [RewardCall.holds]
    · simp only [RewardDb.places, RewardDb.timesGranted, RewardDb.isPending, Table.find_push]
      split
      · rename_i new
        simp [new, Table.find_nextKey, RewardCall.holds]
      · simp [RewardCall.holds]
  | reading rent =>
    simp only [runRewards] at made
    cases made
    split <;> simp [RewardCall.holds]
  | claiming rent pending ids =>
    cases pending with
    | nil =>
      simp only [runRewards] at made
      split at made <;> cases made
      · simp [RewardCall.holds]
      · simp [RewardDb.places, RewardDb.timesGranted, RewardDb.isPending, RewardCall.holds]
        ring
    | cons id pending =>
      have succeeds : input.fails = false := by simpa [rewardInOrder] using inOrder
      simp only [runRewards, succeeds, Bool.false_eq_true, if_false] at made
      split_ifs at made with over_ free <;> cases made
      · simp [RewardCall.holds]
      · obtain ⟨p, row, none_⟩ := (Option.any_eq_true _ _).mp free
        have granted : (db.setApplied [id] (some input.now)).timesGranted k = db.timesGranted k := rfl
        rw [RewardDb.places, RewardDb.places, granted, RewardDb.isPending, RewardDb.isPending, find_setApplied]
        by_cases own : k = id
        · subst own
          simp [row, Option.isNone_iff_eq_none.mp none_, RewardCall.holds]
          ring
        · simp [own, RewardCall.holds, Ne.symm own]
      · simp [RewardCall.holds]
  | settling ids j =>
    have succeeds : input.fails = false := by simpa [rewardInOrder] using inOrder
    simp only [runRewards, succeeds] at made
    cases made
    have granted : RewardDb.timesGranted { db with
        invoices := db.invoices.modify j fun v => { v with linked := true } } k = db.timesGranted k :=
      Table.sum_modify_same fun _ _ => rfl
    simp [RewardDb.places, granted, RewardDb.isPending, RewardCall.holds]
  | releasing ids | freeing j ids =>
    simp only [rewardInOrder, Bool.and_eq_true, Bool.not_eq_true'] at inOrder
    simp only [runRewards, inOrder] at made
    cases made
    simpa [RewardCall.holds] using released ids alone
  | cancelling j =>
    simp only [runRewards] at made
    split at made
    · rename_i v found
      split at made <;> cases made
      · simp [RewardCall.holds]
      · rename_i live
        rw [Bool.or_eq_true, not_or, Bool.not_eq_true, Bool.not_eq_true] at live
        simp [RewardDb.places, RewardDb.timesGranted, RewardDb.isPending, RewardCall.holds, Table.sum_modify found,
          live.2]
        ring
    · cases made
      simp [RewardCall.holds]

/-! ### Runs -/

def RewardCall.Fits (rewards : ReferralId → ReferralReward) : RewardCall → Prop
  | .claiming rentCents _ referralIds => 0 ≤ rentCents → discountCents rewards rentCents referralIds ≤ rentCents
  | _ => True

structure RewardsHold (rewards : ReferralId → ReferralReward) (s : State RewardDb RewardCall) : Prop where
  placed : Placed s
  atMostRent : ∀ v ∈ s.db.invoices.values, 0 ≤ v.rentCents →
    discountCents rewards v.rentCents v.referralIds ≤ v.rentCents
  fits : ∀ r ∈ s.running, r.Fits rewards

theorem runRewards_fits (fits : call.Fits rewards) (made : runRewards rewards db input call = (db', rest))
    (held : ∀ v ∈ db.invoices.values, 0 ≤ v.rentCents →
      discountCents rewards v.rentCents v.referralIds ≤ v.rentCents) :
    (∀ v ∈ db'.invoices.values, 0 ≤ v.rentCents → discountCents rewards v.rentCents v.referralIds ≤ v.rentCents) ∧
      ∀ r, rest = some r → r.Fits rewards := by
  cases call with
  | claiming rent pending ids =>
    cases pending with
    | nil =>
      simp only [runRewards] at made
      split at made <;> cases made
      · exact ⟨held, by rintro r ⟨⟩; trivial⟩
      · refine ⟨fun v mem => ?_, by rintro r ⟨⟩; trivial⟩
        rw [Table.values_push, List.mem_append, List.mem_singleton] at mem
        rcases mem with mem | rfl
        · exact held v mem
        · exact fits
    | cons id pending =>
      simp only [runRewards] at made
      split_ifs at made with over_ <;> cases made <;> refine ⟨held, ?_⟩ <;> rintro r ⟨⟩
      · exact fits
      · intro _
        have := not_lt.mp (not_or.mp over_).2
        simpa [discountCents] using this
      · exact fits
  | reading =>
    simp only [runRewards] at made
    cases made
    refine ⟨held, fun r goes => ?_⟩
    split at goes <;> cases goes
    exact fun nonneg => nonneg
  | converting | releasing | freeing =>
    simp only [runRewards] at made
    cases made
    refine ⟨?_, by rintro r ⟨⟩⟩
    split <;> exact held
  | settling | cancelling =>
    simp only [runRewards] at made
    repeat' split at made
    all_goals
      cases made
      first
        | exact ⟨held, by rintro r ⟨⟩ <;> trivial⟩
        | exact ⟨Table.forall_modify held fun _ => id, by rintro r ⟨⟩ <;> trivial⟩

theorem RewardsHold.alone (held : RewardsHold rewards s) (found : s.running[i]? = some call) (k : ReferralId)
    (holds : 1 ≤ call.holds k) :
    call.holds k = 1 ∧ s.db.isPending k = false ∧ (s.db.referrals.find k).isSome = true := by
  have sums := sum_resume (fun r => r.holds k) found none
  have others := sum_holds_nonneg (resume s.running i none) k
  have granted := timesGranted_nonneg s.db k
  have placed := held.placed k
  rw [Option.map_none, Option.getD_none, add_zero] at sums
  rw [RewardDb.places] at placed
  cases pending : s.db.isPending k <;> cases there : (s.db.referrals.find k).isSome <;>
    simp only [pending, there, Bool.toInt_true, Bool.toInt_false] at placed <;> simp <;> omega

theorem RewardsHold.step {a : Action RewardRequest RewardInput} (held : RewardsHold rewards s)
    (inOrder : System.admits (fun db call input => rewardInOrder db call input = true) s a)
    (taken : (rewardSystem rewards).step s a = some t) : RewardsHold rewards t := by
  rcases System.step_cases taken with ⟨request, r, rfl, entered, rfl⟩ | ⟨i, input, r, db, rest, rfl, found, made, rfl⟩
  · have fresh : r.Fits rewards ∧ ∀ k, r.holds k = 0 := by
      cases request <;> cases entered <;> exact ⟨trivial, fun _ => rfl⟩
    refine ⟨fun k => ?_, held.atMostRent, fun r' mem => ?_⟩
    · rw [← held.placed k]
      simp [fresh.2]
    · rcases List.mem_append.mp mem with mem | mem
      · exact held.fits r' mem
      · exact List.mem_singleton.mp mem ▸ fresh.1
  · have made := Option.some.inj made
    obtain ⟨atMostRent, goesOn⟩ := runRewards_fits (held.fits r (List.mem_of_getElem? found)) made held.atMostRent
    refine ⟨fun k => ?_, atMostRent, fun r' mem => ?_⟩
    · have moved := runRewards_places (inOrder r found) (held.alone found k) made
      have sums := sum_resume (fun r => r.holds k) found rest
      have placed := held.placed k
      dsimp only
      omega
    · rcases mem_resume mem with mem | mem
      · exact held.fits r' mem
      · exact goesOn r' mem

theorem rewardsHold_run (start : RewardsHold rewards s)
    (run : Run (rewardSystem rewards).step
      (System.admits fun db call input => rewardInOrder db call input = true) s t) : RewardsHold rewards t :=
  Run.invariant (P := RewardsHold rewards) run start fun held inOrder taken => held.step inOrder taken

theorem RewardsHold.once (held : RewardsHold rewards s) (k : ReferralId) : s.db.timesGranted k ≤ 1 := by
  have placed := held.placed k
  have others := sum_holds_nonneg s.running k
  rw [RewardDb.places] at placed
  cases pending : s.db.isPending k <;> cases there : (s.db.referrals.find k).isSome <;>
    simp only [pending, there, Bool.toInt_true, Bool.toInt_false] at placed <;> omega

theorem centsGranted_eq (db : RewardDb) (fixed : (rewards k).rewardType = .fixed) :
    db.centsGranted rewards k = (rewards k).rewardValue * db.timesGranted k := by
  rw [RewardDb.centsGranted, RewardDb.timesGranted, Table.sum, Table.sum, ← List.sum_map_mul_left]
  refine congrArg List.sum (List.map_congr_left fun v _ => ?_)
  split
  · rw [mul_zero]
  · rw [discountCents, List.filter_eq]
    simp [ReferralReward.cents, fixed, mul_comm]

/-! ### Later invoices -/

def RewardCall.claims : RewardCall → ℕ
  | .claiming _ _ referralIds => min 1 referralIds.length
  | _ => 0

/-- A call that makes an invoice of rent `r` comes to the reward or has claimed another. -/
def RewardCall.Serves (rewards : ReferralId → ReferralReward) (r : ℤ) (k : ReferralId) : RewardCall → Prop
  | .claiming rentCents pending referralIds =>
    rentCents = r ∧ (k ∈ pending ∧ (rewards k).rewardValue ≤ r ∨ referralIds ≠ [])
  | _ => True

theorem mem_pending : k ∈ db.pending ↔ db.isPending k = true := by
  simp only [RewardDb.pending, RewardDb.isPending, List.mem_map, List.mem_filter, Option.any_eq_true]
  constructor
  · rintro ⟨q, ⟨mem, none_⟩, rfl⟩
    exact ⟨q.2, Table.find_of_mem mem, none_⟩
  · rintro ⟨p, row, none_⟩
    exact ⟨(k, p), ⟨Table.mem_of_find row, none_⟩, rfl⟩

theorem pending_claim (id : ReferralId) (now : Instant) :
    (db.setApplied [id] (some now)).pending = db.pending.filter (· ≠ id) := by
  simp only [RewardDb.pending, RewardDb.setApplied, Table.updateMany]
  induction db.referrals.rows with
  | nil => rfl
  | cons q rows ih => by_cases own : q.1 = id <;> cases applied : q.2.rewardAppliedAt <;> simp_all

theorem runRewards_rows (later : laterInvoice r call input = true)
    (made : runRewards rewards db input call = (db', rest)) (k : ReferralId) :
    db'.referrals.find k = db.referrals.find k ∨
      (db.referrals.find k).isSome = true ∧ db'.referrals.find k = some ⟨some input.now⟩ := by
  simp only [laterInvoice, Bool.and_eq_true, Bool.not_eq_true'] at later
  obtain ⟨succeeds, kind⟩ := later
  cases call with
  | reading | settling =>
    simp only [runRewards, succeeds, Bool.false_eq_true, if_false] at made
    cases made
    exact .inl rfl
  | claiming rent left ids =>
    cases left <;> simp only [runRewards, succeeds, Bool.false_eq_true, if_false] at made
    · cases made
      exact .inl rfl
    · split_ifs at made <;> cases made
      · exact .inl rfl
      · rw [find_setApplied]
        cases row : db.referrals.find k <;> split
        · exact .inl rfl
        · exact .inl rfl
        · exact .inr ⟨rfl, rfl⟩
        · exact .inl rfl
      · exact .inl rfl
  | _ => cases kind

/-- While a fixed reward is pending, each invoice that is made has claimed a reward. -/
theorem runRewards_grants (pos : 0 < r) (fixed : (rewards k).rewardType = .fixed)
    (serves : call.Serves rewards r k) (fits : rewardFits rewards db call = true)
    (later : laterInvoice r call input = true) (made : runRewards rewards db input call = (db', rest))
    (pending : db.isPending k = true) (still : db'.isPending k = true) :
    (∀ next, rest = some next → next.Serves rewards r k) ∧
      db'.invoices.values.length + (rest.map RewardCall.claims).getD 0 + db'.pending.length ≤
        db.invoices.values.length + call.claims + db.pending.length := by
  simp only [laterInvoice, Bool.and_eq_true, Bool.not_eq_true'] at later
  obtain ⟨succeeds, kind⟩ := later
  cases call with
  | reading rent =>
    obtain rfl := of_decide_eq_true kind
    simp only [runRewards, succeeds, Bool.false_eq_true, if_false, if_neg (not_le.mpr pos)] at made
    cases made
    refine ⟨?_, le_rfl⟩
    rintro next ⟨⟩
    have mem := mem_pending.mpr pending
    refine ⟨rfl, .inl ⟨mem, ?_⟩⟩
    simp only [rewardFits, Bool.or_eq_true, decide_eq_true_eq, List.all_eq_true] at fits
    rcases fits.resolve_left (not_le.mpr pos) k mem with percentage | most
    · rw [fixed] at percentage
      cases percentage
    · exact most
  | claiming rent left ids =>
    obtain ⟨rfl, turn⟩ := serves
    cases left with
    | nil =>
      simp only [runRewards, succeeds, Bool.false_eq_true, if_false] at made
      cases made
      refine ⟨by rintro next ⟨⟩; trivial, ?_⟩
      have claimed : ids ≠ [] := turn.resolve_left fun none_ => absurd none_.1 List.not_mem_nil
      have := List.length_pos_iff.mpr claimed
      change (db.invoices.push _).values.length + 0 + db.pending.length ≤ _
      rw [Table.values_push, List.length_append, List.length_singleton, RewardCall.claims]
      omega
    | cons id left =>
      simp only [runRewards, succeeds, Bool.false_eq_true, if_false] at made
      split_ifs at made with over_ free <;> cases made
      · refine ⟨?_, le_rfl⟩
        rintro next ⟨⟩
        refine ⟨rfl, turn.elim (fun here => ?_) .inr⟩
        rcases List.mem_cons.mp here.1 with rfl | mem
        · refine .inr fun none_ => ?_
          have positive := (rewards k).hasReward
          simp only [none_, discountCents, ReferralReward.cents, fixed, List.map_nil, List.sum_nil] at over_
          omega
        · exact .inl ⟨mem, here.2⟩
      · refine ⟨by rintro next ⟨⟩; exact ⟨rfl, .inr (by simp)⟩, ?_⟩
        have fewer : (db.setApplied [id] (some input.now)).pending.length < db.pending.length := by
          rw [pending_claim]
          exact List.length_filter_lt_length_iff_exists.mpr ⟨id, mem_pending.mpr free, by simp⟩
        change db.invoices.values.length + min 1 (ids ++ [id]).length + _ ≤
          db.invoices.values.length + min 1 ids.length + _
        omega
      · refine ⟨?_, le_rfl⟩
        rintro next ⟨⟩
        refine ⟨rfl, turn.imp_left fun here => ⟨?_, here.2⟩⟩
        rcases List.mem_cons.mp here.1 with rfl | mem
        · exact (free pending).elim
        · exact mem
  | settling ids j =>
    simp only [runRewards, succeeds, Bool.false_eq_true, if_false] at made
    cases made
    refine ⟨by rintro next ⟨⟩, ?_⟩
    simp [Table.values, Table.modify, RewardCall.claims, RewardDb.pending]
  | _ => cases kind

/-- What later invoices of one rent keep, from `t` on. -/
structure Granting (rewards : ReferralId → ReferralReward) (t : State RewardDb RewardCall) (r : ℤ)
    (s : State RewardDb RewardCall) : Prop where
  held : RewardsHold rewards s
  kept : ∀ k ∈ t.db.pending, (s.db.referrals.find k).isSome = true
  counted : ∀ k ∈ t.db.pending, s.db.isPending k = true → (∀ call ∈ s.running, call.Serves rewards r k) ∧
    s.db.invoices.values.length + (s.running.map RewardCall.claims).sum + s.db.pending.length ≤
      t.db.invoices.values.length + t.db.pending.length

theorem Granting.step {s' : State RewardDb RewardCall} {a : Action RewardRequest RewardInput} (pos : 0 < r)
    (fixed : ∀ k ∈ t.db.pending, (rewards k).rewardType = .fixed) (before : Granting rewards t r s)
    (admitted : System.admits (fun db call input =>
      (rewardInOrder db call input && rewardFits rewards db call && laterInvoice r call input) = true) s a)
    (taken : (rewardSystem rewards).step s a = some s') : Granting rewards t r s' := by
  have inOrder : System.admits (fun db call input => rewardInOrder db call input = true) s a := by
    cases a with
    | start => trivial
    | advance i input =>
      exact fun c found => (Bool.and_eq_true_iff.mp (Bool.and_eq_true_iff.mp (admitted c found)).1).1
  have held := before.held.step inOrder taken
  rcases System.step_cases taken with ⟨request, c, rfl, entered, rfl⟩ | ⟨i, input, c, db, rest, rfl, found, made, rfl⟩
  · have fresh : c.claims = 0 ∧ ∀ k, c.Serves rewards r k := by
      cases request <;> cases entered <;> exact ⟨rfl, fun _ => trivial⟩
    refine ⟨held, before.kept, fun k mem pending => ?_⟩
    obtain ⟨serve, counted⟩ := before.counted k mem pending
    refine ⟨fun c' mem' => ?_, by simpa [fresh.1] using counted⟩
    rcases List.mem_append.mp mem' with mem' | mem'
    · exact serve c' mem'
    · exact List.mem_singleton.mp mem' ▸ fresh.2 k
  · have made := Option.some.inj made
    obtain ⟨ok, later⟩ := Bool.and_eq_true_iff.mp (admitted c found)
    have fits := (Bool.and_eq_true_iff.mp ok).2
    have rows := runRewards_rows later made
    refine ⟨held, fun k mem => ?_, fun k mem still => ?_⟩
    · rcases rows k with same | ⟨-, applied⟩
      · exact same ▸ before.kept k mem
      · exact applied ▸ rfl
    · have pending : s.db.isPending k = true := by
        rw [RewardDb.isPending] at still ⊢
        rcases rows k with same | ⟨-, applied⟩
        · rwa [same] at still
        · rw [applied] at still
          cases still
      obtain ⟨serve, counted⟩ := before.counted k mem pending
      obtain ⟨goesOn, moved⟩ :=
        runRewards_grants pos (fixed k mem) (serve c (List.mem_of_getElem? found)) fits later made pending still
      have sums := sum_resume RewardCall.claims found rest
      refine ⟨fun c' mem' => ?_, by dsimp only; omega⟩
      rcases mem_resume mem' with mem' | mem'
      · exact serve c' mem'
      · exact goesOn c' mem'

theorem RewardsHold.grantsAll (held : RewardsHold rewards t) :
    GrantsAll rewards (fun db call input => rewardInOrder db call input && rewardFits rewards db call) t := by
  intro r u pos idle idle' fixed run enough k mem
  have start : Granting rewards t r t := by
    refine ⟨held, fun k mem => ?_, fun k _ _ => ⟨by simp [idle], by simp [idle]⟩⟩
    obtain ⟨p, row, -⟩ := (Option.any_eq_true _ _).mp (mem_pending.mp mem)
    rw [row]
    rfl
  have all : Granting rewards t r u :=
    run.invariant start fun before admitted taken => Granting.step pos fixed before admitted taken
  have placed := all.held.placed k
  rw [all.kept k mem, idle', List.map_nil, List.sum_nil, RewardDb.places] at placed
  have granted : u.db.isPending k ≠ true := by
    intro pending
    have few := (all.counted k mem pending).2
    have some_ : 0 < u.db.pending.length := List.length_pos_of_mem (mem_pending.mpr pending)
    have each := List.card_nsmul_le_sum (t.db.pending.map fun k => ⌈((rewards k).rewardValue / r : ℚ)⌉) 1
      fun n mem => by
        obtain ⟨k, -, rfl⟩ := List.mem_map.mp mem
        have positive := (rewards k).hasReward
        exact Int.one_le_ceil_iff.mpr (by positivity)
    rw [List.length_map, nsmul_one] at each
    rw [idle', List.map_nil, List.sum_nil] at few
    omega
  rw [Bool.eq_false_iff.mpr granted, Bool.toInt_false, Bool.toInt_true, add_zero, add_zero] at placed
  rw [centsGranted_eq _ (fixed k mem), placed, mul_one]

/-- In every run in order rewards are spent once, each is pending or granted when no call is under way, and later
invoices that the fixed ones fit in grant them in full. -/
theorem rewards_spent_once (run : Run (rewardSystem rewards).step
      (System.admits fun db call input => rewardInOrder db call input = true) ⟨⟨.empty, .empty⟩, []⟩ t) :
    t.db.SpentOnce rewards ∧
      (t.running = [] → ∀ k, (t.db.referrals.find k).isSome = true →
        t.db.isPending k = true ∨ t.db.timesGranted k = 1) ∧
      GrantsAll rewards (fun db call input => rewardInOrder db call input && rewardFits rewards db call) t := by
  have start : RewardsHold rewards ⟨⟨.empty, .empty⟩, []⟩ := by
    refine ⟨fun k => rfl, by simp, by simp⟩
  have held := rewardsHold_run start run
  refine ⟨⟨held.once, held.atMostRent, fun k fixed => ?_⟩, fun idle k there => ?_, held.grantsAll⟩
  · rw [centsGranted_eq _ fixed]
    have positive := (rewards k).hasReward
    have once := held.once k
    exact mul_le_of_le_one_right positive.le once
  · have placed := held.placed k
    rw [there, idle, List.map_nil, List.sum_nil, RewardDb.places] at placed
    cases pending : t.db.isPending k
    · rw [pending] at placed
      exact .inr (by simpa using placed)
    · exact .inl rfl

end

/-! ### A reward that does not fit -/

def fixedReward (rewardValue : ℤ) (hasReward : 0 < rewardValue) (_ : ReferralId) : ReferralReward :=
  ⟨.fixed, rewardValue, hasReward⟩

def rewardStep : Action RewardRequest RewardInput := .advance 0 ⟨0, false⟩

def rewardedInvoice : List (Action RewardRequest RewardInput) := .start (.invoice 4000) :: List.replicate 4 rewardStep

theorem rewards_spent_once_fitting : ∃ t : State RewardDb RewardCall,
    t.db.centsGranted (fixedReward 3000 (by decide)) 0 = 3000 ∧ t.db.SpentOnce (fixedReward 3000 (by decide)) := by
  obtain ⟨t, run, granted⟩ := Run.exists_of_exec (rewardSystem (fixedReward 3000 (by decide))).step
    (System.admits fun db call input => rewardInOrder db call input = true)
    ⟨⟨.empty, .empty⟩, []⟩ ([.start .onContractSigned, rewardStep] ++ rewardedInvoice)
    (fun t => t.db.centsGranted (fixedReward 3000 (by decide)) 0 = 3000) (by decide +kernel)
  exact ⟨t, of_decide_eq_true granted, (rewards_spent_once run).1⟩

/-- A reward of 50 € is never granted on rents of 40 €; one of 30 € is lost with a draft that is cancelled before
`settleRewards`. -/
theorem rewards_starve :
    (∃ t, Reaches (rewardSystem (fixedReward 5000 (by decide))).step ⟨⟨.empty, .empty⟩, []⟩ t ∧
      ¬GrantsAll (fixedReward 5000 (by decide)) (fun _ _ _ => true) t) ∧
    ∃ t, Reaches (rewardSystem (fixedReward 3000 (by decide))).step ⟨⟨.empty, .empty⟩, []⟩ t ∧ t.running = [] ∧
      (t.db.referrals.find 0).isSome = true ∧ t.db.isPending 0 = false ∧ t.db.timesGranted 0 = 0 := by
  constructor
  · refine ⟨⟨⟨Table.empty.push ⟨none⟩, .empty⟩, []⟩,
      Run.of_exec (rfl : exec _ _ [.start .onContractSigned, rewardStep] = _), fun all => ?_⟩
    obtain ⟨u, run, ends⟩ := Run.exists_of_exec (rewardSystem (fixedReward 5000 (by decide))).step
      (System.admits fun _ call input => (true && laterInvoice 4000 call input) = true)
      ⟨⟨Table.empty.push ⟨none⟩, .empty⟩, []⟩ (rewardedInvoice ++ rewardedInvoice)
      (fun u => u.running = [] ∧ u.db.invoices.values.length = 2 ∧
        u.db.centsGranted (fixedReward 5000 (by decide)) 0 = 0) (by decide +kernel)
    obtain ⟨idle, two, none_⟩ := of_decide_eq_true ends
    have granted := all 4000 u (by decide) rfl idle (fun _ _ => rfl) run (by rw [two]; decide +kernel) 0 (by decide)
    rw [none_] at granted
    cases granted
  · obtain ⟨t, run, lost⟩ := Run.exists_of_exec (rewardSystem (fixedReward 3000 (by decide))).step (fun _ _ => True)
      ⟨⟨.empty, .empty⟩, []⟩ ([.start .onContractSigned, rewardStep, .start (.invoice 4000), rewardStep, rewardStep,
        rewardStep, .start (.cancel 0), .advance 1 ⟨0, false⟩, .advance 1 ⟨0, false⟩, rewardStep])
      (fun t => t.running = [] ∧ (t.db.referrals.find 0).isSome = true ∧ t.db.isPending 0 = false ∧
        t.db.timesGranted 0 = 0) (by decide +kernel)
    exact ⟨t, run, of_decide_eq_true lost⟩

end StorageOS
