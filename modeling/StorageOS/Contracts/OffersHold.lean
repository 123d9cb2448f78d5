import StorageOS.Contracts.RetentionOffers
import StorageOS.Saas.PeriodPayments

/-! What every run of retention offers keeps, as long as an answer finds its offer pending, an acceptance a contract
that goes on and has no discount of its own, and the job discounts that are still over. -/

namespace StorageOS

open Transition Processes

variable {contracts : Table ContractId RetainedContract} {db db' : RetentionDb} {call call' : RetentionCall}
  {rest : Option RetentionCall} {input : RetentionInput} {k : ContractId} {c c' : RetainedContract}
  {a : OfferAcceptance} {now clock : Instant}

def offerInTurn (db : RetentionDb) (call : RetentionCall) (input : RetentionInput) : Bool :=
  input.stops || input.fails || match call with
  | .applying offerId offer _ => (db.offers.find offerId).any (·.status = .pending) &&
    (db.contracts.find offer.contractId).all fun c => c.status ≠ .ended && c.status ≠ .cancelled &&
      (c.discountAmount = 0 || c.discountExpiresAt.isSome)
  | .markingDeclined offerId => (db.offers.find offerId).any (·.status = .pending)
  | .reverting now id _ => (db.contracts.find id).all fun c => c.discountExpiresAt.all (· ≤ now)
  | _ => true

def RetentionDb.lastAcceptance (db : RetentionDb) (k : ContractId) : Option OfferAcceptance :=
  (db.acceptances.filter (·.contractId = k)).getLast?

/-- Each offer has one outcome at most, none was accepted on a contract that was over, and the discount of a
contract is its own until an offer is accepted, that of the last offer until it expires, and its own again
after the next run of the job. -/
structure OffersKept (contracts : Table ContractId RetainedContract) (db : RetentionDb) : Prop where
  once : (db.acceptances.map OfferAcceptance.offerId ++ db.declines).Nodup
  live : ∀ a ∈ db.acceptances, a.statusBefore ≠ .ended ∧ a.statusBefore ≠ .cancelled
  before : ∀ q ∈ db.contracts.rows, db.lastAcceptance q.1 = none →
    ∀ own ∈ contracts.find q.1, q.2.discountAmount = own.discountAmount
  applies : ∀ q ∈ db.contracts.rows, ∀ a ∈ db.lastAcceptance q.1, db.clock < a.expiresAt →
    q.2.discountAmount = a.discount
  after : ∀ q ∈ db.contracts.rows, ∀ a ∈ db.lastAcceptance q.1, q.2.deletedAt = none →
    ∀ now ∈ db.reverts, a.expiresAt ≤ now → ∀ own ∈ contracts.find q.1, q.2.discountAmount = own.discountAmount

instance : Decidable (OffersKept contracts db) :=
  decidable_of_iff ((db.acceptances.map OfferAcceptance.offerId ++ db.declines).Nodup ∧
      (∀ a ∈ db.acceptances, a.statusBefore ≠ .ended ∧ a.statusBefore ≠ .cancelled) ∧
      (∀ q ∈ db.contracts.rows, db.lastAcceptance q.1 = none →
        ∀ own ∈ contracts.find q.1, q.2.discountAmount = own.discountAmount) ∧
      (∀ q ∈ db.contracts.rows, ∀ a ∈ db.lastAcceptance q.1, db.clock < a.expiresAt →
        q.2.discountAmount = a.discount) ∧
      ∀ q ∈ db.contracts.rows, ∀ a ∈ db.lastAcceptance q.1, q.2.deletedAt = none →
        ∀ now ∈ db.reverts, a.expiresAt ≤ now → ∀ own ∈ contracts.find q.1, q.2.discountAmount = own.discountAmount)
    ⟨fun ⟨once, live, before, applies, after⟩ => ⟨once, live, before, applies, after⟩,
      fun ⟨once, live, before, applies, after⟩ => ⟨once, live, before, applies, after⟩⟩

/-! ### What is kept -/

/-- The discount of a contract whose own is `own`. -/
structure RetainedContract.Sound (own : ℤ) (db : RetentionDb) (last : Option OfferAcceptance)
    (c : RetainedContract) : Prop where
  before : last = none → c.discountAmount = own ∧ c.discountExpiresAt = none
  accepted : ∀ a, last = some a → own = 0 ∧ 0 ≤ a.discount ∧
    ((c.discountAmount = a.discount ∧ c.discountExpiresAt = some a.expiresAt) ∨
      (a.expiresAt ≤ db.clock ∧ c.discountAmount = 0 ∧ c.discountExpiresAt = none))
  after : ∀ a, last = some a → c.deletedAt = none → ∀ now ∈ db.reverts, a.expiresAt ≤ now → c.discountAmount = 0

structure OffersSound (contracts : Table ContractId RetainedContract) (db : RetentionDb) : Prop where
  contracts : ∀ k c, db.contracts.find k = some c → ∃ own, contracts.find k = some own ∧
    c.Sound own.discountAmount db (db.lastAcceptance k)
  answered : ∀ id ∈ db.acceptances.map OfferAcceptance.offerId ++ db.declines,
    ∃ offer, db.offers.find id = some offer ∧ offer.status ≠ .pending
  once : (db.acceptances.map OfferAcceptance.offerId ++ db.declines).Nodup
  live : ∀ a ∈ db.acceptances, a.statusBefore ≠ .ended ∧ a.statusBefore ≠ .cancelled
  past : ∀ now ∈ db.reverts, now ≤ db.clock

theorem OffersSound.kept (sound : OffersSound contracts db) : OffersKept contracts db where
  once := sound.once
  live := sound.live
  before q mem none_ own found := by
    obtain ⟨own', found', kept⟩ := sound.contracts q.1 q.2 (Table.find_of_mem mem)
    rw [Option.mem_def, found'] at found
    cases found
    exact (kept.before none_).1
  applies q mem a last current := by
    obtain ⟨own, -, kept⟩ := sound.contracts q.1 q.2 (Table.find_of_mem mem)
    obtain ⟨-, -, given | over_⟩ := kept.accepted a last
    · exact given.1
    · exact absurd current (not_lt_of_ge over_.1)
  after q mem a last there now run le own found := by
    obtain ⟨own', found', kept⟩ := sound.contracts q.1 q.2 (Table.find_of_mem mem)
    rw [Option.mem_def, found'] at found
    cases found
    rw [kept.after a last there now run le, (kept.accepted a last).1]

def RetentionDb.Due (db : RetentionDb) (now : Instant) (k : ContractId) : Prop :=
  ∃ c, db.contracts.find k = some c ∧ c.deletedAt = none ∧ c.discountOver now = true

def RetentionCall.Known (db : RetentionDb) : RetentionCall → Prop
  | .rechecking now due => now ≤ db.clock ∧ ∀ k, db.Due now k → k ∈ due
  | .reverting now id later => now ≤ db.clock ∧ (∀ k, db.Due now k → k ∈ id :: later) ∧
    (db.lastAcceptance id).isSome
  | _ => True

structure RetentionStep (db db' : RetentionDb) : Prop where
  clock : db.clock ≤ db'.clock
  due : ∀ now k, now ≤ db.clock → db'.Due now k → db.Due now k
  accepted : ∀ k, (db.lastAcceptance k).isSome → (db'.lastAcceptance k).isSome

theorem RetentionStep.refl (db : RetentionDb) : RetentionStep db db := ⟨le_refl _, fun _ _ _ => id, fun _ => id⟩

theorem RetentionStep.trans {db'' : RetentionDb} (first : RetentionStep db db') (second : RetentionStep db' db'') :
    RetentionStep db db'' :=
  ⟨le_trans first.clock second.clock,
    fun now k past due => first.due now k past (second.due now k (le_trans past first.clock) due),
    fun k some_ => second.accepted k (first.accepted k some_)⟩

theorem RetentionCall.Known.step (known : call.Known db) (kept : RetentionStep db db') : call.Known db' := by
  cases call with
  | rechecking now due =>
    exact ⟨le_trans known.1 kept.clock, fun k over_ => known.2 k (kept.due now k known.1 over_)⟩
  | reverting now id later =>
    exact ⟨le_trans known.1 kept.clock, fun k over_ => known.2.1 k (kept.due now k known.1 over_),
      kept.accepted id known.2.2⟩
  | _ => trivial

variable (sound : OffersSound contracts db)
include sound

theorem OffersSound.later (le : db.clock ≤ clock) : OffersSound contracts { db with clock } where
  contracts k c found := by
    obtain ⟨own, there, kept⟩ := sound.contracts k c found
    refine ⟨own, there, kept.before, fun a last => ?_, kept.after⟩
    obtain ⟨zero, nonneg, given⟩ := kept.accepted a last
    exact ⟨zero, nonneg, given.imp_right fun over_ => ⟨le_trans over_.1 le, over_.2⟩⟩
  answered := sound.answered
  once := sound.once
  live := sound.live
  past now mem := le_trans (sound.past now mem) le

/-! ### Writes to a contract -/

variable {f : RetainedContract → RetainedContract} {offer : RetentionOffer}

theorem OffersSound.rewritten
    (same : ∀ c, (f c).discountAmount = c.discountAmount ∧ (f c).discountExpiresAt = c.discountExpiresAt ∧
      (f c).deletedAt = c.deletedAt) : OffersSound contracts { db with contracts := db.contracts.modify k f } ∧
      RetentionStep db { db with contracts := db.contracts.modify k f } := by
  have before : ∀ {j c}, (db.contracts.modify k f).find j = some c → ∃ b, db.contracts.find j = some b ∧
      c.discountAmount = b.discountAmount ∧ c.discountExpiresAt = b.discountExpiresAt ∧ c.deletedAt = b.deletedAt := by
    intro j c found
    rcases Table.find_modify_cases found with ⟨-, unchanged⟩ | ⟨rfl, b, there, rfl⟩
    · exact ⟨c, unchanged, rfl, rfl, rfl⟩
    · exact ⟨b, there, same b⟩
  refine ⟨⟨fun j c found => ?_, sound.answered, sound.once, sound.live, sound.past⟩,
    le_refl _, fun now j _ => ?_, fun _ => id⟩
  · obtain ⟨b, there, amount, expires, deleted⟩ := before found
    obtain ⟨own, started, kept⟩ := sound.contracts j b there
    refine ⟨own, started, ?_, ?_, ?_⟩
    · rw [amount, expires]
      exact kept.before
    · rw [amount, expires]
      exact kept.accepted
    · rw [amount, deleted]
      exact kept.after
  · rintro ⟨c, found, live, over_⟩
    obtain ⟨b, there, amount, expires, deleted⟩ := before found
    rw [RetainedContract.discountOver, amount, expires] at over_
    exact ⟨b, there, deleted.symm.trans live, over_⟩

theorem OffersSound.revert (past : now ≤ db.clock) (accepted : (db.lastAcceptance k).isSome)
    (still : ∀ c, db.contracts.find k = some c → c.discountExpiresAt.all (· ≤ now) = true) :
    OffersSound contracts { db with contracts := db.contracts.modify k .revert } ∧
      RetentionStep db { db with contracts := db.contracts.modify k .revert } := by
  obtain ⟨a, last⟩ := Option.isSome_iff_exists.mp accepted
  refine ⟨⟨fun j c found => ?_, sound.answered, sound.once, sound.live, sound.past⟩,
    le_refl _, fun now j _ => ?_, fun _ => id⟩
  · rcases Table.find_modify_cases found with ⟨-, unchanged⟩ | ⟨rfl, b, there, rfl⟩
    · obtain ⟨own, started, kept⟩ := sound.contracts j c unchanged
      exact ⟨own, started, kept.before, kept.accepted, kept.after⟩
    · obtain ⟨own, started, kept⟩ := sound.contracts j b there
      obtain ⟨zero, nonneg, given⟩ := kept.accepted a last
      have expired : a.expiresAt ≤ db.clock := by
        rcases given with ⟨-, expires⟩ | ⟨expired, -⟩
        · have within := still b there
          rw [expires, Option.all_some, decide_eq_true_eq] at within
          exact le_trans within past
        · exact expired
      refine ⟨own, started, fun none_ => ?_, fun a' last' => ?_, fun _ _ _ _ _ _ => rfl⟩
      · rw [show db.lastAcceptance j = none from none_] at last
        cases last
      · obtain rfl := Option.some.inj (last.symm.trans last')
        exact ⟨zero, nonneg, .inr ⟨expired, rfl, rfl⟩⟩
  · rintro ⟨c, found, live, over_⟩
    rcases Table.find_modify_cases found with ⟨-, unchanged⟩ | ⟨-, b, -, rfl⟩
    · exact ⟨c, unchanged, live, over_⟩
    · cases over_

/-! ### Answers -/

omit sound in
theorem discountAmountFor_nonneg {discountType : RetentionDiscountType} {value : ℚ} (positive : 0 < value)
    (price : ℕ) : 0 ≤ discountAmountFor discountType value price := by
  have round : ∀ {raw : ℚ}, 0 ≤ raw → 0 ≤ round2 raw := fun nonneg => Int.floor_nonneg.mpr (by linarith)
  have old : 0 ≤ euros price := by
    rw [euros]
    positivity
  cases discountType with
  | percentage => exact le_min (round (by positivity)) (Int.natCast_nonneg price)
  | fixed => exact le_min (round positive.le) (Int.natCast_nonneg price)

variable {offerId : RetentionOfferId}

variable (pending : (db.offers.find offerId).any (·.status = .pending) = true)
include pending

theorem OffersSound.unanswered : offerId ∉ db.acceptances.map OfferAcceptance.offerId ++ db.declines := by
  intro mem
  obtain ⟨offer, found, answered⟩ := sound.answered offerId mem
  rw [found, Option.any_some, decide_eq_true_eq] at pending
  exact answered pending

theorem OffersSound.answer {f : RetentionOffer → RetentionOffer} (answers : ∀ offer, (f offer).status ≠ .pending)
    {id : RetentionOfferId}
    (answered : id ∈ db.acceptances.map OfferAcceptance.offerId ++ db.declines ∨ id = offerId) :
    ∃ offer, (db.offers.modify offerId f).find id = some offer ∧ offer.status ≠ .pending := by
  have own : ∃ offer, (db.offers.modify offerId f).find offerId = some offer ∧ offer.status ≠ .pending := by
    obtain ⟨offer, found, -⟩ := (Option.any_eq_true _ _).mp pending
    exact ⟨f offer, by rw [Table.find_modify_self, found]; rfl, answers offer⟩
  rcases answered with before | rfl
  · by_cases same : id = offerId
    · exact same ▸ own
    · rw [Table.find_modify_ne _ same]
      exact sound.answered id before
  · exact own

theorem OffersSound.decline :
    OffersSound contracts { db with
      offers := db.offers.modify offerId fun offer => { offer with status := .declined, respondedAt := some db.clock }
      declines := db.declines ++ [offerId] } where
  contracts k c found :=
    have ⟨own, there, kept⟩ := sound.contracts k c found
    ⟨own, there, kept.before, kept.accepted, kept.after⟩
  answered id mem := by
    rw [← List.append_assoc, List.mem_append, List.mem_singleton] at mem
    exact sound.answer pending (fun _ => by simp) mem
  once := by
    rw [← List.append_assoc, List.nodup_append]
    refine ⟨sound.once, List.nodup_singleton _, fun id mem id' new same => ?_⟩
    obtain rfl := List.mem_singleton.mp new
    exact sound.unanswered pending (same ▸ mem)
  live := sound.live
  past := sound.past

omit pending

omit sound in
theorem lastAcceptance_append (db : RetentionDb) (a : OfferAcceptance) (k : ContractId) :
    ({ db with acceptances := db.acceptances ++ [a] } : RetentionDb).lastAcceptance k =
      if a.contractId = k then some a else db.lastAcceptance k := by
  rw [RetentionDb.lastAcceptance, List.filter_append]
  by_cases own : a.contractId = k <;> simp [own, RetentionDb.lastAcceptance]

/-- An acceptance is written on a contract that goes on, without a discount of its own. -/
theorem OffersSound.acceptance {g : RetentionOffer → RetentionOffer}
    (pending : (db.offers.find a.offerId).any (·.status = .pending) = true)
    (found : db.contracts.find a.contractId = some c) (status : a.statusBefore = c.status)
    (live : c.status ≠ .ended ∧ c.status ≠ .cancelled)
    (none_ : c.discountAmount = 0 ∨ c.discountExpiresAt.isSome = true)
    (gives : ∀ c, (f c).discountAmount = a.discount ∧ (f c).discountExpiresAt = some a.expiresAt)
    (nonneg : 0 ≤ a.discount) (ahead : db.clock < a.expiresAt) (answers : ∀ offer, (g offer).status ≠ .pending) :
    OffersSound contracts { db with
        contracts := db.contracts.modify a.contractId f
        offers := db.offers.modify a.offerId g
        acceptances := db.acceptances ++ [a] } ∧
      RetentionStep db { db with
        contracts := db.contracts.modify a.contractId f
        offers := db.offers.modify a.offerId g
        acceptances := db.acceptances ++ [a] } := by
  have last : ∀ j, ({ db with
      contracts := db.contracts.modify a.contractId f
      offers := db.offers.modify a.offerId g
      acceptances := db.acceptances ++ [a] } : RetentionDb).lastAcceptance j =
      if a.contractId = j then some a else db.lastAcceptance j := lastAcceptance_append db a
  refine ⟨⟨fun j c' changed => ?_, fun id mem => ?_, ?_, fun a' mem => ?_, sound.past⟩, le_refl _,
    fun now j past => ?_, fun j some_ => ?_⟩
  · rw [last]
    rcases Table.find_modify_cases changed with ⟨other, unchanged⟩ | ⟨rfl, b, there, rfl⟩
    · rw [if_neg (Ne.symm other)]
      obtain ⟨own, started, kept⟩ := sound.contracts j c' unchanged
      exact ⟨own, started, kept.before, kept.accepted, kept.after⟩
    · rw [if_pos rfl]
      obtain rfl := Option.some.inj (found.symm.trans there)
      obtain ⟨own, started, kept⟩ := sound.contracts _ c there
      have zero : own.discountAmount = 0 := by
        cases before : db.lastAcceptance a.contractId with
        | some a' => exact (kept.accepted a' before).1
        | none =>
          obtain ⟨amount, expires⟩ := kept.before before
          rw [amount, expires] at none_
          exact none_.resolve_right (by simp)
      refine ⟨own, started, ⟨fun absent => (Option.some_ne_none _ absent).elim, fun a' same => ?_,
        fun a' same _ now run le => ?_⟩⟩
      · cases same
        exact ⟨zero, nonneg, .inl (gives c)⟩
      · cases same
        exact absurd (lt_of_lt_of_le ahead (le_trans le (sound.past now run))) (lt_irrefl _)
  · rw [List.map_append, List.mem_append, List.mem_append] at mem
    refine sound.answer pending answers ?_
    rw [List.mem_append]
    rcases mem with (old | new) | declined
    · exact .inl (.inl old)
    · exact .inr (List.mem_singleton.mp new)
    · exact .inl (.inr declined)
  · rw [List.map_append, List.append_assoc]
    exact (List.perm_middle.nodup_iff).mpr (List.nodup_cons.mpr ⟨sound.unanswered pending, sound.once⟩)
  · rcases List.mem_append.mp mem with old | new
    · exact sound.live a' old
    · rw [List.mem_singleton.mp new, status]
      exact live
  · rintro ⟨c', changed, there, over_⟩
    rcases Table.find_modify_cases changed with ⟨-, unchanged⟩ | ⟨-, b, -, rfl⟩
    · exact ⟨c', unchanged, there, over_⟩
    · rw [RetainedContract.discountOver, (gives b).2, Option.any_some, Bool.and_eq_true, decide_eq_true_eq] at over_
      exact absurd (lt_of_lt_of_le ahead (le_trans over_.1 past)) (lt_irrefl _)
  · rw [last]
    split
    · rfl
    · exact some_

theorem OffersSound.accept {read : RetainedContract} {today : Date}
    (pending : (db.offers.find offerId).any (·.status = .pending) = true)
    (goesOn : (db.contracts.find offer.contractId).all (fun c => c.status ≠ .ended && c.status ≠ .cancelled &&
      (c.discountAmount = 0 || c.discountExpiresAt.isSome)) = true) :
    OffersSound contracts (db.accept offerId offer read today) ∧
      RetentionStep db (db.accept offerId offer read today) := by
  rw [RetentionDb.accept]
  cases found : db.contracts.find offer.contractId with
  | none =>
    rw [Table.modify_of_find_none found, Option.map_none, Option.toList_none, List.append_nil]
    refine ⟨⟨fun j c there => ?_, fun id mem => sound.answer pending (fun _ => by simp) (.inl mem), sound.once,
      sound.live, sound.past⟩, le_refl _, fun _ _ _ => id, fun _ => id⟩
    obtain ⟨own, started, kept⟩ := sound.contracts j c there
    exact ⟨own, started, kept.before, kept.accepted, kept.after⟩
  | some c =>
    rw [found, Option.all_some, Bool.and_eq_true, Bool.and_eq_true, Bool.or_eq_true, decide_eq_true_eq,
      decide_eq_true_eq, decide_eq_true_eq] at goesOn
    have gives : ∀ (disc : ℤ) (expiresAt : Instant) (c : RetainedContract),
        (RetainedContract.accept offerId read disc expiresAt today c).discountAmount = disc ∧
          (RetainedContract.accept offerId read disc expiresAt today c).discountExpiresAt = some expiresAt :=
      fun _ _ _ => ⟨rfl, rfl⟩
    exact sound.acceptance (a := ⟨offerId, offer.contractId, c.status, _, _⟩) pending found rfl goesOn.1 goesOn.2
      (gives _ _) (discountAmountFor_nonneg offer.positive _) (lt_addMonthsTo _ (lt_max_of_lt_left one_pos))
      fun _ => by simp

/-! ### A step -/

theorem OffersSound.finishes (past : now ≤ db.clock) (none_ : ∀ k, ¬db.Due now k) :
    OffersSound contracts { db with reverts := db.reverts ++ [now] } where
  contracts k c found := by
    obtain ⟨own, there, kept⟩ := sound.contracts k c found
    refine ⟨own, there, kept.before, kept.accepted, fun a last live run mem le => ?_⟩
    rcases List.mem_append.mp mem with old | new
    · exact kept.after a last live run old le
    · obtain rfl := List.mem_singleton.mp new
      obtain ⟨-, nonneg, ⟨amount, expires⟩ | ⟨-, zero, -⟩⟩ := kept.accepted a last
      · by_contra given
        refine none_ k ⟨c, found, live, ?_⟩
        rw [RetainedContract.discountOver, expires, Option.any_some, Bool.and_eq_true, decide_eq_true_eq,
          decide_eq_true_eq]
        exact ⟨le, lt_of_le_of_ne (amount ▸ nonneg) (Ne.symm given)⟩
      · exact zero
  answered := sound.answered
  once := sound.once
  live := sound.live
  past run mem := by
    rcases List.mem_append.mp mem with old | new
    · exact sound.past run old
    · exact List.mem_singleton.mp new ▸ past

theorem OffersSound.offered : OffersSound contracts { db with offers := db.offers.push offer } where
  contracts k c found :=
    have ⟨own, there, kept⟩ := sound.contracts k c found
    ⟨own, there, kept.before, kept.accepted, kept.after⟩
  answered id mem :=
    have ⟨offer, found, answered⟩ := sound.answered id mem
    ⟨offer, Table.find_push_of_some found _, answered⟩
  once := sound.once
  live := sound.live
  past := sound.past

theorem runRetention_sound (known : call.Known db) (goesOn : input.stops = false)
    (turn : offerInTurn db call input = true) :
    OffersSound contracts (runRetention db input call).1 ∧ RetentionStep db (runRetention db input call).1 := by
  have unchanged : OffersSound contracts db ∧ RetentionStep db db := ⟨sound, .refl db⟩
  cases fails : input.fails with
  | true =>
    cases call with
    | rechecking now due =>
      cases due with
      | nil => exact ⟨sound.finishes known.1 fun k due => List.not_mem_nil (known.2 k due),
        le_refl _, fun _ _ _ => id, fun _ => id⟩
      | cons => exact unchanged
    | offering | accepting | declining | finding | listing => exact unchanged
    | _ =>
      simp only [runRetention, fails, if_true]
      exact unchanged
  | false =>
    unfold offerInTurn at turn
    rw [goesOn, fails, Bool.false_or, Bool.false_or] at turn
    cases call with
    | rechecking now due =>
      cases due with
      | nil => exact ⟨sound.finishes known.1 fun k due => List.not_mem_nil (known.2 k due),
        le_refl _, fun _ _ _ => id, fun _ => id⟩
      | cons => exact unchanged
    | creating contractId offered customerId =>
      simp only [runRetention, fails]
      exact ⟨sound.offered, le_refl _, fun _ _ _ => id, fun _ => id⟩
    | applying offerId offer contract =>
      simp only [runRetention, fails]
      rw [Bool.and_eq_true] at turn
      exact sound.accept turn.1 turn.2
    | markingDeclined offerId =>
      simp only [runRetention, fails]
      exact ⟨sound.decline turn, le_refl _, fun _ _ _ => id, fun _ => id⟩
    | finishing contractId endDate =>
      simp only [runRetention, fails]
      exact sound.rewritten fun _ => ⟨rfl, rfl, rfl⟩
    | reverting now id later =>
      simp only [runRetention, fails]
      refine sound.revert known.1 known.2.2 fun c found => ?_
      dsimp only at turn
      rw [found, Option.all_some] at turn
      exact turn
    | _ => exact unchanged

theorem OffersSound.accepted (found : db.contracts.find k = some c) (over_ : c.discountOver now = true) :
    (db.lastAcceptance k).isSome := by
  obtain ⟨own, -, kept⟩ := sound.contracts k c found
  cases last : db.lastAcceptance k with
  | some a => rfl
  | none =>
    rw [RetainedContract.discountOver, (kept.before last).2] at over_
    cases over_

theorem runRetention_known (known : call.Known db) (goes : (runRetention db input call).2 = some call') :
    call'.Known (runRetention db input call).1 := by
  cases call with
  | offering contractId offered =>
    obtain ⟨c, -, rfl⟩ := Option.map_eq_some_iff.mp goes
    trivial
  | accepting customerId offerId =>
    obtain ⟨offer, -, goes⟩ := Option.bind_eq_some_iff.mp goes
    split at goes
    · cases goes
    · obtain ⟨c, -, rfl⟩ := Option.map_eq_some_iff.mp goes
      trivial
  | declining customerId offerId =>
    obtain ⟨offer, -, rfl⟩ := Option.map_eq_some_iff.mp goes
    trivial
  | finding contractId =>
    obtain ⟨c, -, rfl⟩ := Option.map_eq_some_iff.mp goes
    trivial
  | listing =>
    cases goes
    refine ⟨le_refl _, fun k => ?_⟩
    rintro ⟨c, found, live, over_⟩
    refine List.mem_map.mpr ⟨(k, c), List.mem_filter.mpr ⟨Table.mem_of_find found, ?_⟩, rfl⟩
    rw [Bool.and_eq_true, decide_eq_true_eq]
    exact ⟨live, over_⟩
  | rechecking now due =>
    cases due with
    | nil => cases goes
    | cons id later =>
      obtain ⟨past, all⟩ := known
      simp only [runRetention] at goes ⊢
      split at goes <;> cases goes
      · rename_i over_
        obtain ⟨c, found, over_⟩ := (Option.any_eq_true _ _).mp over_
        exact ⟨past, all, sound.accepted found over_⟩
      · rename_i notOver
        refine ⟨past, fun k due => ?_⟩
        rcases List.mem_cons.mp (all k due) with rfl | mem
        · obtain ⟨c, found, -, over_⟩ := due
          exact (notOver (by rw [found]; exact over_)).elim
        · exact mem
  | reverting now id later =>
    obtain ⟨past, all, -⟩ := known
    simp only [runRetention] at goes ⊢
    split at goes
    · cases goes
    · rename_i made
      cases goes
      rw [if_neg made]
      refine ⟨past, fun k => ?_⟩
      rintro ⟨c, found, live, over_⟩
      rcases Table.find_modify_cases found with ⟨other, same⟩ | ⟨-, b, -, rfl⟩
      · exact (List.mem_cons.mp (all k ⟨c, same, live, over_⟩)).resolve_left other
      · cases over_
  | _ => cases goes

theorem stepRetention_sound (known : call.Known db) (turn : offerInTurn db call input = true)
    (made : stepRetention db call input = some (db', rest)) :
    OffersSound contracts db' ∧ (∀ call', rest = some call' → call'.Known db') ∧ RetentionStep db db' := by
  simp only [stepRetention] at made
  split at made
  · cases made
  · rename_i now
    have le : db.clock ≤ input.moment := le_of_not_gt now
    have later := sound.later le
    have passed : RetentionStep db { db with clock := input.moment } := ⟨le, fun _ _ _ => id, fun _ => id⟩
    split at made
    · cases made
      exact ⟨later, goesOn_none, passed⟩
    · rename_i goesOn
      have known' := known.step passed
      obtain ⟨sound', kept⟩ := runRetention_sound later known' (eq_false_of_ne_true goesOn) turn
      have next : ∀ call', (runRetention { db with clock := input.moment } input call).2 = some call' →
          call'.Known (runRetention { db with clock := input.moment } input call).1 :=
        fun _ goes => runRetention_known later known' goes
      rw [Option.some.inj made] at sound' kept next
      exact ⟨sound', next, passed.trans kept⟩

omit sound

theorem enterRetention_known {request : RetentionRequest} (entered : enterRetention db request = some call) :
    call.Known db := by
  cases request <;> cases entered <;> trivial

/-! ### Runs -/

/-- Contracts whose discounts have no end, and offers, before any is answered. -/
def beforeOffers (contracts : Table ContractId RetainedContract) (offers : Table RetentionOfferId RetentionOffer)
    (clock : Instant) : RetentionDb :=
  ⟨contracts, offers, [], [], [], clock⟩

theorem beforeOffers_sound {offers : Table RetentionOfferId RetentionOffer}
    (permanent : ∀ c ∈ contracts.values, c.discountExpiresAt = none) :
    OffersSound contracts (beforeOffers contracts offers clock) where
  contracts k c found := ⟨c, found, ⟨fun _ => ⟨rfl, permanent c (Table.mem_values_of_find found)⟩,
    fun _ last => (by cases last), fun _ last => (by cases last)⟩⟩
  answered _ mem := (List.not_mem_nil mem).elim
  once := List.nodup_nil
  live _ mem := (List.not_mem_nil mem).elim
  past _ mem := (List.not_mem_nil mem).elim

/-- In a run whose writes are all in turn each offer has one outcome at most, no contract that is over is changed
by one, and the discounts last as long as the last offers and no longer. -/
theorem retention_offers_kept {offers : Table RetentionOfferId RetentionOffer} {x : State RetentionDb RetentionCall}
    (permanent : ∀ c ∈ contracts.values, c.discountExpiresAt = none)
    (run : Run retentionSystem.step (System.admits fun db call input => offerInTurn db call input = true)
      ⟨beforeOffers contracts offers clock, []⟩ x) : OffersKept contracts x.db := by
  refine (System.invariant (P := OffersSound contracts) (Q := fun db call => call.Known db) run
    (beforeOffers_sound permanent) (fun _ mem => (List.not_mem_nil mem).elim)
    (fun _ entered => enterRetention_known entered) fun sound known turn made => ?_).1.kept
  obtain ⟨sound', known', kept⟩ := stepRetention_sound sound known turn made
  exact ⟨sound', known', fun _ other => other.step kept⟩

/-! ### A contract of 100 € whose customer is moving out, with two offers -/

def movingOut (discountAmount : ℤ) : RetainedContract :=
  ⟨0, .ending, 10000, discountAmount, none, none, some 20030, none, some 0, none, none, false, none⟩

def offerOf (tens : ℕ) : RetentionOffer :=
  ⟨0, 0, .percentage, 10 * (tens + 1), 2, .pending, none, none, by positivity⟩

def twoOffers : Table RetentionOfferId RetentionOffer :=
  (Table.empty.push (offerOf 1)).push (offerOf 2)

def retentionDay (n : ℤ) : RetentionInput := ⟨n * saasDayMs, n, false, false⟩

def retentionTurn (request : RetentionRequest) (steps : ℕ) (n : ℤ) : List (Action RetentionRequest RetentionInput) :=
  .start request :: List.replicate steps (.advance 0 (retentionDay n))

def startOffers (discountAmount : ℤ) : RetentionDb :=
  beforeOffers (Table.empty.push (movingOut discountAmount)) twoOffers 0

/-- Both offers are accepted, the second a month later, and the job takes its discount back. -/
def acceptedBoth : List (Action RetentionRequest RetentionInput) :=
  retentionTurn (.acceptByCustomer 0 0) 2 20000 ++ retentionTurn (.acceptByCustomer 0 1) 2 20030 ++
    retentionTurn .revertExpiredDiscounts 2 20070 ++ retentionTurn .revertExpiredDiscounts 4 20100

theorem retention_offers_kept_both : ∃ x : State RetentionDb RetentionCall,
    x.db.acceptances.map (fun a => (a.offerId, a.discount)) = [(0, 2000), (1, 3000)] ∧
      x.db.reverts = [20070 * saasDayMs, 20100 * saasDayMs] ∧ x.db.contracts.values.map (·.discountAmount) = [0] ∧
      OffersKept (Table.empty.push (movingOut 0)) x.db := by
  obtain ⟨x, run, reached⟩ := Run.exists_of_exec retentionSystem.step
    (System.admits fun db call input => offerInTurn db call input = true) ⟨startOffers 0, []⟩ acceptedBoth
    (fun x => x.db.acceptances.map (fun a => (a.offerId, a.discount)) = [(0, 2000), (1, 3000)] ∧
      x.db.reverts = [20070 * saasDayMs, 20100 * saasDayMs] ∧ x.db.contracts.values.map (·.discountAmount) = [0])
    (by decide +kernel)
  obtain ⟨accepted, reverts, discount⟩ := of_decide_eq_true reached
  exact ⟨x, accepted, reverts, discount, retention_offers_kept (by decide) run⟩

/-- An offer accepted twice at once; one accepted after the contract ended; one whose acceptance had read the
contract before it ended; one accepted and taken back from a contract with a discount of its own of 10 €; and the
second accepted between the read and the write of the job for the first. -/
def againstTheOffers : List (ℤ × List (Action RetentionRequest RetentionInput)) :=
  [(0, [.start (.acceptByCustomer 0 0), .start (.acceptByCustomer 0 0), .advance 0 (retentionDay 20000),
      .advance 1 (retentionDay 20000), .advance 0 (retentionDay 20000), .advance 0 (retentionDay 20000)]),
    (0, retentionTurn (.finish 0) 2 20000 ++ retentionTurn (.acceptByCustomer 0 0) 2 20001),
    (0, [.start (.acceptByCustomer 0 0), .advance 0 (retentionDay 20000), .start (.finish 0),
      .advance 1 (retentionDay 20000), .advance 1 (retentionDay 20000), .advance 0 (retentionDay 20000)]),
    (1000, retentionTurn (.acceptByCustomer 0 0) 2 20000 ++ retentionTurn .revertExpiredDiscounts 4 20100),
    (0, retentionTurn (.acceptByCustomer 0 0) 2 20000 ++ [.start .revertExpiredDiscounts,
      .advance 0 (retentionDay 20100), .advance 0 (retentionDay 20100), .start (.acceptByCustomer 0 1),
      .advance 1 (retentionDay 20100), .advance 1 (retentionDay 20100), .advance 0 (retentionDay 20100),
      .advance 0 (retentionDay 20100)])]

theorem retention_offers_differ : (∀ own, (movingOut own).discountExpiresAt = none) ∧ ∀ q ∈ againstTheOffers, ∃ x,
    Reaches retentionSystem.step ⟨startOffers q.1, []⟩ x ∧ x.running.length = 0 ∧
      ¬OffersKept (Table.empty.push (movingOut q.1)) x.db := by
  refine ⟨fun _ => rfl, fun q mem => ?_⟩
  have replayed : (againstTheOffers.all fun q =>
      (exec (fun x a => if True then retentionSystem.step x a else none) ⟨startOffers q.1, []⟩ q.2).any
        fun x => decide (x.running.length = 0 ∧ ¬OffersKept (Table.empty.push (movingOut q.1)) x.db)) = true := by
    decide +kernel
  obtain ⟨x, run, differ⟩ := Run.exists_of_exec retentionSystem.step (fun _ _ => True) ⟨startOffers q.1, []⟩ q.2
    (fun x => x.running.length = 0 ∧ ¬OffersKept (Table.empty.push (movingOut q.1)) x.db)
    (List.all_eq_true.mp replayed q mem)
  exact ⟨x, run, of_decide_eq_true differ⟩

end StorageOS
