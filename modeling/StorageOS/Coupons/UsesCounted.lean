import StorageOS.Coupons.Uses

/-! The uses of coupons over any interleaving of transactions: each coupon counts the uses that
stand and keeps to its limit in every run. The limit of one use for each customer holds in the runs
where a customer who reserves a use has none at that moment. -/

namespace StorageOS

open Transition Processes

def CouponCall.reservation : CouponCall → Option (CouponId × Option CustomerId)
  | .reserved couponId customerId _ => some (couponId, customerId)
  | _ => none

inductive CouponMove (db : CouponDb) : CouponCall → CouponInput → CouponDb → Option CouponCall → Prop
  | ends {r : CouponCall} {input : CouponInput} (unreserved : r.reservation = none) :
    CouponMove db r input db none
  | quotes {couponId : CouponId} {coupon : CouponRow} {ctx : CouponQuoteContext}
      {customerId : Option CustomerId} {quote : CouponQuote} :
    CouponMove db (.loaded couponId coupon ctx customerId) .proceed db
      (some (.quoted couponId coupon customerId quote))
  | reserves {couponId : CouponId} {coupon row : CouponRow} {customerId : Option CustomerId}
      {quote : CouponQuote} (free : couponId ∉ db.held) (found : db.coupons.find couponId = some row)
      (room : reservable coupon row = true) :
    CouponMove db (.quoted couponId coupon customerId quote) .proceed
      { db with held := couponId :: db.held } (some (.reserved couponId customerId quote))
  | drops {couponId : CouponId} {customerId : Option CustomerId} {quote : CouponQuote}
      {input : CouponInput} :
    CouponMove db (.reserved couponId customerId quote) input
      { db with held := db.held.erase couponId } none
  | records {couponId : CouponId} {customerId : Option CustomerId} {quote : CouponQuote}
      {contractId : Option ContractId} {invoiceId : Option InvoiceId} :
    CouponMove db (.reserved couponId customerId quote) (.record contractId invoiceId)
      (db.record couponId customerId quote contractId invoiceId) none
  | releases {useId : ℕ} {couponId : CouponId} {use : CouponRedemption} (free : couponId ∉ db.held)
      (found : db.redemptions.find useId = some (some use)) :
    CouponMove db (.releasing useId couponId) .proceed (db.release useId couponId) none

variable {r : CouponCall} {input : CouponInput}

theorem nextCoupon_move {db db' : CouponDb} {rest : Option CouponCall}
    (h : nextCoupon db r input = some (db', rest)) : CouponMove db r input db' rest := by
  cases r with
  | loaded couponId coupon ctx customerId =>
    cases input with
    | proceed =>
      rw [nextCoupon] at h
      split at h
      · cases h
        exact .quotes
      · cases h
        exact .ends rfl
    | record contractId invoiceId => cases h
    | rollback =>
      cases h
      exact .ends rfl
  | quoted couponId coupon customerId quote =>
    cases input with
    | proceed =>
      rw [nextCoupon] at h
      split at h
      · cases h
      · rename_i free
        split at h
        · rename_i room
          obtain ⟨row, found, room⟩ := (Option.any_eq_true _ _).mp room
          cases h
          exact .reserves free found room
        · cases h
          exact .ends rfl
    | record contractId invoiceId => cases h
    | rollback =>
      cases h
      exact .ends rfl
  | reserved couponId customerId quote =>
    cases input with
    | proceed => cases h
    | record contractId invoiceId =>
      rw [nextCoupon] at h
      split at h
      · cases h
        exact .drops
      · cases h
        exact .records
    | rollback =>
      cases h
      exact .drops
  | releasing useId couponId =>
    cases input with
    | proceed =>
      rw [nextCoupon] at h
      split at h
      · cases h
      · rename_i free
        split at h
        · rename_i there
          obtain ⟨use, found⟩ := Option.isSome_iff_exists.mp there
          obtain ⟨row, found, rfl⟩ := Option.bind_eq_some_iff.mp found
          cases h
          exact .releases free found
        · cases h
          exact .ends rfl
    | record contractId invoiceId => cases h
    | rollback =>
      cases h
      exact .ends rfl

/-- What a transaction has read stays true of the coupon and of the use it gives back. -/
def CouponCall.Sound (db : CouponDb) : CouponCall → Prop
  | .loaded couponId coupon _ _ | .quoted couponId coupon _ _ =>
    ∀ row, db.coupons.find couponId = some row →
      coupon.maxUses = row.maxUses ∧ coupon.oncePerCustomer = row.oncePerCustomer
  | .reserved .. => True
  | .releasing useId couponId =>
    ∃ use, db.redemptions.find useId = some use ∧ ∀ r, use = some r → r.couponId = couponId

/-- Coupons keep their limits, and uses stay as they are or are deleted. -/
structure CouponDb.Follows (db db' : CouponDb) : Prop where
  limits : ∀ id row', db'.coupons.find id = some row' → ∃ row, db.coupons.find id = some row ∧
    row'.maxUses = row.maxUses ∧ row'.oncePerCustomer = row.oncePerCustomer
  uses : ∀ id use, db.redemptions.find id = some use →
    db'.redemptions.find id = some use ∨ db'.redemptions.find id = some none

theorem CouponDb.Follows.of_same {db db' : CouponDb} (coupons : db'.coupons = db.coupons)
    (redemptions : db'.redemptions = db.redemptions) : db.Follows db' :=
  ⟨fun _ row found => ⟨row, coupons ▸ found, rfl, rfl⟩,
    fun _ _ found => .inl (redemptions ▸ found)⟩

variable {coupons : Table CouponId CouponRow} {f : CouponRow → CouponRow} {id : CouponId} {row' : CouponRow} {useId : ℕ}
  {use : CouponRedemption} {s : State CouponDb CouponCall}

theorem follows_modify {couponId : CouponId}
    (limits : ∀ row, (f row).maxUses = row.maxUses ∧ (f row).oncePerCustomer = row.oncePerCustomer)
    (found : (coupons.modify couponId f).find id = some row') :
    ∃ row, coupons.find id = some row ∧ row'.maxUses = row.maxUses ∧
      row'.oncePerCustomer = row.oncePerCustomer := by
  rcases Table.find_modify_cases found with ⟨-, same⟩ | ⟨rfl, row, before, rfl⟩
  · exact ⟨row', same, rfl, rfl⟩
  · exact ⟨row, before, limits row⟩

theorem CouponMove.follows {db db' : CouponDb} {rest : Option CouponCall} (move : CouponMove db r input db' rest) :
    db.Follows db' := by
  cases move with
  | ends | quotes | reserves | drops => exact .of_same rfl rfl
  | records =>
    constructor
    · intro id row' found
      exact follows_modify (f := fun row => { row with usedCount := row.usedCount + 1 })
        (fun row => ⟨rfl, rfl⟩) found
    · intro id use found
      exact .inl (Table.find_push_of_some found _)
  | releases free found =>
    refine ⟨fun id row' found => follows_modify CouponRow.giveBack_limits found, fun id use found => ?_⟩
    · rw [CouponDb.release, Table.find_modify, found]
      split
      · exact .inr rfl
      · exact .inl rfl

theorem CouponCall.Sound.follow {db db' : CouponDb} (sound : r.Sound db) (follows : db.Follows db') :
    r.Sound db' := by
  cases r with
  | loaded couponId coupon ctx customerId | quoted couponId coupon customerId quote =>
    intro row' found
    obtain ⟨row, before, max, once⟩ := follows.limits couponId row' found
    rw [max, once]
    exact sound row before
  | reserved couponId customerId quote => trivial
  | releasing useId couponId =>
    obtain ⟨use, found, ofCoupon⟩ := sound
    rcases follows.uses useId use found with found | found
    · exact ⟨use, found, ofCoupon⟩
    · exact ⟨none, found, by simp⟩

theorem enterCoupon_sound {db : CouponDb} {request : CouponRequest} (h : enterCoupon db request = some r) :
    r.Sound db ∧ r.reservation = none := by
  cases request with
  | redeem code ctx customerId =>
    obtain ⟨⟨id, coupon⟩, found, rfl⟩ := Option.map_eq_some_iff.mp h
    refine ⟨fun row stored => ?_, rfl⟩
    have listed : (id, coupon) ∈ db.coupons.rows := List.mem_of_find?_eq_some found
    rw [Table.find_eq_some.mpr listed] at stored
    cases stored
    exact ⟨rfl, rfl⟩
  | release contractId invoices =>
    obtain ⟨⟨id, use⟩, found, h⟩ := Option.bind_eq_some_iff.mp h
    dsimp only at h
    split at h
    · cases h
    · cases h
      obtain ⟨⟨k, stored⟩, listed, same⟩ := List.exists_of_findSome?_eq_some found
      obtain ⟨r, filtered, same⟩ := Option.map_eq_some_iff.mp same
      cases same
      obtain ⟨rfl, -⟩ := Option.filter_eq_some_iff.mp filtered
      refine ⟨⟨_, Table.find_eq_some.mpr listed, fun r' same => ?_⟩, rfl⟩
      cases same
      rfl

theorem CouponMove.sound {db db' : CouponDb} {r' : CouponCall} (sound : r.Sound db)
    (move : CouponMove db r input db' (some r')) : r'.Sound db' := by
  cases move with
  | quotes => exact sound
  | reserves => trivial

/-! ### Counts -/

def reservations (running : List CouponCall) : List (CouponId × Option CustomerId) :=
  running.filterMap CouponCall.reservation

/-- The uses that open transactions have reserved of a coupon for a customer. -/
def reservedBy (running : List CouponCall) (couponId : CouponId) (customerId : CustomerId) : ℤ :=
  (reservations running).count (couponId, some customerId)

/-- The held rows are those of the reserved uses, and with these no coupon goes over its limit. -/
structure CouponBook (db : CouponDb) (running : List CouponCall) : Prop where
  held : db.held.Perm ((reservations running).map Prod.fst)
  single : db.held.Nodup
  counted : ∀ id row, db.coupons.find id = some row → row.usedCount = db.uses id
  within : ∀ id row limit, db.coupons.find id = some row → row.maxUses = some limit →
    row.usedCount + db.held.count id ≤ limit

variable {db db' : CouponDb} {running : List CouponCall} {i : ℕ} {r : CouponCall}
  {input : CouponInput} {rest : Option CouponCall}

theorem reservations_kept (rest : Option CouponCall) (found : running[i]? = some r) (before : r.reservation = none)
    (after : rest.bind CouponCall.reservation = none) :
    (reservations (resume running i rest)).Perm (reservations running) := by
  have perm := filterMap_resume CouponCall.reservation found rest
  rwa [before, after, Option.toList_none, List.nil_append, List.append_nil] at perm

theorem reservations_added (rest : Option CouponCall) (found : running[i]? = some r) (before : r.reservation = none)
    {use : CouponId × Option CustomerId} (after : rest.bind CouponCall.reservation = some use) :
    (reservations (resume running i rest)).Perm (use :: reservations running) := by
  have perm := filterMap_resume CouponCall.reservation found rest
  rw [before, after, Option.toList_none, List.nil_append, Option.toList_some] at perm
  exact perm.trans (List.perm_append_singleton _ _)

theorem reservations_removed (found : running[i]? = some r) {use : CouponId × Option CustomerId}
    (before : r.reservation = some use) :
    (use :: reservations (resume running i none)).Perm (reservations running) := by
  have perm := filterMap_resume CouponCall.reservation found none
  rwa [before, Option.bind_none, Option.toList_none, List.append_nil] at perm

theorem CouponDb.uses_nonneg (db : CouponDb) (id : CouponId) : 0 ≤ db.uses id := by
  apply List.sum_nonneg
  intro x mem
  obtain ⟨use, -, rfl⟩ := List.mem_map.mp mem
  split <;> decide

theorem find_changed {couponId id : CouponId} (found : (coupons.modify couponId f).find id = some row') :
    ∃ row, coupons.find id = some row ∧ row' = if id = couponId then f row else row := by
  rcases Table.find_modify_cases found with ⟨other, same⟩ | ⟨rfl, row, before, rfl⟩
  · exact ⟨row', same, by rw [if_neg other]⟩
  · exact ⟨row, before, by rw [if_pos rfl]⟩

theorem uses_record (db : CouponDb) (couponId id : CouponId) (customerId : Option CustomerId)
    (quote : CouponQuote) (contractId : Option ContractId) (invoiceId : Option InvoiceId) :
    (db.record couponId customerId quote contractId invoiceId).uses id =
      db.uses id + if couponId = id then 1 else 0 := by
  simp [CouponDb.uses, CouponDb.record]

theorem usesBy_record (db : CouponDb) (couponId id : CouponId) (customerId : Option CustomerId)
    (u : CustomerId) (quote : CouponQuote) (contractId : Option ContractId)
    (invoiceId : Option InvoiceId) :
    (db.record couponId customerId quote contractId invoiceId).usesBy id u =
      db.usesBy id u + if (couponId, customerId) = (id, some u) then 1 else 0 := by
  simp [CouponDb.usesBy, CouponDb.record]

theorem uses_release (couponId id : CouponId) (found : db.redemptions.find useId = some (some use)) :
    (db.release useId couponId).uses id = db.uses id - if use.couponId = id then 1 else 0 := by
  rw [CouponDb.uses, CouponDb.release, Table.sum_modify found]
  simp [CouponDb.uses, sub_eq_add_neg]

theorem usesBy_release_le (couponId id : CouponId) (u : CustomerId)
    (found : db.redemptions.find useId = some (some use)) :
    (db.release useId couponId).usesBy id u ≤ db.usesBy id u := by
  rw [CouponDb.usesBy, CouponDb.release, Table.sum_modify found]
  simp only [Option.any_none, Bool.false_eq_true, if_false, zero_sub, CouponDb.usesBy]
  split <;> omega

theorem CouponBook.move (book : CouponBook db running) (sound : r.Sound db)
    (found : running[i]? = some r) (move : CouponMove db r input db' rest) :
    CouponBook db' (resume running i rest) := by
  obtain ⟨held, single, counted, within⟩ := book
  cases move with
  | ends unreserved =>
    have perm := reservations_kept none found unreserved rfl
    exact ⟨held.trans (perm.symm.map Prod.fst), single, counted, within⟩
  | @quotes couponId coupon ctx customerId quote =>
    have perm := reservations_kept (some (.quoted couponId coupon customerId quote)) found rfl
      rfl
    exact ⟨held.trans (perm.symm.map Prod.fst), single, counted, within⟩
  | @reserves couponId coupon row customerId quote free stored room =>
    have perm := reservations_added (some (.reserved couponId customerId quote)) found rfl
      rfl
    refine ⟨(held.cons couponId).trans (perm.symm.map Prod.fst),
      List.nodup_cons.mpr ⟨free, single⟩, counted, fun id row' limit found' max => ?_⟩
    dsimp only at found' ⊢
    by_cases same : couponId = id
    · subst same
      obtain rfl : row = row' := Option.some.inj (stored.symm.trans found')
      have room : row.usedCount < limit := by
        have := (sound row stored).1
        rw [reservable, this, max] at room
        simpa using (Bool.and_eq_true_iff.mp room).2
      have none : db.held.count couponId = 0 := List.count_eq_zero.mpr free
      rw [List.count_cons_self, none]
      lia
    · rw [List.count_cons_of_ne same]
      exact within id row' limit found' max
  | @drops couponId customerId quote =>
    have perm := held.trans ((reservations_removed found rfl).symm.map Prod.fst)
    refine ⟨?_, single.erase _, counted, fun id row' limit found' max => ?_⟩
    · simpa using perm.erase couponId
    · have before := within id row' limit found' max
      have fewer := (db.held.erase_sublist (a := couponId)).count_le id
      dsimp only
      lia
  | @records couponId customerId quote contractId invoiceId =>
    have perm := held.trans ((reservations_removed found rfl).symm.map Prod.fst)
    have mem : couponId ∈ db.held := perm.symm.subset (by simp)
    have stored : ∀ {id row'}, (db.changeUsed couponId 1).find id = some row' → ∃ row,
        db.coupons.find id = some row ∧ row' = if id = couponId then
          { row with usedCount := row.usedCount + 1 } else row :=
      fun found' => find_changed found'
    refine ⟨?_, single.erase _, fun id row' found' => ?_, fun id row' limit found' max => ?_⟩
    · simpa [CouponDb.record] using perm.erase couponId
    · obtain ⟨row, before, rfl⟩ := stored found'
      have count := counted id row before
      rw [uses_record]
      by_cases same : id = couponId
      · simp [same] at count ⊢
        exact count
      · simp [same, Ne.symm same, count]
    · obtain ⟨row, before, rfl⟩ := stored found'
      by_cases same : id = couponId
      · subst same
        have limited := within id row limit before (by simpa using max)
        have here : db.held.count id = 1 := List.count_eq_one_of_mem single mem
        have gone : (db.held.erase id).count id = 0 :=
          List.count_eq_zero.mpr single.not_mem_erase
        simp only [CouponDb.record, gone, if_true]
        lia
      · have limited := within id row limit before (by simpa [same] using max)
        simp only [CouponDb.record, List.count_erase_of_ne same, if_neg same]
        exact limited
  | @releases useId couponId use free stored =>
    have perm := reservations_kept none found rfl rfl
    obtain ⟨stored', found', ofCoupon⟩ := sound
    obtain rfl : some use = stored' := Option.some.inj (stored.symm.trans found')
    obtain rfl := ofCoupon use rfl
    have changed : ∀ {id row'}, (db.release useId use.couponId).coupons.find id = some row' → ∃ row,
        db.coupons.find id = some row ∧ row' = if id = use.couponId then row.giveBack else row :=
      fun found' => find_changed found'
    refine ⟨held.trans (perm.symm.map Prod.fst), single, fun id row' found' => ?_,
      fun id row' limit found' max => ?_⟩
    · obtain ⟨row, before, rfl⟩ := changed found'
      have count := counted id row before
      have left := (db.release useId use.couponId).uses_nonneg id
      rw [uses_release use.couponId id stored] at left ⊢
      by_cases same : id = use.couponId
      · subst same
        rw [if_pos rfl] at left ⊢
        rw [if_pos rfl, row.giveBack_usedCount, if_pos (by lia), count]
      · rw [if_neg same, if_neg (Ne.symm same), count, sub_zero]
    · obtain ⟨row, before, rfl⟩ := changed found'
      by_cases same : id = use.couponId
      · rw [if_pos same, row.giveBack_limits.1] at max
        have limited := within id row limit before max
        rw [if_pos same, row.giveBack_usedCount]
        simp only [CouponDb.release]
        split <;> lia
      · rw [if_neg same] at max ⊢
        exact within id row limit before max

/-- With the uses that open transactions have reserved, no customer goes over one use of a coupon
limited to one for each. -/
def CouponOnce (db : CouponDb) (running : List CouponCall) : Prop :=
  ∀ id row u, db.coupons.find id = some row → row.oncePerCustomer = true →
    db.usesBy id u + reservedBy running id u ≤ 1

theorem usesBy_of_unused {u : CustomerId} (unused : db.usedByCustomer id u = false) :
    db.usesBy id u = 0 := by
  apply Table.sum_eq_zero
  intro use mem
  obtain ⟨⟨k, use⟩, listed, rfl⟩ := List.mem_map.mp mem
  rw [CouponDb.usedByCustomer, List.any_eq_false] at unused
  exact if_neg (unused (k, use) listed)

theorem reservedBy_free (book : CouponBook db running) (free : id ∉ db.held) (u : CustomerId) :
    reservedBy running id u = 0 := by
  rw [reservedBy, Nat.cast_eq_zero, List.count_eq_zero]
  intro reserved
  exact free (book.held.symm.subset (List.mem_map_of_mem reserved))

/-- The moves keep the limit of each customer when none reserves a second use. -/
theorem CouponOnce.move (once : CouponOnce db running) (book : CouponBook db running)
    (sound : r.Sound db) (unused : reservedUnused db r input = true) (found : running[i]? = some r)
    (move : CouponMove db r input db' rest) : CouponOnce db' (resume running i rest) := by
  intro id row' u found' limited
  cases move with
  | ends unreserved =>
    have perm := reservations_kept none found unreserved rfl
    rw [reservedBy, perm.count_eq]
    exact once id row' u found' limited
  | @quotes couponId coupon ctx customerId quote =>
    have perm := reservations_kept (some (.quoted couponId coupon customerId quote)) found rfl
      rfl
    rw [reservedBy, perm.count_eq]
    exact once id row' u found' limited
  | @reserves couponId coupon row customerId quote free stored room =>
    have perm := reservations_added (some (.reserved couponId customerId quote)) found rfl
      rfl
    rw [reservedBy, perm.count_eq]
    by_cases same : (couponId, customerId) = (id, some u)
    · cases same
      have none := reservedBy_free book free u
      obtain rfl : row = row' := Option.some.inj (stored.symm.trans found')
      have fresh : db.usedByCustomer id u = false := by
        simpa [reservedUnused, (sound row stored).2, limited] using unused
      rw [List.count_cons_self]
      rw [reservedBy] at none
      have := usesBy_of_unused fresh
      simp only [CouponDb.usesBy] at this ⊢
      lia
    · rw [List.count_cons_of_ne same]
      exact once id row' u found' limited
  | @drops couponId customerId quote =>
    have perm := reservations_removed found rfl
    have before := once id row' u found' limited
    rw [reservedBy, ← perm.count_eq, List.count_cons] at before
    rw [reservedBy]
    simp only [CouponDb.usesBy] at before ⊢
    lia
  | @records couponId customerId quote contractId invoiceId =>
    have perm := reservations_removed found rfl
    obtain ⟨row, stored, rfl⟩ := find_changed
      (f := fun row => { row with usedCount := row.usedCount + 1 }) found'
    have before := once id row u stored (by
      split at limited
      · exact limited
      · exact limited)
    rw [reservedBy, ← perm.count_eq, List.count_cons] at before
    rw [reservedBy, usesBy_record]
    by_cases same : (couponId, customerId) = (id, some u)
    · simp only [same, beq_self_eq_true, if_true] at before ⊢
      lia
    · simp only [beq_iff_eq, if_neg same] at before ⊢
      lia
  | @releases useId couponId use free stored =>
    have perm := reservations_kept none found rfl rfl
    obtain ⟨row, before, rfl⟩ := find_changed (f := CouponRow.giveBack) found'
    have limited : row.oncePerCustomer = true := by
      split at limited
      · rwa [row.giveBack_limits.2] at limited
      · exact limited
    have fewer := usesBy_release_le couponId id u stored
    have held := once id row u before limited
    rw [reservedBy, perm.count_eq]
    rw [reservedBy] at held
    lia

/-! ### Runs -/

structure CouponsQuiet (s : State CouponDb CouponCall) : Prop where
  running : s.running = []
  held : s.db.held = []
  accounted : s.db.Accounted

theorem CouponsQuiet.book (quiet : CouponsQuiet s) :
    CouponBook s.db s.running := by
  obtain ⟨running, held, accounted⟩ := quiet
  refine ⟨by rw [running, held]; rfl, by rw [held]; exact List.nodup_nil, accounted.counted, ?_⟩
  intro id row limit found max
  rw [held]
  simpa using accounted.within id row limit found max

theorem CouponsQuiet.once (quiet : CouponsQuiet s) :
    CouponOnce s.db s.running := by
  intro id row u found limited
  rw [quiet.running]
  simpa [reservedBy, reservations] using quiet.accounted.once id row u found limited

theorem CouponBook.within_limit (book : CouponBook db running) {row : CouponRow} {limit : ℤ}
    (found : db.coupons.find id = some row) (max : row.maxUses = some limit) :
    row.usedCount ≤ limit := by
  have := book.within id row limit found max
  lia

theorem coupon_entered (book : CouponBook db running) (unreserved : r.reservation = none) :
    CouponBook db (running ++ [r]) := by
  have same : reservations (running ++ [r]) = reservations running := by
    simp [reservations, unreserved]
  exact ⟨by rw [same]; exact book.held, book.single, book.counted, book.within⟩

/-- In every run in which a customer who reserves the use of a coupon limited to one for each has
none, the coupons count their uses and keep to their limits. -/
theorem coupons_accounted {s t : State CouponDb CouponCall} (quiet : CouponsQuiet s)
    (run : Run couponSystem.step
      (System.admits fun db r input => reservedUnused db r input = true) s t) :
    t.db.Accounted := by
  have all := System.invariant_with (P := fun _ => True) (Q := fun db r => r.Sound db)
    (J := fun x => CouponBook x.db x.running ∧ CouponOnce x.db x.running) run trivial
    (by rw [quiet.running]; simp) ⟨quiet.book, quiet.once⟩
    (fun _ entered => (enterCoupon_sound entered).1)
    (fun _ sound _ made => ⟨trivial,
      fun r' same => (nextCoupon_move (same ▸ made)).sound sound,
      fun other sound => sound.follow (nextCoupon_move made).follows⟩)
    (fun {db running request r} _ both entered => by
      obtain ⟨-, unreserved⟩ := enterCoupon_sound entered
      refine ⟨coupon_entered both.1 unreserved, ?_⟩
      have same : reservations (running ++ [r]) = reservations running := by
        simp [reservations, unreserved]
      simpa only [CouponOnce, reservedBy, same] using both.2)
    (fun _ sound both unused found made => by
      have move := nextCoupon_move made
      exact ⟨both.1.move sound found move, both.2.move both.1 sound unused found move⟩)
  obtain ⟨-, -, book, once⟩ := all
  refine ⟨book.counted, fun id row limit found max => book.within_limit found max, ?_⟩
  intro id row u found limited
  have := once id row u found limited
  rw [reservedBy] at this
  lia

def welcomeCoupon : CouponRow where
  code := "HOLA"
  name := "Bienvenida"
  discountType := .percentage
  discountValue := 10
  minMonths := 1
  minAmount := none
  unitTypeIds := []
  facilityIds := []
  newCustomersOnly := false
  oncePerCustomer := true
  preOpeningOnly := false
  maxUses := some 2
  usedCount := 0
  validFrom := none
  validUntil := none
  isActive := true

def welcomeOffered : State CouponDb CouponCall :=
  ⟨⟨Table.empty.push welcomeCoupon, Table.empty, []⟩, []⟩

theorem welcomeOffered_quiet : CouponsQuiet welcomeOffered where
  running := rfl
  held := rfl
  accounted := by
    have row : ∀ id row, welcomeOffered.db.coupons.find id = some row → row = welcomeCoupon := by
      intro id row found
      have listed := Table.find_eq_some.mp found
      simp only [welcomeOffered, Table.rows_push, Table.empty, List.nil_append,
        List.mem_singleton, Prod.mk.injEq] at listed
      exact listed.2
    refine ⟨fun id r found => ?_, fun id r limit found max => ?_, fun id r u found limited => ?_⟩
    · rw [row id r found]
      rfl
    · rw [row id r found] at max ⊢
      cases max
      decide
    · exact le_of_eq_of_le (show welcomeOffered.db.usesBy id u = 0 from rfl) (by decide)

def oneMonth : CouponQuoteContext := ⟨50, 1, none, none, some true, none, false, 0⟩

/-- Two customers use the coupon, one contract is cancelled and its use is given back. -/
theorem coupons_accounted_welcome :
    ∃ t : State CouponDb CouponCall, t.db.uses 0 = 1 ∧ t.db.Accounted := by
  obtain ⟨t, run, left⟩ := Run.exists_of_exec couponSystem.step
    (System.admits fun db r input => reservedUnused db r input = true) welcomeOffered
    [.start (.redeem "hola" oneMonth (some 1)), .start (.redeem "hola" oneMonth (some 2)),
      .advance 0 .proceed, .advance 1 .proceed, .advance 0 .proceed,
      .advance 0 (.record (some 1) none), .advance 0 .proceed, .advance 0 (.record (some 2) none),
      .start (.release 1 fun _ => none), .advance 0 .proceed]
    (fun t => t.db.uses 0 = 1) (by decide +kernel)
  exact ⟨t, by simpa using left, coupons_accounted welcomeOffered_quiet run⟩

/-- Two transactions of one customer count its uses before either records one, and both record. -/
theorem coupons_not_accounted :
    ¬∀ s t : State CouponDb CouponCall, CouponsQuiet s → Reaches couponSystem.step s t →
      t.db.Accounted := by
  intro always
  obtain ⟨t, run, twice⟩ := Run.exists_of_exec couponSystem.step (fun _ _ => True) welcomeOffered
    [.start (.redeem "hola" oneMonth (some 1)), .start (.redeem "hola" oneMonth (some 1)),
      .advance 0 .proceed, .advance 1 .proceed, .advance 0 .proceed,
      .advance 0 (.record (some 1) none), .advance 0 .proceed, .advance 0 (.record (some 2) none)]
    (fun t => ((t.db.coupons.find 0).any fun row => row.oncePerCustomer) && t.db.usesBy 0 1 = 2)
    (by decide +kernel)
  obtain ⟨row, twice⟩ := Bool.and_eq_true_iff.mp twice
  obtain ⟨row, found, limited⟩ := (Option.any_eq_true _ _).mp row
  have once := (always _ t welcomeOffered_quiet run).once 0 row 1 found limited
  have twice : t.db.usesBy 0 1 = 2 := by simpa using twice
  lia

end StorageOS
