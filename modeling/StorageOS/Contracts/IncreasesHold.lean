import StorageOS.Contracts.RentIncreases

/-! What every run of batches of increases keeps, as long as what `apply` and `cancel` write and the prices in force
are still as they were read. -/

namespace StorageOS

open Transition Processes Gregorian

variable {policy : RentIncreasePolicy} {db db' : RentDb} {call call' : RentCall} {rest : Option RentCall}
  {input : RentInput} {read : ItemRead} {t t' t'' : ℤ} {months : ℕ}

/-! ### Months apart -/

def inMonth (t : Instant) : ℤ := t - monthStart (monthOf (t / saasDayMs)) * saasDayMs

/-- As many months lie between two moments: the later one is in a later month than so many months after the
earlier, or as far in that month or further. -/
def monthsApart (months : ℕ) (t t' : Instant) : Prop :=
  monthOf (t / saasDayMs) + months < monthOf (t' / saasDayMs) ∨
    (monthOf (t / saasDayMs) + months = monthOf (t' / saasDayMs) ∧ inMonth t ≤ inMonth t')

def dayExists (months : ℕ) (t : Instant) : Bool :=
  let k := monthOf (t / saasDayMs) - months
  inMonth t < (monthStart (k + 1) - monthStart k) * saasDayMs

theorem saasDayMs_eq : saasDayMs = 86400000 := rfl

theorem inMonth_bounds (t : ℤ) : 0 ≤ inMonth t ∧
    t < monthStart (monthOf (t / saasDayMs) + 1) * saasDayMs := by
  obtain ⟨low, high⟩ := monthOf_spec (t / saasDayMs)
  rw [inMonth]
  simp only [saasDayMs_eq] at low high ⊢
  omega

theorem monthOf_ms_mono (le : t ≤ t') : monthOf (t / saasDayMs) ≤ monthOf (t' / saasDayMs) :=
  monthOf_mono (Int.ediv_le_ediv (by decide) le)

theorem monthsBefore_eq (t : ℤ) (months : ℕ) : monthsBefore t months =
    monthStart (monthOf (t / saasDayMs) - months) * saasDayMs + inMonth t := by
  have parts := Int.emod_add_mul_ediv t saasDayMs
  rw [monthsBefore, BillingJobs.addMonths, day, inMonth, ← sub_eq_add_neg]
  change (_ : ℤ) = _
  simp only [saasDayMs_eq] at parts ⊢
  omega

theorem monthsApart_of_before (exists_ : dayExists months t' = true) (before : t < monthsBefore t' months) :
    monthsApart months t t' := by
  rw [monthsBefore_eq] at before
  have inside := of_decide_eq_true exists_
  have after := (inMonth_bounds t).1
  have month : monthOf (t / saasDayMs) ≤ monthOf (t' / saasDayMs) - months := by
    by_contra later
    have starts : monthStart (monthOf (t' / saasDayMs) - months + 1) ≤ monthStart (monthOf (t / saasDayMs)) := by
      by_contra earlier
      have := monthStart_lt_iff.mp (lt_of_not_ge earlier)
      omega
    rw [inMonth] at after
    simp only [saasDayMs_eq] at before inside after starts
    omega
  rcases lt_or_eq_of_le month with earlier | same
  · exact .inl (by omega)
  · refine .inr ⟨by omega, ?_⟩
    rw [← same] at before
    have whole : t = monthStart (monthOf (t / saasDayMs)) * saasDayMs + inMonth t := by
      rw [inMonth]
      omega
    omega

theorem monthsApart.later (apart : monthsApart months t t') (le : t' ≤ t'') : monthsApart months t t'' := by
  have month := monthOf_ms_mono le
  rcases apart with earlier | ⟨same, inside⟩
  · exact .inl (by omega)
  · rcases lt_or_eq_of_le month with later | equal
    · exact .inl (by omega)
    · refine .inr ⟨by omega, inside.trans ?_⟩
      rw [inMonth, inMonth, equal]
      omega

/-! ### Prices -/

theorem round2_mono {x y : ℚ} (le : x ≤ y) : round2 x ≤ round2 y := Int.floor_mono (by linarith)

def RentIncreasePolicy.cap (policy : RentIncreasePolicy) (price : ℤ) : ℤ :=
  round2 (euros price * (1 + policy.maxAnnualPct / 100))

def RentIncreasePolicy.raises (policy : RentIncreasePolicy) (before after : ℤ) : Prop :=
  before ≤ after ∧ (0 < policy.maxAnnualPct → after ≤ policy.cap before)

theorem round2_raises {price : ℤ} {next : ℚ} (nonneg : 0 ≤ price) (more : euros price ≤ next) :
    policy.raises price (round2 (if policy.maxAnnualPct > 0 ∧ next > euros price
      then min next (euros price * (1 + policy.maxAnnualPct / 100)) else next)) := by
  have old : 0 ≤ euros price := by
    rw [euros]
    positivity
  have capped : 0 < policy.maxAnnualPct → euros price ≤ euros price * (1 + policy.maxAnnualPct / 100) := by
    intro pct
    have : 0 ≤ euros price * (policy.maxAnnualPct / 100) := by positivity
    linarith
  refine ⟨(round2_euros price).ge.trans (round2_mono ?_), fun pct => round2_mono ?_⟩
  · split
    · rename_i above
      exact le_min more (capped above.1)
    · exact more
  · split
    · exact min_le_right _ _
    · rename_i within
      exact (le_of_not_gt fun above => within ⟨pct, above⟩).trans (capped pct)

theorem computeNewPrice_raises {oldPrice : ℤ} {increaseType : RentIncreaseType} {value : ℚ}
    (nonneg : 0 ≤ oldPrice) (positive : 0 < value) :
    policy.raises oldPrice (computeNewPrice oldPrice increaseType value policy.maxAnnualPct) := by
  have old : 0 ≤ euros oldPrice := by
    rw [euros]
    positivity
  cases increaseType with
  | percentage =>
    have : 0 ≤ euros oldPrice * (value / 100) := by positivity
    exact round2_raises nonneg (by linarith)
  | fixed => exact round2_raises nonneg (by linarith)

theorem RentIncreasePolicy.cap_mono {before after : ℤ} (pct : 0 < policy.maxAnnualPct) (le : before ≤ after) :
    policy.cap before ≤ policy.cap after := by
  have : (before : ℚ) ≤ after := by exact_mod_cast le
  refine round2_mono (mul_le_mul_of_nonneg_right ?_ (by positivity))
  rw [euros, euros]
  linarith

/-! ### The condition -/

/-- The item is still as it was read, and where its contract goes on the price in force has not left the range
between the old and the new one, nor has the contract been raised since the months that its batch looked
back to. -/
def ItemRead.inTurn (policy : RentIncreasePolicy) (db : RentDb) (chosenAt : Instant) (read : ItemRead) : Bool :=
  db.items.find read.id = some read.item &&
    (!read.live ||
      (db.contracts.find read.item.contractId).all (fun c => c.priceMonthly ≤ read.item.newPrice &&
        (policy.maxAnnualPct ≤ 0 || read.item.oldPrice ≤ c.priceMonthly)) &&
      !(db.recentlyRaised policy chosenAt).contains read.item.contractId)

/-- The condition on what `apply` and `cancel` write. -/
def increaseInTurn (policy : RentIncreasePolicy) (db : RentDb) (call : RentCall) (input : RentInput) : Bool :=
  input.stops || match call with
  | .writing id items _ =>
    input.fails || (db.batches.find id).any fun batch => batch.status ≠ .cancelled &&
      dayExists policy.minMonthsBetween batch.chosenAt && items.all (·.inTurn policy db batch.chosenAt)
  | .cancelling id => (db.batches.find id).any (·.status = .scheduled)
  | _ => true

/-! ### What is kept -/

/-- A later increase of the same contract comes the months of the policy after the earlier one. -/
def RentIncreasePolicy.spaced (policy : RentIncreasePolicy) (r r' : PriceIncrease) : Prop :=
  0 < policy.minMonthsBetween → r.contractId = r'.contractId →
    monthsApart policy.minMonthsBetween r.moment r'.moment

/-- No cancelled batch has raised a price, each item has at most once, and every increase is within the
policy. -/
structure IncreasesKept (policy : RentIncreasePolicy) (db : RentDb) : Prop where
  cancelled : ∀ r ∈ db.increases, r.rentIncreaseId ∉ db.cancellations ∧
    ∀ batch, db.batches.find r.rentIncreaseId = some batch → batch.status ≠ .cancelled
  once : (db.increases.map PriceIncrease.itemId).Nodup
  spaced : db.increases.Pairwise policy.spaced
  raises : ∀ r ∈ db.increases, policy.raises r.before r.after

instance : Decidable (monthsApart months t t') := inferInstanceAs (Decidable (_ ∨ _))

instance {r r' : PriceIncrease} : Decidable (policy.spaced r r') := inferInstanceAs (Decidable (_ → _))

instance {before after : ℤ} : Decidable (policy.raises before after) := inferInstanceAs (Decidable (_ ∧ _))

instance : Decidable (IncreasesKept policy db) :=
  decidable_of_iff ((∀ r ∈ db.increases, r.rentIncreaseId ∉ db.cancellations ∧
      ∀ batch ∈ db.batches.find r.rentIncreaseId, batch.status ≠ .cancelled) ∧
      (db.increases.map PriceIncrease.itemId).Nodup ∧ db.increases.Pairwise policy.spaced ∧
      ∀ r ∈ db.increases, policy.raises r.before r.after)
    ⟨fun ⟨cancelled, once, spaced, raises⟩ => ⟨cancelled, once, spaced, raises⟩,
      fun ⟨cancelled, once, spaced, raises⟩ => ⟨cancelled, once, spaced, raises⟩⟩

structure RentIncreaseItem.Sound (policy : RentIncreasePolicy) (db : RentDb) (item : RentIncreaseItem) : Prop where
  batch : (db.batches.find item.rentIncreaseId).isSome
  nonneg : 0 ≤ item.oldPrice
  raises : policy.raises item.oldPrice item.newPrice

def OneItemEach (items : Table RentIncreaseItemId RentIncreaseItem) : Prop :=
  ∀ id id' item item', items.find id = some item → items.find id' = some item' →
    item.rentIncreaseId = item'.rentIncreaseId → item.contractId = item'.contractId → id = id'

/-- The item of an increase says that it was applied, when and to which contract. -/
structure PriceIncrease.Recorded (db : RentDb) (r : PriceIncrease) : Prop where
  item : ∃ item, db.items.find r.itemId = some item ∧ item.status = .applied ∧
    item.appliedAt = some r.moment ∧ item.contractId = r.contractId ∧ item.rentIncreaseId = r.rentIncreaseId
  batch : ∃ batch, db.batches.find r.rentIncreaseId = some batch ∧ batch.status = .applied
  past : r.moment ≤ db.clock

structure RentSound (policy : RentIncreasePolicy) (db : RentDb) : Prop where
  items : ∀ id item, db.items.find id = some item → item.Sound policy db
  single : OneItemEach db.items
  recorded : ∀ r ∈ db.increases, r.Recorded db
  once : (db.increases.map PriceIncrease.itemId).Nodup
  cancelled : ∀ id ∈ db.cancellations, ∃ batch, db.batches.find id = some batch ∧ batch.status = .cancelled
  chosen : ∀ id batch, db.batches.find id = some batch → batch.chosenAt ≤ db.clock
  prices : ∀ id c, db.contracts.find id = some c → 0 ≤ c.priceMonthly
  spaced : db.increases.Pairwise policy.spaced
  raises : ∀ r ∈ db.increases, policy.raises r.before r.after

theorem RentSound.kept (sound : RentSound policy db) : IncreasesKept policy db where
  cancelled r mem := by
    obtain ⟨batch, found, applied⟩ := (sound.recorded r mem).batch
    refine ⟨fun cancelled => ?_, fun batch' found' => ?_⟩
    · obtain ⟨batch', found', status⟩ := sound.cancelled _ cancelled
      rw [found] at found'
      cases found'
      rw [applied] at status
      cases status
    · rw [found] at found'
      cases found'
      rw [applied]
      decide
  once := sound.once
  spaced := sound.spaced
  raises := sound.raises

def RentCall.Known (policy : RentIncreasePolicy) (db : RentDb) : RentCall → Prop
  | .listing _ chosenAt _ => chosenAt ≤ db.clock
  | .creating _ chosenAt affected => chosenAt ≤ db.clock ∧ (affected.map Prod.fst).Nodup ∧
    ∀ a ∈ affected, 0 ≤ a.2.1 ∧ policy.raises a.2.1 a.2.2
  | .writing id items _ => (items.map ItemRead.id).Nodup ∧
    ∀ read ∈ items, read.item.rentIncreaseId = id ∧ read.item.status = .pending
  | _ => True

variable {now : Instant} {contracts : Table ContractId RentedContract} {chosenAt : Instant}

theorem RentSound.later (sound : RentSound policy db) (le : db.clock ≤ now) :
    RentSound policy { db with clock := now } where
  items id item found :=
    have kept := sound.items id item found
    ⟨kept.batch, kept.nonneg, kept.raises⟩
  single := sound.single
  recorded r mem :=
    have kept := sound.recorded r mem
    ⟨kept.item, kept.batch, le_trans kept.past le⟩
  once := sound.once
  cancelled := sound.cancelled
  chosen id batch found := le_trans (sound.chosen id batch found) le
  prices := sound.prices
  spaced := sound.spaced
  raises := sound.raises

theorem RentSound.rewritten (sound : RentSound policy db)
    (prices : ∀ id c, contracts.find id = some c → 0 ≤ c.priceMonthly) : RentSound policy { db with contracts } where
  items id item found :=
    have kept := sound.items id item found
    ⟨kept.batch, kept.nonneg, kept.raises⟩
  single := sound.single
  recorded r mem :=
    have kept := sound.recorded r mem
    ⟨kept.item, kept.batch, kept.past⟩
  once := sound.once
  cancelled := sound.cancelled
  chosen := sound.chosen
  prices := prices
  spaced := sound.spaced
  raises := sound.raises

/-! ### A new batch -/

section addItems

variable {items : Table RentIncreaseItemId RentIncreaseItem} {id : RentIncreaseId} {k : RentIncreaseItemId}
  {item : RentIncreaseItem} {affected : List (ContractId × ℤ × ℤ)}

theorem addItems_cases (found : (RentDb.addItems items id affected).find k = some item) :
    items.find k = some item ∨ ∃ a ∈ affected, item = ⟨id, a.1, a.2.1, a.2.2, .pending, none⟩ := by
  induction affected generalizing items with
  | nil => exact .inl found
  | cons a rest ih =>
    rcases ih found with old | ⟨b, mem, rfl⟩
    · rcases Table.find_push_cases old with old | ⟨-, rfl⟩
      · exact .inl old
      · exact .inr ⟨a, List.mem_cons_self, rfl⟩
    · exact .inr ⟨b, List.mem_cons_of_mem _ mem, rfl⟩

theorem addItems_kept (found : items.find k = some item) :
    (RentDb.addItems items id affected).find k = some item := by
  induction affected generalizing items with
  | nil => exact found
  | cons a rest ih => exact ih (Table.find_push_of_some found _)

theorem addItems_single (single : OneItemEach items) (contracts : (affected.map Prod.fst).Nodup)
    (new : ∀ k item, items.find k = some item → item.rentIncreaseId = id →
      item.contractId ∉ affected.map Prod.fst) : OneItemEach (RentDb.addItems items id affected) := by
  induction affected generalizing items with
  | nil => exact single
  | cons a rest ih =>
    obtain ⟨notLater, contracts⟩ := List.nodup_cons.mp contracts
    have unlike : ∀ k item, items.find k = some item → item.rentIncreaseId = id → item.contractId ≠ a.1 :=
      fun k item found own same => new k item found own (same ▸ List.mem_cons_self)
    refine ih ?_ contracts ?_
    · intro k k' item item' found found' batch contract
      rcases Table.find_push_cases found with old | ⟨rfl, rfl⟩ <;>
        rcases Table.find_push_cases found' with old' | ⟨rfl, rfl⟩
      · exact single k k' item item' old old' batch contract
      · exact (unlike k item old batch contract).elim
      · exact (unlike k' item' old' batch.symm contract.symm).elim
      · rfl
    · intro k item found own
      rcases Table.find_push_cases found with old | ⟨-, rfl⟩
      · exact fun later => new k item old own (List.mem_cons_of_mem _ later)
      · exact notLater

end addItems

theorem affected_known {input : CreateRentIncreaseInput} {recently : List ContractId}
    (prices : ∀ id c, db.contracts.find id = some c → 0 ≤ c.priceMonthly) :
    ((db.affected policy input now recently).map Prod.fst).Nodup ∧
      ∀ a ∈ db.affected policy input now recently, 0 ≤ a.2.1 ∧ policy.raises a.2.1 a.2.2 := by
  rw [RentDb.affected]
  refine ⟨?_, fun a mem => ?_⟩
  · rw [List.map_map]
    exact db.contracts.distinct.sublist (List.filter_sublist.map Prod.fst)
  · obtain ⟨q, chosen, rfl⟩ := List.mem_map.mp mem
    have price := prices q.1 q.2 (Table.find_of_mem (List.mem_filter.mp chosen).1)
    exact ⟨price, computeNewPrice_raises price input.positive⟩

theorem RentSound.created {input : CreateRentIncreaseInput} {affected : List (ContractId × ℤ × ℤ)}
    (sound : RentSound policy db) (known : (RentCall.creating input chosenAt affected).Known policy db) :
    RentSound policy (runRent policy db false (.creating input chosenAt affected)).1 := by
  obtain ⟨past, contracts, within⟩ := known
  have batchKept : ∀ {id batch}, db.batches.find id = some batch →
      (db.batches.push ⟨input.effectiveDate, .scheduled, chosenAt⟩).find id = some batch :=
    fun found => Table.find_push_of_some found _
  refine ⟨fun id item found => ?_, ?_, fun r mem => ?_, sound.once, fun id mem => ?_, fun id batch found => ?_,
    sound.prices, sound.spaced, sound.raises⟩
  · rcases addItems_cases found with old | ⟨a, mem, rfl⟩
    · have kept := sound.items id item old
      obtain ⟨batch, found⟩ := Option.isSome_iff_exists.mp kept.batch
      exact ⟨Option.isSome_iff_exists.mpr ⟨batch, batchKept found⟩, kept.nonneg, kept.raises⟩
    · refine ⟨?_, (within a mem).1, (within a mem).2⟩
      simp only [runRent, Table.find_push, if_true, Option.isSome_some]
  · refine addItems_single sound.single contracts fun k item found own => ?_
    have kept := (sound.items k item found).batch
    rw [own, Table.find_nextKey] at kept
    cases kept
  · obtain ⟨⟨item, found, recorded⟩, ⟨batch, there, applied⟩, past⟩ := sound.recorded r mem
    exact ⟨⟨item, addItems_kept found, recorded⟩, ⟨batch, batchKept there, applied⟩, past⟩
  · obtain ⟨batch, found, status⟩ := sound.cancelled id mem
    exact ⟨batch, batchKept found, status⟩
  · rcases Table.find_push_cases found with old | ⟨-, rfl⟩
    · exact sound.chosen id batch old
    · exact past

/-! ### The status of a batch -/

variable {status : RentIncreaseStatus} {r : PriceIncrease} {id : RentIncreaseId}

theorem RentSound.setBatchStatus {cancellations : List RentIncreaseId} (sound : RentSound policy db)
    (raised : ∀ r ∈ db.increases, r.rentIncreaseId = id → status = .applied)
    (given : ∀ k ∈ cancellations, (k = id ∧ (db.batches.find id).isSome ∧ status = .cancelled) ∨
      (k ≠ id ∧ k ∈ db.cancellations)) : RentSound policy { db.setBatchStatus id status with cancellations } := by
  refine ⟨fun k item found => ?_, sound.single, fun r mem => ?_, sound.once, fun k mem => ?_,
    fun k batch found => ?_, sound.prices, sound.spaced, sound.raises⟩
  · have kept := sound.items k item found
    refine ⟨?_, kept.nonneg, kept.raises⟩
    obtain ⟨batch, there⟩ := Option.isSome_iff_exists.mp kept.batch
    simp only [RentDb.setBatchStatus, Table.find_modify, there]
    split <;> rfl
  · obtain ⟨item, ⟨batch, there, applied⟩, past⟩ := sound.recorded r mem
    refine ⟨item, ?_, past⟩
    simp only [RentDb.setBatchStatus, Table.find_modify, there]
    split
    · rename_i own
      exact ⟨_, rfl, raised r mem own⟩
    · exact ⟨batch, rfl, applied⟩
  · rcases given k mem with ⟨rfl, there, now⟩ | ⟨other, before⟩
    · obtain ⟨batch, there⟩ := Option.isSome_iff_exists.mp there
      refine ⟨{ batch with status }, ?_, now⟩
      rw [RentDb.setBatchStatus, Table.find_modify_self, there]
      rfl
    · obtain ⟨batch, there, cancelled⟩ := sound.cancelled k before
      refine ⟨batch, ?_, cancelled⟩
      rw [RentDb.setBatchStatus, Table.find_modify_ne _ other]
      exact there
  · rcases Table.find_modify_cases found with ⟨-, same⟩ | ⟨-, before, there, rfl⟩
    · exact sound.chosen k batch same
    · exact sound.chosen id before there

/-! ### An item -/

theorem OneItemEach.modify {items : Table RentIncreaseItemId RentIncreaseItem} {id : RentIncreaseItemId}
    {f : RentIncreaseItem → RentIncreaseItem} (single : OneItemEach items)
    (same : ∀ item, (f item).rentIncreaseId = item.rentIncreaseId ∧ (f item).contractId = item.contractId) :
    OneItemEach (items.modify id f) := by
  have before : ∀ {k item}, (items.modify id f).find k = some item → ∃ item', items.find k = some item' ∧
      item.rentIncreaseId = item'.rentIncreaseId ∧ item.contractId = item'.contractId := by
    intro k item found
    rcases Table.find_modify_cases found with ⟨-, unchanged⟩ | ⟨rfl, item', there, rfl⟩
    · exact ⟨item, unchanged, rfl, rfl⟩
    · exact ⟨item', there, same item'⟩
  intro k k' item item' found found' batch contract
  obtain ⟨old, there, ofBatch, ofContract⟩ := before found
  obtain ⟨old', there', ofBatch', ofContract'⟩ := before found'
  exact single k k' old old' there there' (ofBatch ▸ ofBatch' ▸ batch) (ofContract ▸ ofContract' ▸ contract)

theorem mem_recentlyRaised {contractId : ContractId} :
    contractId ∈ db.recentlyRaised policy now ↔ policy.minMonthsBetween ≠ 0 ∧ ∃ id item,
      db.items.find id = some item ∧ item.status = .applied ∧
        item.appliedAt.any (monthsBefore now policy.minMonthsBetween ≤ ·) = true ∧ item.contractId = contractId := by
  rw [RentDb.recentlyRaised]
  split
  · rename_i none_
    exact ⟨fun mem => (List.not_mem_nil mem).elim, fun given => (given.1 none_).elim⟩
  · rename_i some_
    simp only [List.mem_map, List.mem_filter, Bool.and_eq_true, decide_eq_true_eq, Table.mem_values]
    constructor
    · rintro ⟨item, ⟨⟨id, found⟩, applied, recent⟩, rfl⟩
      exact ⟨some_, id, item, found, applied, recent, rfl⟩
    · rintro ⟨-, id, item, found, applied, recent, rfl⟩
      exact ⟨item, ⟨⟨id, found⟩, applied, recent⟩, rfl⟩

theorem inTurn_iff : read.inTurn policy db chosenAt = true ↔
    db.items.find read.id = some read.item ∧ (read.live = true →
      (∀ c, db.contracts.find read.item.contractId = some c → c.priceMonthly ≤ read.item.newPrice ∧
        (0 < policy.maxAnnualPct → read.item.oldPrice ≤ c.priceMonthly)) ∧
      read.item.contractId ∉ db.recentlyRaised policy chosenAt) := by
  rw [ItemRead.inTurn, Bool.and_eq_true, decide_eq_true_eq]
  refine and_congr_right fun _ => ?_
  cases read.live with
  | false => simp
  | true =>
    simp only [Bool.not_true, Bool.false_or, Bool.and_eq_true, Option.all_eq_true_iff_get, Bool.not_eq_true',
      List.contains_eq_mem, decide_eq_false_iff_not, true_implies, decide_eq_true_eq, Bool.or_eq_true]
    refine and_congr_left fun _ => ⟨fun all c found => ?_, fun all there => ?_⟩
    · have least := all (by rw [found]; rfl)
      simp only [found, Option.get_some] at least
      exact ⟨least.1, fun pct => least.2.resolve_left (not_le_of_gt pct)⟩
    · have least := all _ (Option.some_get there).symm
      exact ⟨least.1, (le_or_gt policy.maxAnnualPct 0).imp id least.2⟩

/-- An item of a batch that `apply` has found in turn. -/
structure ItemRead.Due (policy : RentIncreasePolicy) (db : RentDb) (id : RentIncreaseId) (chosenAt : Instant)
    (read : ItemRead) : Prop where
  own : read.item.rentIncreaseId = id
  pending : read.item.status = .pending
  turn : read.inTurn policy db chosenAt = true

section applyItem

variable {id : RentIncreaseId} {batch : RentIncrease}

theorem ItemRead.Due.notRaised (due : read.Due policy db id chosenAt) (recorded : r.Recorded db) :
    r.itemId ≠ read.id := by
  intro same
  obtain ⟨item, found, applied, -⟩ := recorded.item
  rw [same, (inTurn_iff.mp due.turn).1] at found
  cases found
  rw [due.pending] at applied
  cases applied

theorem ItemRead.Due.recorded (due : read.Due policy db id chosenAt) (recorded : r.Recorded db)
    (f : RentIncreaseItem → RentIncreaseItem) {increases : List PriceIncrease} :
    r.Recorded { db with contracts, increases, items := db.items.modify read.id f } := by
  refine ⟨?_, recorded.batch, recorded.past⟩
  obtain ⟨item, found, rest⟩ := recorded.item
  exact ⟨item, (Table.find_modify_ne _ (due.notRaised recorded) f).trans found, rest⟩

theorem RentSound.itemsSound (sound : RentSound policy db) {k : RentIncreaseItemId}
    (f : RentIncreaseItem → RentIncreaseItem) (batches : db'.batches = db.batches)
    (items : db'.items = db.items.modify k f)
    (same : ∀ item, (f item).rentIncreaseId = item.rentIncreaseId ∧ (f item).oldPrice = item.oldPrice ∧
      (f item).newPrice = item.newPrice) :
    ∀ j item, db'.items.find j = some item → item.Sound policy db' := by
  intro j item found
  rw [items] at found
  rcases Table.find_modify_cases found with ⟨-, unchanged⟩ | ⟨-, before, there, rfl⟩
  · have kept := sound.items j item unchanged
    exact ⟨batches ▸ kept.batch, kept.nonneg, kept.raises⟩
  · obtain ⟨ofBatch, old, new⟩ := same before
    have kept := sound.items k before there
    exact ⟨batches ▸ ofBatch ▸ kept.batch, old ▸ kept.nonneg, old ▸ new ▸ kept.raises⟩

theorem RentSound.applyItem (sound : RentSound policy db) (there : db.batches.find id = some batch)
    (applied : batch.status = .applied) (day : dayExists policy.minMonthsBetween batch.chosenAt = true)
    (due : read.Due policy db id batch.chosenAt) : RentSound policy (db.applyItem read) := by
  obtain ⟨found, turn⟩ := inTurn_iff.mp due.turn
  rw [RentDb.applyItem]
  split
  · rename_i live
    obtain ⟨price, notRecent⟩ := turn live
    have item := sound.items read.id read.item found
    have prices : ∀ k c, (db.contracts.modify read.item.contractId fun c =>
        { c with priceMonthly := read.item.newPrice }).find k = some c → 0 ≤ c.priceMonthly := by
      intro k c changed
      rcases Table.find_modify_cases changed with ⟨-, same⟩ | ⟨-, before, -, rfl⟩
      · exact sound.prices k c same
      · exact item.nonneg.trans item.raises.1
    cases contract : db.contracts.find read.item.contractId with
    | none =>
      have none_ : db.increases ++ (none : Option PriceIncrease).toList = db.increases := List.append_nil _
      refine ⟨sound.itemsSound (.applied db.clock) rfl rfl fun _ => ⟨rfl, rfl, rfl⟩,
        sound.single.modify fun _ => ⟨rfl, rfl⟩, ?_, ?_, sound.cancelled, sound.chosen, prices, ?_, ?_⟩ <;> simp only [Option.map_none, none_]
      · exact fun r mem => due.recorded (sound.recorded r mem) _
      · exact sound.once
      · exact sound.spaced
      · exact sound.raises
    | some c =>
      obtain ⟨least, most⟩ := price c contract
      refine ⟨sound.itemsSound (.applied db.clock) rfl rfl fun _ => ⟨rfl, rfl, rfl⟩,
        sound.single.modify fun _ => ⟨rfl, rfl⟩, fun r mem => ?_, ?_, sound.cancelled, sound.chosen, prices, ?_, fun r mem => ?_⟩
      · rcases List.mem_append.mp mem with old | new
        · exact due.recorded (sound.recorded r old) _
        · obtain rfl := List.mem_singleton.mp new
          refine ⟨⟨read.item.applied db.clock, ?_, rfl, rfl, rfl, rfl⟩, ⟨batch, due.own ▸ there, applied⟩, le_refl _⟩
          rw [Table.find_modify_self, found]
          rfl
      · change ((db.increases ++ [_]).map PriceIncrease.itemId).Nodup
        rw [List.map_append, List.nodup_append]
        refine ⟨sound.once, List.nodup_singleton _, fun k mem k' new => ?_⟩
        obtain ⟨r, made, rfl⟩ := List.mem_map.mp mem
        obtain rfl := List.mem_singleton.mp new
        exact due.notRaised (sound.recorded r made)
      · -- an increase after the months that the batch looked back to would be among the recent ones
        refine List.pairwise_append.mpr ⟨sound.spaced, List.pairwise_singleton _ _, fun r made r' new => ?_⟩
        obtain rfl := List.mem_singleton.mp new
        intro months same
        obtain ⟨item', found', applied', moment, ofContract, -⟩ := (sound.recorded r made).item
        have before : r.moment < monthsBefore batch.chosenAt policy.minMonthsBetween := by
          by_contra recent
          refine notRecent (mem_recentlyRaised.mpr ⟨months.ne', _, item', found', applied', ?_,
            ofContract.trans same⟩)
          rw [moment, Option.any_some, decide_eq_true_eq]
          exact le_of_not_gt recent
        exact (monthsApart_of_before day before).later (sound.chosen id batch there)
      · rcases List.mem_append.mp mem with old | new
        · exact sound.raises r old
        · obtain rfl := List.mem_singleton.mp new
          exact ⟨least, fun pct => (item.raises.2 pct).trans (RentIncreasePolicy.cap_mono pct (most pct))⟩
  · exact ⟨sound.itemsSound .skipped rfl rfl fun _ => ⟨rfl, rfl, rfl⟩, sound.single.modify fun _ => ⟨rfl, rfl⟩,
      fun r mem => due.recorded (sound.recorded r mem) _, sound.once, sound.cancelled, sound.chosen, sound.prices,
      sound.spaced, sound.raises⟩

theorem ItemRead.Due.other {first : ItemRead} (sound : RentSound policy db) (due : first.Due policy db id chosenAt)
    (later : read.Due policy db id chosenAt) (other : read.id ≠ first.id) :
    read.Due policy (db.applyItem first) id chosenAt := by
  obtain ⟨found, turn⟩ := inTurn_iff.mp later.turn
  obtain ⟨foundFirst, -⟩ := inTurn_iff.mp due.turn
  have unlike : read.item.contractId ≠ first.item.contractId := fun same =>
    other (sound.single _ _ _ _ found foundFirst (later.own.trans due.own.symm) same)
  refine ⟨later.own, later.pending, inTurn_iff.mpr ?_⟩
  rw [RentDb.applyItem]
  split
  · refine ⟨(Table.find_modify_ne _ other _).trans found, fun live => ?_⟩
    obtain ⟨price, notRecent⟩ := turn live
    refine ⟨fun c contract => price c ?_, fun recent => notRecent ?_⟩
    · rw [← contract]
      exact (Table.find_modify_ne _ unlike _).symm
    · obtain ⟨months, k, item, there, applied, moment, ofContract⟩ := mem_recentlyRaised.mp recent
      rcases Table.find_modify_cases there with ⟨-, same⟩ | ⟨-, before, was, rfl⟩
      · exact mem_recentlyRaised.mpr ⟨months, k, item, same, applied, moment, ofContract⟩
      · rw [foundFirst] at was
        cases was
        exact (unlike ofContract.symm).elim
  · refine ⟨(Table.find_modify_ne _ other _).trans found, fun live => ?_⟩
    obtain ⟨price, notRecent⟩ := turn live
    refine ⟨price, fun recent => notRecent ?_⟩
    obtain ⟨months, k, item, there, applied, moment, ofContract⟩ := mem_recentlyRaised.mp recent
    rcases Table.find_modify_cases there with ⟨-, same⟩ | ⟨-, before, was, rfl⟩
    · exact mem_recentlyRaised.mpr ⟨months, k, item, same, applied, moment, ofContract⟩
    · cases applied

theorem applyItem_batches : (db.applyItem read).batches = db.batches := by
  rw [RentDb.applyItem]
  split <;> rfl

theorem RentSound.applyItems {items : List ItemRead} (sound : RentSound policy db)
    (there : db.batches.find id = some batch) (applied : batch.status = .applied)
    (day : dayExists policy.minMonthsBetween batch.chosenAt = true) (different : (items.map ItemRead.id).Nodup)
    (due : ∀ read ∈ items, read.Due policy db id batch.chosenAt) :
    RentSound policy (items.foldl RentDb.applyItem db) := by
  induction items generalizing db with
  | nil => exact sound
  | cons first rest ih =>
    obtain ⟨unlike, different⟩ := List.nodup_cons.mp different
    have dueFirst := due first List.mem_cons_self
    refine ih (sound.applyItem there applied day dueFirst) ?_ different fun read mem => ?_
    · rw [applyItem_batches]
      exact there
    · refine dueFirst.other sound (due read (List.mem_cons_of_mem _ mem)) fun same => unlike ?_
      exact same ▸ List.mem_map_of_mem mem

end applyItem

theorem setBatchStatus_applyItems (items : List ItemRead) :
    (items.foldl RentDb.applyItem db).setBatchStatus id status =
      items.foldl RentDb.applyItem (db.setBatchStatus id status) := by
  induction items generalizing db with
  | nil => rfl
  | cons read rest ih =>
    have first : (db.applyItem read).setBatchStatus id status = (db.setBatchStatus id status).applyItem read := by
      rw [RentDb.applyItem, RentDb.applyItem]
      split <;> rfl
    rw [List.foldl_cons, ih, first, List.foldl_cons]

/-! ### A step -/

theorem applyItems_clock (items : List ItemRead) : (items.foldl RentDb.applyItem db).clock = db.clock := by
  induction items generalizing db with
  | nil => rfl
  | cons read rest ih =>
    rw [List.foldl_cons, ih, RentDb.applyItem]
    split <;> rfl

theorem runRent_clock (fails : Bool) (call : RentCall) : (runRent policy db fails call).1.clock = db.clock := by
  unfold runRent
  split
  case h_7 id items later =>
    cases fails with
    | true => rfl
    | false => exact applyItems_clock items
  all_goals rfl

theorem enterRent_known {request : RentRequest} (entered : enterRent db request = some call) :
    call.Known policy db := by
  cases request <;> simp only [enterRent, Option.map_eq_some_iff, Option.some.injEq] at entered
  case cancel =>
    obtain ⟨_, -, rfl⟩ := entered
    trivial
  all_goals
    subst entered
    trivial

theorem pendingItems_known {later : List RentIncreaseId} :
    (RentCall.writing id (db.pendingItems id) later).Known policy db := by
  rw [RentDb.pendingItems]
  refine ⟨?_, fun read mem => ?_⟩
  · rw [List.map_map]
    exact db.items.distinct.sublist (List.filter_sublist.map Prod.fst)
  · obtain ⟨q, chosen, rfl⟩ := List.mem_map.mp mem
    have filtered := (List.mem_filter.mp chosen).2
    rw [Bool.and_eq_true, decide_eq_true_eq, decide_eq_true_eq] at filtered
    exact filtered

theorem runRent_sound (sound : RentSound policy db) (known : call.Known policy db) (goesOn : input.stops = false)
    (turn : increaseInTurn policy db call input = true) : RentSound policy (runRent policy db input.fails call).1 := by
  unfold increaseInTurn at turn
  rw [goesOn, Bool.false_or] at turn
  cases call with
  | excluding | listing | reading => exact sound
  | finding batches => cases batches <;> exact sound
  | creating => exact sound.created known
  | writing id items later =>
    rw [Bool.or_eq_true] at turn
    rcases turn with fails | turn
    · rw [runRent, fails]
      exact sound
    · cases fails : input.fails with
      | true => exact sound
      | false =>
        obtain ⟨batch, there, checks⟩ := (Option.any_eq_true _ _).mp turn
        simp only [Bool.and_eq_true, decide_eq_true_eq, List.all_eq_true] at checks
        obtain ⟨⟨live, day⟩, turns⟩ := checks
        have notCancelled : id ∉ db.cancellations := by
          intro mem
          obtain ⟨batch', there', cancelled⟩ := sound.cancelled id mem
          rw [there] at there'
          cases there'
          exact live cancelled
        have marked : RentSound policy (db.setBatchStatus id .applied) :=
          sound.setBatchStatus (fun _ _ _ => rfl) fun k mem =>
            .inr ⟨fun same => notCancelled (same ▸ mem), mem⟩
        change RentSound policy ((items.foldl RentDb.applyItem db).setBatchStatus id .applied)
        rw [setBatchStatus_applyItems]
        have there' : (db.setBatchStatus id .applied).batches.find id = some { batch with status := .applied } := by
          rw [RentDb.setBatchStatus, Table.find_modify_self, there]
          rfl
        exact marked.applyItems there' rfl day known.1 fun read mem =>
          ⟨(known.2 read mem).1, (known.2 read mem).2, turns read mem⟩
  | cancelling id =>
    obtain ⟨batch, there, scheduled⟩ := (Option.any_eq_true _ _).mp turn
    have scheduled := of_decide_eq_true scheduled
    refine sound.setBatchStatus (fun r mem own => ?_) fun k mem => ?_
    · obtain ⟨batch', there', applied⟩ := (sound.recorded r mem).batch
      rw [own, there] at there'
      cases there'
      rw [scheduled] at applied
      cases applied
    · rcases List.mem_append.mp mem with old | new
      · refine .inr ⟨?_, old⟩
        rintro rfl
        obtain ⟨batch', there', cancelled⟩ := sound.cancelled k old
        rw [there] at there'
        cases there'
        rw [scheduled] at cancelled
        cases cancelled
      · exact .inl ⟨List.mem_singleton.mp new, Option.isSome_iff_exists.mpr ⟨batch, there⟩, rfl⟩
  | changingPrice contractId priceMonthly =>
    refine sound.rewritten fun id c found => ?_
    rcases Table.find_modify_cases found with ⟨-, same⟩ | ⟨-, before, -, rfl⟩
    · exact sound.prices id c same
    · exact Int.natCast_nonneg priceMonthly
  | changingStatus contractId status =>
    refine sound.rewritten fun id c found => ?_
    rcases Table.find_modify_cases found with ⟨-, same⟩ | ⟨-, before, there, rfl⟩
    · exact sound.prices id c same
    · exact sound.prices contractId before there

theorem runRent_known (sound : RentSound policy db) (known : call.Known policy db)
    (goesOn : (runRent policy db input.fails call).2 = some call') :
    call'.Known policy (runRent policy db input.fails call).1 := by
  cases call with
  | excluding selection =>
    cases goesOn
    exact le_refl _
  | listing selection chosenAt recently =>
    simp only [runRent] at goesOn
    split at goesOn
    · cases goesOn
    · cases goesOn
      exact ⟨known, affected_known sound.prices⟩
  | finding batches =>
    cases batches with
    | nil => cases goesOn
    | cons id later =>
      simp only [runRent] at goesOn
      split at goesOn <;> cases goesOn <;> trivial
  | reading id later =>
    cases goesOn
    exact pendingItems_known
  | writing id items later =>
    cases goesOn
    trivial
  | _ => cases goesOn

theorem RentCall.Known.later (known : call.Known policy db) (le : db.clock ≤ db'.clock) :
    call.Known policy db' := by
  cases call with
  | listing => exact le_trans known le
  | creating => exact ⟨le_trans known.1 le, known.2⟩
  | _ => exact known

theorem stepRent_sound (sound : RentSound policy db) (known : call.Known policy db)
    (turn : increaseInTurn policy db call input = true) (made : stepRent policy db call input = some (db', rest)) :
    RentSound policy db' ∧ (∀ call', rest = some call' → call'.Known policy db') ∧ db.clock ≤ db'.clock := by
  simp only [stepRent] at made
  split at made
  · cases made
  · rename_i now
    have le : db.clock ≤ input.moment := le_of_not_gt now
    have later := sound.later le
    split at made
    · cases made
      exact ⟨later, nofun, le⟩
    · rename_i goesOn
      have known' : call.Known policy { db with clock := input.moment } := known.later le
      have result := Option.some.inj made
      have after : (runRent policy { db with clock := input.moment } input.fails call).1 = db' :=
        congrArg Prod.fst result
      have next : (runRent policy { db with clock := input.moment } input.fails call).2 = rest :=
        congrArg Prod.snd result
      rw [← after]
      refine ⟨runRent_sound later known' (eq_false_of_ne_true goesOn) turn, fun call' goes =>
        runRent_known later known' (next.trans goes), ?_⟩
      rw [runRent_clock]
      exact le

/-! ### Runs -/

def beforeBatches (contracts : Table ContractId RentedContract) (clock : Instant) : RentDb :=
  ⟨contracts, .empty, .empty, [], [], clock⟩

theorem beforeBatches_sound {clock : Instant} (prices : ∀ c ∈ contracts.values, 0 ≤ c.priceMonthly) :
    RentSound policy (beforeBatches contracts clock) where
  items _ _ found := by cases found
  single _ _ _ _ found := by cases found
  recorded _ mem := (List.not_mem_nil mem).elim
  once := List.nodup_nil
  cancelled _ mem := (List.not_mem_nil mem).elim
  chosen _ _ found := by cases found
  prices _ c found := prices c (Table.mem_values_of_find found)
  spaced := List.Pairwise.nil
  raises _ mem := (List.not_mem_nil mem).elim

/-- In a run whose writes are all in turn no cancelled batch raises a price, each item does at most once, and
every increase is within the policy. -/
theorem increases_kept {contracts : Table ContractId RentedContract} {clock : Instant} {x : State RentDb RentCall}
    (prices : ∀ c ∈ contracts.values, 0 ≤ c.priceMonthly)
    (run : Run (rentSystem policy).step
      (System.admits fun db call input => increaseInTurn policy db call input = true)
      ⟨beforeBatches contracts clock, []⟩ x) : IncreasesKept policy x.db := by
  refine (System.invariant (P := RentSound policy) (Q := fun db call => call.Known policy db) run
    (beforeBatches_sound prices) (fun _ mem => (List.not_mem_nil mem).elim) (fun _ entered => enterRent_known entered)
    fun sound known turn made => ?_).1.kept
  obtain ⟨sound', known', le⟩ := stepRent_sound sound known turn made
  exact ⟨sound', known', fun _ other => other.later le⟩

/-! ### A contract of 100 € -/

def rentedContract : RentedContract := ⟨.active, 10000, some 0, none, false, none, 0, 0⟩

def rentDay (n : ℤ) : RentInput := ⟨n * saasDayMs, false, false⟩

def raiseOf (value : ℚ) (positive : 0 < value) : RentRequest :=
  .create ⟨⟨0, none, none⟩, .percentage, value, 19790, positive⟩

def eightPercent : RentRequest := raiseOf 8 (by norm_num)

def rentTurn (request : RentRequest) (steps : ℕ) (n : ℤ) : List (Action RentRequest RentInput) :=
  .start request :: List.replicate steps (.advance 0 (rentDay n))

def policyOf (minMonthsBetween : ℕ) : RentIncreasePolicy := ⟨5, minMonthsBetween⟩

/-- A batch of 8 per cent that is limited to 5, one that is cancelled, and the next a year later. -/
def raisedTwice : List (Action RentRequest RentInput) :=
  rentTurn eightPercent 3 19783 ++ rentTurn (.apply 0) 4 19790 ++ rentTurn eightPercent 3 20160 ++
    rentTurn (.cancel 1) 1 20161 ++ rentTurn eightPercent 3 20162 ++ rentTurn (.applyDue 20170) 4 20170

theorem increases_kept_twice : ∃ x : State RentDb RentCall,
    x.db.increases.map (fun r => (r.before, r.after)) = [(10000, 10500), (10500, 11025)] ∧
      x.db.cancellations = [1] ∧ IncreasesKept (policyOf 12) x.db := by
  obtain ⟨x, run, raised⟩ := Run.exists_of_exec (rentSystem (policyOf 12)).step
    (System.admits fun db call input => increaseInTurn (policyOf 12) db call input = true)
    ⟨beforeBatches (Table.empty.push rentedContract) 0, []⟩ raisedTwice
    (fun x => x.db.increases.map (fun r => (r.before, r.after)) = [(10000, 10500), (10500, 11025)] ∧
      x.db.cancellations = [1]) (by decide +kernel)
  obtain ⟨prices, cancelled⟩ := of_decide_eq_true raised
  exact ⟨x, prices, cancelled, increases_kept (by decide) run⟩

/-- A batch cancelled after `apply` found it scheduled; one that is applied twice at once; two scheduled batches of
the contract; a batch applied after the rent was raised by hand; and, on the 31st of March, a second increase
after that of the first. -/
def againstThePolicy : List (RentIncreasePolicy × List (Action RentRequest RentInput)) :=
  [(policyOf 12, rentTurn eightPercent 3 19783 ++ [.start (.apply 0), .advance 0 (rentDay 19790), .start (.cancel 0),
      .advance 1 (rentDay 19790)] ++ List.replicate 3 (.advance 0 (rentDay 19790))),
    (policyOf 12, rentTurn eightPercent 3 19783 ++ [.start (.apply 0), .start (.apply 0), .advance 0 (rentDay 19790),
      .advance 1 (rentDay 19790), .advance 0 (rentDay 19790), .advance 1 (rentDay 19790)] ++
      List.replicate 4 (.advance 0 (rentDay 19790))),
    (policyOf 12, rentTurn eightPercent 3 19783 ++ rentTurn eightPercent 3 19784 ++ rentTurn (.apply 0) 4 19790 ++
      rentTurn (.apply 1) 4 19791),
    (policyOf 12, rentTurn eightPercent 3 19783 ++ rentTurn (.changePrice 0 20000) 1 19785 ++
      rentTurn (.apply 0) 4 19790),
    (policyOf 1, rentTurn eightPercent 3 19783 ++ rentTurn (.apply 0) 4 19783 ++ rentTurn eightPercent 3 19813 ++
      rentTurn (.apply 1) 4 19813)]

theorem increases_differ : 0 ≤ rentedContract.priceMonthly ∧ ∀ q ∈ againstThePolicy, ∃ x,
    Reaches (rentSystem q.1).step ⟨beforeBatches (Table.empty.push rentedContract) 0, []⟩ x ∧ x.running = [] ∧
      ¬IncreasesKept q.1 x.db := by
  refine ⟨by decide, fun q mem => ?_⟩
  have replayed : (againstThePolicy.all fun q =>
      (exec (fun x a => if True then (rentSystem q.1).step x a else none)
        ⟨beforeBatches (Table.empty.push rentedContract) 0, []⟩ q.2).any
        fun x => decide (x.running = [] ∧ ¬IncreasesKept q.1 x.db)) = true := by decide +kernel
  obtain ⟨x, run, differ⟩ := Run.exists_of_exec (rentSystem q.1).step (fun _ _ => True)
    ⟨beforeBatches (Table.empty.push rentedContract) 0, []⟩ q.2
    (fun x => x.running = [] ∧ ¬IncreasesKept q.1 x.db) (List.all_eq_true.mp replayed q mem)
  exact ⟨x, run, of_decide_eq_true differ⟩

end StorageOS
