import StorageOS.Billing.Months
import StorageOS.Contracts.RentPrices

/-! The update of the rent at each anniversary of a contract (`contracts/anniversary-updates.service.ts`). A call
changes the rent and marks the anniversary in two transactions, with the list that it has read before. -/

namespace StorageOS

open Gregorian Processes Transition

def aheadDays : ℤ := 30

def behindDays : ℤ := 60

/-- The anniversary of a start in a year: its day, or the last of a shorter month. -/
def anniversaryIn (start : Date) (y : ℤ) : Date := Gregorian.onDay (12 * y + monthOf start % 12) (day start)

/-- The years that `dueAnniversary` still looks at. -/
def dueIn (start : Date) (lastUpdatedOn : Option Date) (today : Date) : List ℤ → Option Date
  | [] => none
  | y :: years =>
    let anniversary := anniversaryIn start y
    if y ≤ year start ∨ aheadDays < anniversary - today ∨ anniversary - today < -behindDays then
      dueIn start lastUpdatedOn today years
    else if lastUpdatedOn.any (anniversary ≤ ·) then none
    else some anniversary

def dueAnniversary (start : Date) (lastUpdatedOn : Option Date) (today : Date) : Option Date :=
  dueIn start lastUpdatedOn today [year today + 1, year today, year today - 1]

/-! ### The anniversary that is proposed -/

def anniversary (start : Date) (n : ℕ) : Date := addMonths start (12 * n)

/-- From 60 days before a day to 30 days after it. -/
def NearDay (today a : Date) : Prop := today - 60 ≤ a ∧ a ≤ today + 30

/-- The latest anniversary near a day, not handled yet. -/
structure LatestDue (start : Date) (lastUpdatedOn : Option Date) (today a : Date) : Prop where
  isAnniversary : ∃ n, 1 ≤ n ∧ a = anniversary start n
  near : NearDay today a
  latest : ∀ n, 1 ≤ n → NearDay today (anniversary start n) → anniversary start n ≤ a
  unhandled : ∀ u ∈ lastUpdatedOn, u < a

section Due

variable {start today a : Date} {lastUpdatedOn : Option Date} {y z : ℤ}

theorem anniversary_eq (start : Date) (n : ℕ) : anniversary start n = anniversaryIn start (year start + n) := by
  rw [anniversary, addMonths_eq_onDay, anniversaryIn, year]
  congr 1
  omega

theorem anniversary_iff : (∃ n, 1 ≤ n ∧ a = anniversary start n) ↔ ∃ y, year start < y ∧ a = anniversaryIn start y := by
  constructor
  · rintro ⟨n, pos, rfl⟩
    exact ⟨year start + n, by omega, anniversary_eq start n⟩
  · rintro ⟨y, later, rfl⟩
    refine ⟨(y - year start).toNat, by omega, ?_⟩
    rw [anniversary_eq]
    congr 1
    omega

theorem monthStart_add (k : ℤ) (j : ℕ) : monthStart k + 28 * j ≤ monthStart (k + j) := by
  induction j with
  | zero => simp
  | succ j ih =>
    have next := (monthStart_succ (k + j)).1
    push_cast
    rw [← add_assoc]
    omega

theorem anniversaryIn_apart (later : y < z) : anniversaryIn start y + 300 < anniversaryIn start z := by
  have here := (onDay_mem (k := 12 * y + monthOf start % 12) (day_pos start)).2
  have there := (onDay_mem (k := 12 * z + monthOf start % 12) (day_pos start)).1
  have apart := monthStart_add (12 * y + monthOf start % 12 + 1) (12 * (z - y) - 1).toNat
  rw [show 12 * y + monthOf start % 12 + 1 + ((12 * (z - y) - 1).toNat : ℤ) = 12 * z + monthOf start % 12 by omega]
    at apart
  simp only [anniversaryIn]
  have months : (11 : ℤ) ≤ (12 * (z - y) - 1).toNat := by omega
  generalize Gregorian.onDay (12 * y + monthOf start % 12) (day start) = before at *
  generalize Gregorian.onDay (12 * z + monthOf start % 12) (day start) = after at *
  lia

theorem near_unique (nearY : NearDay today (anniversaryIn start y)) (nearZ : NearDay today (anniversaryIn start z)) :
    y = z := by
  obtain ⟨lowY, highY⟩ := nearY
  obtain ⟨lowZ, highZ⟩ := nearZ
  rcases lt_trichotomy y z with less | same | more
  · have : anniversaryIn start y + 300 < anniversaryIn start z := anniversaryIn_apart less
    generalize anniversaryIn start y = before at *
    generalize anniversaryIn start z = after at *
    lia
  · exact same
  · have : anniversaryIn start z + 300 < anniversaryIn start y := anniversaryIn_apart more
    generalize anniversaryIn start y = before at *
    generalize anniversaryIn start z = after at *
    lia

theorem year_anniversaryIn (start : Date) (y : ℤ) : year (anniversaryIn start y) = y := by
  rw [year, anniversaryIn, monthOf_onDay (day_pos start)]
  omega

theorem near_year (near : NearDay today a) : year today - 1 ≤ year a ∧ year a ≤ year today + 1 := by
  obtain ⟨low, high⟩ := near
  have hereLow := (monthOf_spec today).1
  have hereHigh := (monthOf_spec today).2
  have ahead := monthStart_add (monthOf today + 1) 2
  have behind := monthStart_add (monthOf today - 3) 3
  rw [show monthOf today - 3 + ((3 : ℕ) : ℤ) = monthOf today by omega] at behind
  have upper : monthOf a < monthOf today + 1 + (2 : ℕ) := by
    by_contra more
    have := (le_monthOf_iff a _).mp (not_lt.mp more)
    generalize monthStart (monthOf today + 1 + (2 : ℕ)) = third at *
    lia
  have lower : monthOf today - 3 ≤ monthOf a := by
    refine (le_monthOf_iff a _).mpr ?_
    generalize monthStart (monthOf today - 3) = third at *
    lia
  simp only [year]
  omega

theorem dueIn_eq_some {years : List ℤ} : dueIn start lastUpdatedOn today years = some a ↔
    ∃ y ∈ years, year start < y ∧ NearDay today (anniversaryIn start y) ∧ a = anniversaryIn start y ∧
      ∀ u ∈ lastUpdatedOn, u < a := by
  induction years with
  | nil => simp [dueIn]
  | cons y years ih =>
    have near_iff : ¬(y ≤ year start ∨ aheadDays < anniversaryIn start y - today ∨
        anniversaryIn start y - today < -behindDays) ↔ year start < y ∧ NearDay today (anniversaryIn start y) := by
      simp only [NearDay, aheadDays, behindDays]
      generalize anniversaryIn start y = there
      constructor
      · intro within
        exact ⟨by lia, by lia, by lia⟩
      · rintro ⟨later, low, high⟩
        lia
    rw [dueIn]
    split
    · rename_i out
      rw [ih]
      have notHere : ¬(year start < y ∧ NearDay today (anniversaryIn start y)) := fun here => near_iff.mpr here out
      constructor
      · rintro ⟨z, mem, rest⟩
        exact ⟨z, List.mem_cons_of_mem _ mem, rest⟩
      · rintro ⟨z, mem, later, near, rest⟩
        rcases List.mem_cons.mp mem with rfl | mem
        · exact absurd ⟨later, near⟩ notHere
        · exact ⟨z, mem, later, near, rest⟩
    · rename_i within
      obtain ⟨later, near⟩ := near_iff.mp within
      have only : ∀ z, NearDay today (anniversaryIn start z) → anniversaryIn start z = anniversaryIn start y :=
        fun z nearZ => by rw [near_unique nearZ near]
      split
      · rename_i handled
        obtain ⟨u, held, reached⟩ := (Option.any_eq_true _ _).mp handled
        refine ⟨nofun, ?_⟩
        rintro ⟨z, -, -, nearZ, rfl, before⟩
        have lt := before u held
        rw [only z nearZ] at lt
        exact absurd (of_decide_eq_true reached) (not_le.mpr lt)
      · rename_i unhandled
        constructor
        · rintro ⟨⟩
          refine ⟨y, List.mem_cons_self, later, near, rfl, fun u held => ?_⟩
          by_contra reached
          exact unhandled ((Option.any_eq_true _ _).mpr ⟨u, held, decide_eq_true (not_lt.mp reached)⟩)
        · rintro ⟨z, -, -, nearZ, rfl, -⟩
          rw [only z nearZ]

theorem dueAnniversary_eq_some :
    dueAnniversary start lastUpdatedOn today = some a ↔ LatestDue start lastUpdatedOn today a := by
  rw [dueAnniversary, dueIn_eq_some]
  constructor
  · rintro ⟨y, -, later, near, rfl, unhandled⟩
    refine ⟨anniversary_iff.mpr ⟨y, later, rfl⟩, near, fun n _ nearN => ?_, unhandled⟩
    rw [anniversary_eq] at nearN ⊢
    rw [near_unique nearN near]
  · rintro ⟨isAnniversary, near, -, unhandled⟩
    obtain ⟨y, later, rfl⟩ := anniversary_iff.mp isAnniversary
    have years := near_year near
    rw [year_anniversaryIn] at years
    refine ⟨y, ?_, later, near, rfl, unhandled⟩
    simp only [List.mem_cons, List.not_mem_nil, or_false]
    omega

end Due

example : dueAnniversary (date 2024 2 29) none (date 2025 1 29) = some (date 2025 2 28) := by decide

/-! ### The calls -/

inductive AnniversaryUpdateScope
  | housing
  | all
  deriving DecidableEq

structure AnniversarySettings where
  enabled : Bool
  pct : ℚ
  scope : AnniversaryUpdateScope
  deriving DecidableEq

/-- A contract with what `listDue` reads of its unit. -/
structure YearlyContract where
  contract : PricedContract
  facilityId : FacilityId
  housing : Bool
  lastAnniversaryUpdateOn : Option Date
  deriving DecidableEq

/-- A row of `listDue`, and the percentage of its price. -/
structure AnniversaryUpdate where
  contractId : ContractId
  anniversary : Date
  currentPrice : ℤ
  newPrice : ℤ
  pct : ℚ
  deriving DecidableEq

/-- A change of the rent by its anniversary, with the rent that it replaces. -/
structure YearlyIncrease where
  contractId : ContractId
  anniversary : Date
  pct : ℚ
  before : ℤ
  after : ℤ
  deriving DecidableEq

/-- The increases made and the anniversaries marked are history. -/
structure AnniversaryDb where
  settings : AnniversarySettings
  contracts : Table ContractId YearlyContract
  increases : List YearlyIncrease
  handled : List (ContractId × Date)
  deriving DecidableEq

def YearlyContract.due (c : YearlyContract) (id : ContractId) (settings : AnniversarySettings)
    (facilityScope : Option (List FacilityId)) (today : Date) : Option AnniversaryUpdate :=
  if c.contract.isLive && !c.contract.isPendingPreOpening && facilityScope.all (·.contains c.facilityId) &&
      (settings.scope = .all || c.housing) then
    (dueAnniversary c.contract.startDate c.lastAnniversaryUpdateOn today).map fun anniversary =>
      ⟨id, anniversary, c.contract.priceMonthly, anniversaryPrice c.contract.priceMonthly settings.pct, settings.pct⟩
  else none

def AnniversaryDb.listDue (db : AnniversaryDb) (settings : AnniversarySettings)
    (facilityScope : Option (List FacilityId)) (today : Date) : List AnniversaryUpdate :=
  if settings.enabled then db.contracts.rows.filterMap fun q => q.2.due q.1 settings facilityScope today else []

inductive AnniversaryAction
  | apply
  | skip
  deriving DecidableEq

inductive AnniversaryRequest
  | apply (contractIds : List ContractId) (action : AnniversaryAction) (facilityScope : Option (List FacilityId))
  | updateSettings (settings : AnniversarySettings)
  /-- What the other operations make of the contract. -/
  | write (contractId : ContractId) (row : PricedContract)

/-- What a call to `apply` still goes through, with its list. -/
structure AnniversaryTurn where
  due : List AnniversaryUpdate
  contractIds : List ContractId
  action : AnniversaryAction
  facilityScope : Option (List FacilityId)

def AnniversaryTurn.changes (turn : AnniversaryTurn) (row : AnniversaryUpdate) : Bool :=
  turn.action = .apply && row.newPrice ≠ row.currentPrice

inductive AnniversaryCall
  | reading (contractIds : List ContractId) (action : AnniversaryAction) (facilityScope : Option (List FacilityId))
  | listing (settings : AnniversarySettings) (turn : AnniversaryTurn)
  /-- `changePrice`, before it has read the contract. -/
  | checking (row : AnniversaryUpdate) (later : AnniversaryTurn)
  | writing (row : AnniversaryUpdate) (later : AnniversaryTurn)
  | marking (row : AnniversaryUpdate) (later : AnniversaryTurn)
  | updatingSettings (settings : AnniversarySettings)
  | writingOthers (contractId : ContractId) (row : PricedContract)

/-- The call at the next of its contracts that is due. -/
def AnniversaryTurn.next (due : List AnniversaryUpdate) (action : AnniversaryAction)
    (facilityScope : Option (List FacilityId)) : List ContractId → Option AnniversaryCall
  | [] => none
  | id :: contractIds =>
    match due.find? (·.contractId = id) with
    | none => next due action facilityScope contractIds
    | some row =>
      let later : AnniversaryTurn := ⟨due, contractIds, action, facilityScope⟩
      some (if later.changes row then .checking row later else .marking row later)

def AnniversaryTurn.call (turn : AnniversaryTurn) : Option AnniversaryCall :=
  AnniversaryTurn.next turn.due turn.action turn.facilityScope turn.contractIds

/-- The day of a step, whether it fails, and whether the call raises an error or ends after it. -/
structure AnniversaryInput where
  today : Date
  fails : Bool
  throws : Bool
  stops : Bool
  deriving DecidableEq

def enterAnniversary (_ : AnniversaryDb) : AnniversaryRequest → Option AnniversaryCall
  | .apply contractIds action facilityScope => some (.reading contractIds action facilityScope)
  | .updateSettings settings => some (.updatingSettings settings)
  | .write contractId row => some (.writingOthers contractId row)

/-- What `changePrice` writes; the anniversary it is for is history. -/
def AnniversaryDb.changePrice (db : AnniversaryDb) (row : AnniversaryUpdate) : AnniversaryDb :=
  { db with
    contracts := db.contracts.modify row.contractId fun c => { c with contract := { c.contract with
      priceMonthly := row.newPrice
      scheduledPrice := none
      scheduledPriceDate := none } }
    increases := db.increases ++ ((db.contracts.find row.contractId).map fun c =>
      ⟨row.contractId, row.anniversary, row.pct, c.contract.priceMonthly, row.newPrice⟩).toList }

def AnniversaryDb.mark (db : AnniversaryDb) (row : AnniversaryUpdate) : AnniversaryDb :=
  { db with
    contracts := db.contracts.modify row.contractId fun c =>
      { c with lastAnniversaryUpdateOn := some row.anniversary }
    handled := db.handled ++
      ((db.contracts.find row.contractId).map fun _ => (row.contractId, row.anniversary)).toList }

/-- `findOrThrow` and the checks of `changePrice`. -/
def AnniversaryDb.priceChangeable (db : AnniversaryDb) (row : AnniversaryUpdate) (later : AnniversaryTurn)
    (today : Date) : Bool :=
  (db.contracts.find row.contractId).any fun c => c.contract.deletedAt.isNone &&
    later.facilityScope.all (·.contains c.facilityId) &&
    (c.contract.changePrice today ⟨euros row.newPrice, none⟩).toOption.isSome

def runAnniversary (db : AnniversaryDb) (today : Date) : AnniversaryCall → AnniversaryDb × Option AnniversaryCall
  | .reading contractIds action facilityScope =>
    (db, some (.listing db.settings ⟨[], contractIds.eraseDups, action, facilityScope⟩))
  | .listing settings turn =>
    (db, AnniversaryTurn.call { turn with due := db.listDue settings turn.facilityScope today })
  | .checking row later => (db, if db.priceChangeable row later today then some (.writing row later) else later.call)
  | .writing row later => (db.changePrice row, some (.marking row later))
  | .marking row later => (db.mark row, later.call)
  | .updatingSettings settings => ({ db with settings }, none)
  | .writingOthers contractId row =>
    ({ db with contracts := db.contracts.modify contractId fun c => { c with contract := row } }, none)

/-- Where a call goes on when one of its steps raises an error. -/
def AnniversaryCall.afterError : AnniversaryCall → Option AnniversaryCall
  | .checking _ later | .writing _ later | .marking _ later => later.call
  | _ => none

def stepAnniversary (db : AnniversaryDb) (call : AnniversaryCall) (input : AnniversaryInput) :
    Option (AnniversaryDb × Option AnniversaryCall) :=
  let made := runAnniversary db input.today call
  some (if input.fails then db else made.1,
    if input.stops then none else if input.fails || input.throws then call.afterError else made.2)

def anniversarySystem : System AnniversaryDb AnniversaryCall AnniversaryRequest AnniversaryInput where
  enter := enterAnniversary
  next := stepAnniversary

/-! ### One increase for each anniversary -/

def YearlyIncrease.key (i : YearlyIncrease) : ContractId × Date := (i.contractId, i.anniversary)

/-- Each anniversary has one increase at most, by its percentage of the rent that was in force, and is not proposed
once it is handled. -/
structure AnniversaryDb.RaisedOnce (db : AnniversaryDb) : Prop where
  once : (db.increases.map YearlyIncrease.key).Nodup
  inForce : ∀ i ∈ db.increases, i.after = anniversaryPrice i.before i.pct
  notAgain : ∀ settings facilityScope today, ∀ row ∈ db.listDue settings facilityScope today,
    (row.contractId, row.anniversary) ∉ db.handled

/-- The call has changed the rent for an anniversary that it has yet to mark. -/
def AnniversaryCall.owes (id : ContractId) (a : Date) : AnniversaryCall → Bool
  | .marking row later => later.changes row && row.contractId = id && row.anniversary = a
  | _ => false

/-- The rent is changed when it is what the list says, with the anniversary neither handled nor about to be marked by
another call, and is marked then; a mark replaces no later one. -/
def anniversaryFits (s : State AnniversaryDb AnniversaryCall) (call : AnniversaryCall) (input : AnniversaryInput) :
    Bool :=
  match call with
  | .writing row _ =>
    input.fails || (!input.throws && !input.stops && !s.running.any (·.owes row.contractId row.anniversary) &&
      (s.db.contracts.find row.contractId).all fun c => c.contract.priceMonthly = row.currentPrice &&
        c.lastAnniversaryUpdateOn.all (· < row.anniversary))
  | .marking row later =>
    if input.fails then !later.changes row
    else (s.db.contracts.find row.contractId).all fun c => c.lastAnniversaryUpdateOn.all (· ≤ row.anniversary)
  | _ => true

section Marks

variable {db db' : AnniversaryDb} {row : AnniversaryUpdate} {call : AnniversaryCall} {rest : Option AnniversaryCall}
  {input : AnniversaryInput} {id : ContractId} {a : Date}

/-- The last anniversary marked, of a contract that there is. -/
def AnniversaryDb.lastOn (db : AnniversaryDb) (id : ContractId) : Option (Option Date) :=
  (db.contracts.find id).map YearlyContract.lastAnniversaryUpdateOn

def AnniversaryDb.Marked (db : AnniversaryDb) (id : ContractId) (a : Date) : Prop :=
  ∃ u, db.lastOn id = some (some u) ∧ a ≤ u

@[simp] theorem AnniversaryDb.lastOn_changePrice (db : AnniversaryDb) (row : AnniversaryUpdate) :
    (db.changePrice row).lastOn id = db.lastOn id := by
  simp only [lastOn, changePrice, Table.find_modify]
  split
  · rw [Option.map_map]
    rfl
  · rfl

theorem AnniversaryDb.lastOn_mark (db : AnniversaryDb) (row : AnniversaryUpdate) :
    (db.mark row).lastOn id = if id = row.contractId then (db.lastOn id).map fun _ => some row.anniversary
      else db.lastOn id := by
  simp only [lastOn, mark, Table.find_modify]
  split
  · rw [Option.map_map, Option.map_map]
    rfl
  · rfl

theorem AnniversaryDb.Marked.mark (held : db.Marked id a)
    (forward : ∀ c ∈ db.contracts.find row.contractId, ∀ u ∈ c.lastAnniversaryUpdateOn, u ≤ row.anniversary) :
    (db.mark row).Marked id a := by
  obtain ⟨u, last, reached⟩ := held
  rw [Marked, lastOn_mark]
  split
  · rename_i same
    obtain ⟨c, found, lastOfC⟩ := Option.map_eq_some_iff.mp last
    refine ⟨row.anniversary, by rw [last]; rfl, reached.trans (forward c ?_ u lastOfC)⟩
    rwa [← same]
  · exact ⟨u, last, reached⟩

theorem AnniversaryDb.marked_mark (there : (db.lastOn row.contractId).isSome) :
    (db.mark row).Marked row.contractId row.anniversary := by
  obtain ⟨last, found⟩ := Option.isSome_iff_exists.mp there
  exact ⟨row.anniversary, by rw [lastOn_mark, if_pos rfl, found]; rfl, le_rfl⟩

theorem AnniversaryDb.lastOn_mark_isSome (there : (db.lastOn id).isSome) : ((db.mark row).lastOn id).isSome := by
  rw [lastOn_mark]
  split
  · rwa [Option.isSome_map]
  · exact there

theorem stepAnniversary_cases (h : stepAnniversary db call input = some (db', rest)) :
    ((∀ id, db'.lastOn id = db.lastOn id) ∧ db'.increases = db.increases ∧ db'.handled = db.handled ∧
      ((∃ row later, call = .marking row later) → input.fails = true)) ∨
    (∃ row later, call = .writing row later ∧ input.fails = false ∧ db' = db.changePrice row ∧
      (input.throws = false → input.stops = false → rest = some (.marking row later))) ∨
    ∃ row later, call = .marking row later ∧ input.fails = false ∧ db' = db.mark row := by
  simp only [stepAnniversary, Option.some.injEq, Prod.mk.injEq] at h
  obtain ⟨rfl, rfl⟩ := h
  cases failed : input.fails with
  | true => exact .inl ⟨fun _ => rfl, rfl, rfl, fun _ => rfl⟩
  | false =>
    cases call with
    | writing row later =>
      refine .inr (.inl ⟨row, later, rfl, rfl, rfl, fun returns stays => ?_⟩)
      simp [returns, stays, runAnniversary]
    | marking row later => exact .inr (.inr ⟨row, later, rfl, rfl, rfl⟩)
    | writingOthers contractId row =>
      refine .inl ⟨fun id => ?_, rfl, rfl, by simp⟩
      simp only [Bool.false_eq_true, if_false, runAnniversary, AnniversaryDb.lastOn, Table.find_modify]
      split
      · rw [Option.map_map]
        rfl
      · rfl
    | _ => exact .inl ⟨fun _ => rfl, rfl, rfl, by simp⟩

end Marks

/-! ### What the calls have read -/

def AnniversaryUpdate.Priced (row : AnniversaryUpdate) : Prop :=
  row.newPrice = anniversaryPrice row.currentPrice row.pct

/-- The rows of a call have the price of their percentage, and a rent is only changed where it changes. -/
def AnniversaryCall.Sound : AnniversaryCall → Prop
  | .checking row later | .writing row later =>
    row.Priced ∧ later.changes row = true ∧ ∀ r ∈ later.due, r.Priced
  | .marking _ later => ∀ r ∈ later.due, r.Priced
  | _ => True

section Sound

variable {db db' : AnniversaryDb} {settings : AnniversarySettings} {facilityScope : Option (List FacilityId)}
  {today : Date} {row : AnniversaryUpdate} {call r : AnniversaryCall} {rest : Option AnniversaryCall}
  {input : AnniversaryInput}

theorem listDue_spec (mem : row ∈ db.listDue settings facilityScope today) :
    ∃ c, db.contracts.find row.contractId = some c ∧
      dueAnniversary c.contract.startDate c.lastAnniversaryUpdateOn today = some row.anniversary ∧ row.Priced := by
  rw [AnniversaryDb.listDue] at mem
  split at mem
  · obtain ⟨⟨id, c⟩, listed, due⟩ := List.mem_filterMap.mp mem
    rw [YearlyContract.due] at due
    split at due
    · obtain ⟨a, proposed, rfl⟩ := Option.map_eq_some_iff.mp due
      exact ⟨c, Table.find_of_mem listed, proposed, rfl⟩
    · cases due
  · cases mem

theorem AnniversaryTurn.next_sound {due : List AnniversaryUpdate} {action : AnniversaryAction}
    {contractIds : List ContractId} (priced : ∀ row ∈ due, row.Priced)
    (h : AnniversaryTurn.next due action facilityScope contractIds = some r) : r.Sound := by
  induction contractIds with
  | nil => cases h
  | cons id contractIds ih =>
    rw [next] at h
    split at h
    · exact ih h
    · rename_i row found
      cases h
      split
      · rename_i changed
        exact ⟨priced row (List.mem_of_find?_eq_some found), changed, priced⟩
      · exact priced

theorem AnniversaryCall.Sound.afterError (sound : call.Sound) (h : call.afterError = some r) : r.Sound := by
  cases call with
  | checking row later => exact AnniversaryTurn.next_sound sound.2.2 h
  | writing row later => exact AnniversaryTurn.next_sound sound.2.2 h
  | marking row later => exact AnniversaryTurn.next_sound sound h
  | _ => cases h

theorem AnniversaryCall.Sound.run (sound : call.Sound) (h : (runAnniversary db today call).2 = some r) : r.Sound := by
  cases call with
  | reading => cases h; trivial
  | listing settings turn =>
    exact AnniversaryTurn.next_sound (fun row mem => (listDue_spec mem).choose_spec.2.2) h
  | checking row later =>
    simp only [runAnniversary] at h
    split at h
    · cases h
      exact sound
    · exact AnniversaryTurn.next_sound sound.2.2 h
  | writing row later =>
    cases h
    exact sound.2.2
  | marking row later => exact AnniversaryTurn.next_sound sound h
  | updatingSettings => cases h
  | writingOthers => cases h

theorem AnniversaryCall.Sound.step (sound : call.Sound) (h : stepAnniversary db call input = some (db', rest)) :
    ∀ r, rest = some r → r.Sound := by
  rintro r rfl
  simp only [stepAnniversary, Option.some.injEq, Prod.mk.injEq] at h
  obtain ⟨-, goesOn⟩ := h
  split at goesOn
  · cases goesOn
  · split at goesOn
    · exact sound.afterError goesOn
    · exact sound.run goesOn

end Sound

/-! ### Runs -/

/-- Each increase is marked or about to be. -/
structure AnniversariesInTurn (s : State AnniversaryDb AnniversaryCall) : Prop where
  calls : ∀ call ∈ s.running, call.Sound
  once : (s.db.increases.map YearlyIncrease.key).Nodup
  inForce : ∀ i ∈ s.db.increases, i.after = anniversaryPrice i.before i.pct
  known : ∀ i ∈ s.db.increases, (s.db.lastOn i.contractId).isSome
  accounted : ∀ i ∈ s.db.increases, s.db.Marked i.contractId i.anniversary ∨
    ∃ call ∈ s.running, call.owes i.contractId i.anniversary = true
  marked : ∀ h ∈ s.db.handled, s.db.Marked h.1 h.2

section Runs

variable {db db' : AnniversaryDb} {running : List AnniversaryCall} {i : ℕ} {call : AnniversaryCall}
  {rest : Option AnniversaryCall} {input : AnniversaryInput} {row : AnniversaryUpdate} {later : AnniversaryTurn}

variable (found : running[i]? = some call)
include found

theorem owes_resume {id : ContractId} {a : Date} (idle : call.owes id a = false)
    (owed : ∃ r ∈ running, r.owes id a = true) : ∃ r ∈ resume running i rest, r.owes id a = true :=
  exists_resume found owed fun own => by simp [idle] at own

variable (before : AnniversariesInTurn ⟨db, running⟩)
include before

theorem AnniversariesInTurn.calls_resume (made : stepAnniversary db call input = some (db', rest)) :
    ∀ r ∈ resume running i rest, r.Sound := by
  intro r mem
  rcases mem_resume mem with mem | goesOn
  · exact before.calls r mem
  · exact (before.calls call (List.mem_of_getElem? found)).step made r goesOn

theorem AnniversariesInTurn.quiet (made : stepAnniversary db call input = some (db', rest))
    (lasts : ∀ id, db'.lastOn id = db.lastOn id) (increases : db'.increases = db.increases)
    (handled : db'.handled = db.handled) (idle : ∀ id a, call.owes id a = false) :
    AnniversariesInTurn ⟨db', resume running i rest⟩ := by
  have marks : ∀ id a, db'.Marked id a ↔ db.Marked id a := fun id a => by simp only [AnniversaryDb.Marked, lasts]
  refine ⟨before.calls_resume found made, ?_, ?_, ?_, ?_, ?_⟩
  · rw [increases]
    exact before.once
  · rw [increases]
    exact before.inForce
  · intro j mem
    rw [increases] at mem
    rw [lasts]
    exact before.known j mem
  · intro j mem
    rw [increases] at mem
    rw [marks]
    exact (before.accounted j mem).imp_right (owes_resume found (idle _ _))
  · intro h mem
    rw [handled] at mem
    rw [marks]
    exact before.marked h mem

omit found

theorem AnniversariesInTurn.write (found : running[i]? = some (.writing row later))
    (made : stepAnniversary db (.writing row later) input = some (db.changePrice row, some (.marking row later)))
    (alone : ∀ r ∈ running, r.owes row.contractId row.anniversary = false)
    (current : ∀ c ∈ db.contracts.find row.contractId, c.contract.priceMonthly = row.currentPrice ∧
      ∀ u ∈ c.lastAnniversaryUpdateOn, u < row.anniversary) :
    AnniversariesInTurn ⟨db.changePrice row, resume running i (some (.marking row later))⟩ := by
  have sound := before.calls _ (List.mem_of_getElem? found)
  have marked : ∀ h ∈ db.handled, (db.changePrice row).Marked h.1 h.2 := fun h mem => by
    simpa only [AnniversaryDb.Marked, AnniversaryDb.lastOn_changePrice] using before.marked h mem
  have kept : ∀ j ∈ db.increases, (db.changePrice row).Marked j.contractId j.anniversary ∨
      ∃ r ∈ resume running i (some (.marking row later)), r.owes j.contractId j.anniversary = true := by
    intro j mem
    simp only [AnniversaryDb.Marked, AnniversaryDb.lastOn_changePrice]
    exact (before.accounted j mem).imp_right (owes_resume found rfl)
  cases there : db.contracts.find row.contractId with
  | none =>
    have increases : (db.changePrice row).increases = db.increases := by simp [AnniversaryDb.changePrice, there]
    refine ⟨before.calls_resume found made, ?_, ?_, ?_, ?_, marked⟩
    all_goals rw [increases]
    exacts [before.once, before.inForce, fun j mem => by simpa using before.known j mem, kept]
  | some c =>
    obtain ⟨price, unhandled⟩ := current c there
    have increases : (db.changePrice row).increases = db.increases ++
        [⟨row.contractId, row.anniversary, row.pct, c.contract.priceMonthly, row.newPrice⟩] := by
      simp [AnniversaryDb.changePrice, there]
    -- An earlier increase of the anniversary would be marked, or about to be.
    have new : (row.contractId, row.anniversary) ∉ db.increases.map YearlyIncrease.key := by
      intro mem
      obtain ⟨j, memJ, same⟩ := List.mem_map.mp mem
      obtain ⟨sameId, sameDay⟩ := Prod.mk.inj same
      rcases before.accounted j memJ with ⟨u, last, reached⟩ | ⟨r, memR, owed⟩
      · obtain ⟨c', foundC, lastOfC⟩ := Option.map_eq_some_iff.mp last
        rw [sameId, there] at foundC
        cases foundC
        have handled := unhandled u lastOfC
        rw [sameDay] at reached
        exact absurd reached (not_le.mpr handled)
      · rw [sameId, sameDay, alone r memR] at owed
        cases owed
    refine ⟨before.calls_resume found made, ?_, ?_, ?_, ?_, marked⟩
    · rw [increases, List.map_append]
      exact List.nodup_append.mpr ⟨before.once, List.nodup_singleton _, by
        rintro k mem k' mem' rfl
        rw [List.map_singleton, List.mem_singleton] at mem'
        subst mem'
        exact new mem⟩
    · rw [increases]
      intro j mem
      rcases List.mem_append.mp mem with mem | mem
      · exact before.inForce j mem
      · obtain rfl := List.mem_singleton.mp mem
        have priced := sound.1
        rwa [AnniversaryUpdate.Priced, ← price] at priced
    · rw [increases]
      intro j mem
      rw [AnniversaryDb.lastOn_changePrice]
      rcases List.mem_append.mp mem with mem | mem
      · exact before.known j mem
      · obtain rfl := List.mem_singleton.mp mem
        simp [AnniversaryDb.lastOn, there]
    · rw [increases]
      intro j mem
      rcases List.mem_append.mp mem with mem | mem
      · exact kept j mem
      · obtain rfl := List.mem_singleton.mp mem
        exact .inr ⟨_, mem_resume_self found _, by simp [AnniversaryCall.owes, sound.2.1]⟩

theorem AnniversariesInTurn.mark (found : running[i]? = some (.marking row later))
    (made : stepAnniversary db (.marking row later) input = some (db.mark row, rest))
    (forward : ∀ c ∈ db.contracts.find row.contractId, ∀ u ∈ c.lastAnniversaryUpdateOn, u ≤ row.anniversary) :
    AnniversariesInTurn ⟨db.mark row, resume running i rest⟩ := by
  refine ⟨before.calls_resume found made, before.once, before.inForce, ?_, ?_, ?_⟩
  · exact fun j mem => AnniversaryDb.lastOn_mark_isSome (before.known j mem)
  · intro j mem
    rcases before.accounted j mem with held | owed
    · exact .inl (held.mark forward)
    by_cases own : (AnniversaryCall.marking row later).owes j.contractId j.anniversary = true
    · simp only [AnniversaryCall.owes, Bool.and_eq_true, decide_eq_true_eq] at own
      obtain ⟨⟨-, sameId⟩, sameDay⟩ := own
      have there := before.known j mem
      rw [← sameId] at there
      rw [← sameId, ← sameDay]
      exact .inl (AnniversaryDb.marked_mark there)
    · exact .inr (owes_resume found (by simpa using own) owed)
  · intro h mem
    rcases List.mem_append.mp mem with mem | mem
    · exact (before.marked h mem).mark forward
    · obtain ⟨c, foundC, rfl⟩ := Option.map_eq_some_iff.mp (Option.mem_toList.mp mem)
      exact AnniversaryDb.marked_mark (by simp [AnniversaryDb.lastOn, foundC])

theorem AnniversariesInTurn.step (fits : anniversaryFits ⟨db, running⟩ call input = true)
    (found : running[i]? = some call) (made : stepAnniversary db call input = some (db', rest)) :
    AnniversariesInTurn ⟨db', resume running i rest⟩ := by
  rcases stepAnniversary_cases made with ⟨lasts, increases, handled, quiet⟩ |
    ⟨row, later, rfl, committed, rfl, goesOn⟩ | ⟨row, later, rfl, committed, rfl⟩
  · refine before.quiet found made lasts increases handled fun id a => ?_
    cases call with
    | marking row later =>
      have failed := quiet ⟨row, later, rfl⟩
      simp only [anniversaryFits, failed, if_true, Bool.not_eq_true'] at fits
      simp [AnniversaryCall.owes, fits]
    | _ => rfl
  · simp only [anniversaryFits, committed, Bool.false_or, Bool.and_eq_true, Bool.not_eq_true', Option.all_eq_true,
      List.any_eq_false, decide_eq_true_eq] at fits
    obtain ⟨⟨⟨returns, stays⟩, alone⟩, current⟩ := fits
    obtain rfl := goesOn returns stays
    exact before.write found made (fun r mem => by simpa using alone r mem) current
  · simp only [anniversaryFits, committed, Bool.false_eq_true, if_false, Option.all_eq_true,
      decide_eq_true_eq] at fits
    exact before.mark found made fits

omit before

theorem AnniversariesInTurn.raisedOnce {s : State AnniversaryDb AnniversaryCall} (inTurn : AnniversariesInTurn s) :
    s.db.RaisedOnce := by
  refine ⟨inTurn.once, inTurn.inForce, fun settings facilityScope today row mem handled => ?_⟩
  obtain ⟨c, found, due, -⟩ := listDue_spec mem
  obtain ⟨u, last, reached⟩ := inTurn.marked _ handled
  obtain ⟨c', found', lastOfC⟩ := Option.map_eq_some_iff.mp last
  rw [found] at found'
  cases found'
  exact absurd reached (not_le.mpr ((dueAnniversary_eq_some.mp due).unhandled u lastOfC))

end Runs

def yearlyRent : YearlyContract where
  contract :=
    { status := .active, deletedAt := none, customerIsTest := false, preOpening := false, preOpeningStartedAt := none
      startDate := date 2024 2 29, endDate := none, endDateBeforeEnding := none, termMonths := none, autoRenew := true
      cancellationNoticeDays := 15, billingStartsOn := none, billingIntervalMonths := 1, firstPaymentMonths := 1
      prepayDiscountPct := 0, priceMonthly := 10000, discountAmount := 0, insurancePrice := none
      depositAmount := 10000, freeMonthsRemaining := 0, pendingCreditAmount := 0, pendingCreditReason := none
      coupon := none, customerId := 0, unitId := 0, firstPaymentDeadline := none, preOpeningDeadline := none
      preOpeningDateConfirmed := false, depositStatus := .held, scheduledUnitId := none, scheduledUnitDate := none
      scheduledUnitPrice := none, scheduledUnitProrate := false, promoted := false, scheduledPrice := none
      scheduledPriceDate := none }
  facilityId := 0
  housing := true
  lastAnniversaryUpdateOn := none

def yearlyRents : AnniversaryDb := ⟨⟨true, 3, .housing⟩, Table.empty.push yearlyRent, [], []⟩

def onFirstOfMarch (y : ℤ) : AnniversaryInput := ⟨date y 3 1, false, false, false⟩

def applyYearly (action : AnniversaryAction) : Action AnniversaryRequest AnniversaryInput :=
  .start (.apply [0, 0] action none)

def inSpring (y : ℤ) (steps : ℕ) : List (Action AnniversaryRequest AnniversaryInput) :=
  List.replicate steps (.advance 0 (onFirstOfMarch y))

/-- A mark that fails and a second call; two calls at once; a rent changed by hand after the list was read. -/
def raisedAgain : List (List (Action AnniversaryRequest AnniversaryInput)) :=
  [applyYearly .apply :: inSpring 2025 4 ++ [.advance 0 ⟨date 2025 3 1, true, false, false⟩, applyYearly .apply] ++
      inSpring 2025 5,
    [applyYearly .apply, applyYearly .apply] ++ inSpring 2025 2 ++
      [.advance 1 (onFirstOfMarch 2025), .advance 1 (onFirstOfMarch 2025)] ++ inSpring 2025 3 ++ inSpring 2025 3,
    applyYearly .apply :: inSpring 2025 3 ++ [.start (.write 0 { yearlyRent.contract with priceMonthly := 20000 }),
      .advance 1 (onFirstOfMarch 2025)] ++ inSpring 2025 2]

end StorageOS
