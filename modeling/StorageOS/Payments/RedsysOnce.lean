import StorageOS.Payments.RedsysEntries

/-! What the bank authorised of an order is applied once or left for review, in every run where no
authorisation finds the order failed. -/

namespace StorageOS

open Transition Processes

/-- An authorisation finds the order not failed yet, and that of a charge finds it in time. -/
def redsysInOrder (db : RedsysDb) (call : RedsysCall) (_ : RedsysInput) : Bool :=
  match call with
  | .claiming true => db.order.status ≠ .failed
  | .resolving _ true => db.order.status = .charging || db.order.status = .paid
  | _ => true

namespace RedsysCall

def idle : RedsysCall → Bool
  | .claiming _ | .expiring => true
  | _ => false

def charges : RedsysCall → Bool
  | .answering _ | .resolving _ _ | .settling _ _ => true
  | _ => false

def pays : RedsysCall → Bool
  | .counting approved | .finding approved | .syncing _ approved => approved
  | .splitting | .marking _ | .reviewing => true
  | .settling _ result => result = .succeeded
  | _ => false

def sent : RedsysCall → List ReservedPayment
  | .answering payments | .resolving payments _ | .settling payments _ => payments
  | _ => []

def unsettled : RedsysCall → Bool
  | .answering _ | .resolving _ _ => true
  | _ => false

end RedsysCall

/-- The payments of a charge are as they were reserved, and come to the amount of the order. -/
structure RedsysDb.Ready (db : RedsysDb) (payments : List ReservedPayment) : Prop where
  reserved : ChargeReady db.docs payments
  total : (payments.map fun r => column r.amount).sum = db.order.amountCents

structure Entries.Live (e : Entries) (rows : List (InvoiceId × PaymentId × Payment)) : Prop where
  apart : (rows.map fun q => (q.1, q.2.1)).Nodup
  waits : ∀ q ∈ rows, ∃ x, e.Waits q.1 q.2.1 x ∧ x.amount = q.2.2.amount

def RedsysDb.collected (db : RedsysDb) : ℤ := db.docs.entries.collected

/-- What a call that applies the authorisation still owes of the amount. -/
def RedsysCall.Owes (before : ℤ) (db : RedsysDb) : RedsysCall → Prop
  | .settling payments _ => db.collected = before ∧ db.Ready payments
  | .counting _ => db.collected = before ∧ db.docs.entries.Fresh db.order
  | .finding _ => db.collected = before ∧ db.docs.entries.Fresh db.order ∧
    db.docs.entries.ofOrder db.order.tenantId db.order.order = db.order.amountCents
  | .splitting => db.collected = before
  | .syncing rows _ => db.docs.entries.Live rows ∧
    db.collected + (rows.map fun q => q.2.2.amount).sum = before + db.order.amountCents
  | .marking parts => (∀ part ∈ parts, 0 < part.2) ∧
    db.collected + (parts.map Prod.snd).sum = before + db.order.amountCents
  | .reviewing => db.collected ≤ before + db.order.amountCents
  | _ => True

structure Unclaimed (before : ℤ) (s : State RedsysDb RedsysCall) : Prop where
  collected : s.db.collected = before
  approved : s.db.approved = false
  alone : s.running.filter RedsysCall.pays = []

def Untouched (s : State RedsysDb RedsysCall) : Prop :=
  ∀ r ∈ s.running, r.idle ∨ r.charges

/-- The authorisation was applied, or left for review, or one call is at it. -/
def Claimed (before : ℤ) (s : State RedsysDb RedsysCall) : Prop :=
  s.db.approved = true ∧
  ((s.running.filter RedsysCall.pays = [] ∧
      (s.db.collected = before + s.db.order.amountCents ∨
        s.db.reviews ≠ [] ∧ s.db.collected ≤ before + s.db.order.amountCents)) ∨
    ∃ x, s.running.filter RedsysCall.pays = [x] ∧ x.Owes before s.db ∧
      (x.charges → Untouched s))

def StatusTells (before : ℤ) (s : State RedsysDb RedsysCall) : Prop :=
  match s.db.order.status with
  | .pending | .charging | .replaced => Unclaimed before s ∧ s.db.docs.entries.Fresh s.db.order ∧
    Untouched s ∧ ∀ r ∈ s.running, r.unsettled → s.db.Ready r.sent
  | .expired => Unclaimed before s ∧ s.db.docs.entries.Fresh s.db.order
  | .failed => Unclaimed before s
  | .paid => Claimed before s

structure Books (before : ℤ) (s : State RedsysDb RedsysCall) : Prop where
  one_charge : (s.running.filter RedsysCall.charges).length ≤ 1
  sent : ∀ r ∈ s.running, s.db.docs.entries.Sent s.db.order.order r.sent
  status : StatusTells before s

/-! ### Calls under way -/

theorem RedsysCall.sent_nil {r : RedsysCall} (other : r.charges = false) : r.sent = [] := by
  cases r <;> first | rfl | simp [charges] at other

theorem RedsysCall.charges_of_unsettled {r : RedsysCall} (open_ : r.unsettled) : r.charges := by
  cases r <;> simp [unsettled] at open_ <;> rfl

theorem sent_nil (e : Entries) (order : String) : e.Sent order [] := by
  intro r mem
  cases mem

section

variable {before : ℤ} {db db' : RedsysDb} {running : List RedsysCall} {i : ℕ} {r : RedsysCall}
  {rest : Option RedsysCall}

variable (books : Books before ⟨db, running⟩)
include books

theorem Books.charge (found : running[i]? = some r) (own : r.charges) : running.filter RedsysCall.charges = [r] := by
  have mem : r ∈ running.filter RedsysCall.charges :=
    List.mem_filter.mpr ⟨List.mem_of_getElem? found, own⟩
  obtain ⟨x, only⟩ := List.length_eq_one_iff.mp
    (le_antisymm books.one_charge (List.length_pos_of_mem mem))
  have same : r = x := by simpa [only] using mem
  rw [only, same]

variable {r' : RedsysCall} {x : RedsysCall} {order : String} {id : InvoiceId}
  {rows : List (InvoiceId × PaymentId × Payment)}

theorem Books.no_charge (found : running[i]? = some r) (own : r.charges) (mem : r' ∈ resume running i none) :
    r'.charges = false := by
  have gone : (resume running i none).filter RedsysCall.charges = [] :=
    (filter_resume_own found (books.charge found own) own).2
  have out := List.filter_eq_nil_iff.mp gone r' mem
  simpa using out

theorem Books.one_charge_resume (rest : Option RedsysCall) (found : running[i]? = some r)
    (charge : ∀ r', rest = some r' → r'.charges → r.charges) :
    ((resume running i rest).filter RedsysCall.charges).length ≤ 1 :=
  (length_filter_resume_le found charge).trans books.one_charge

theorem Books.sent_resume (rest : Option RedsysCall) (found : running[i]? = some r)
    (same : ∀ r', rest = some r' → r'.charges → r'.sent = r.sent) :
    ∀ r' ∈ resume running i rest, db.docs.entries.Sent db.order.order r'.sent := by
  intro r' mem
  rcases mem_resume mem with mem | goes
  · exact books.sent r' mem
  · by_cases own : r'.charges
    · rw [same r' goes own]
      exact books.sent r (List.mem_of_getElem? found)
    · rw [RedsysCall.sent_nil (by simpa using own)]
      exact sent_nil _ _

variable (found : running[i]? = some r)
include found

theorem Books.payer (pays : r.pays) : db.order.status = .paid ∧ db.approved = true ∧
      running.filter RedsysCall.pays = [r] ∧ r.Owes before db ∧
      (r.charges → Untouched ⟨db, running⟩) := by
  have mem : r ∈ running.filter RedsysCall.pays :=
    List.mem_filter.mpr ⟨List.mem_of_getElem? found, pays⟩
  have busy : running.filter RedsysCall.pays ≠ [] := List.ne_nil_of_mem mem
  have status := books.status
  rw [StatusTells] at status
  split at status
  · exact absurd status.1.alone busy
  · exact absurd status.1.alone busy
  · exact absurd status.1.alone busy
  · exact absurd status.1.alone busy
  · exact absurd status.alone busy
  · rename_i paid
    obtain ⟨approved, ⟨alone, -⟩ | ⟨x, only, owes, untouched⟩⟩ := status
    · exact absurd alone busy
    · obtain rfl : r = x := by
        rw [only] at mem
        exact List.mem_singleton.mp mem
      exact ⟨paid, approved, only, owes, untouched⟩

theorem Books.pay (pays : r.pays) (order : db'.order = db.order) (approved : db'.approved = db.approved)
    (sent : ∀ r' ∈ resume running i rest, db'.docs.entries.Sent db.order.order r'.sent)
    (uncharged : ∀ r', rest = some r' → r'.charges = false)
    (done : rest = none → db'.collected = before + db.order.amountCents ∨
      db'.reviews ≠ [] ∧ db'.collected ≤ before + db.order.amountCents)
    (goes_on : ∀ r', rest = some r' → r'.pays ∧ r'.Owes before db') : Books before ⟨db', resume running i rest⟩ := by
  obtain ⟨paid, was_approved, only, -, -⟩ := books.payer found pays
  refine ⟨books.one_charge_resume rest found fun r' goes charges => ?_,
    fun r' mem => by simpa [order] using sent r' mem, ?_⟩
  · rw [uncharged r' goes] at charges
    cases charges
  simp only [StatusTells, order, paid, Claimed]
  refine ⟨approved.trans was_approved, ?_⟩
  have own : (resume running i rest).filter RedsysCall.pays = rest.toList.filter RedsysCall.pays :=
    (filter_resume_own found only pays).2
  cases rest with
  | none => exact .inl ⟨own, by simpa [order] using done rfl⟩
  | some r' =>
    obtain ⟨joins, owes⟩ := goes_on r' rfl
    refine .inr ⟨r', by simpa [joins] using own, owes, fun charges => ?_⟩
    rw [uncharged r' rfl] at charges
    cases charges

theorem Books.pay_on (pays : r.pays) (order : db'.order = db.order) (approved : db'.approved = db.approved)
    (sent : ∀ payments, db.docs.entries.Sent db.order.order payments → db'.docs.entries.Sent db.order.order payments)
    (uncharged : r'.charges = false) (joins : r'.pays) (owes : r'.Owes before db') :
    Books before ⟨db', resume running i (some r')⟩ := by
  refine books.pay found pays order approved (fun x mem => ?_) ?_ (by simp) ?_
  · refine sent _ (books.sent_resume (some r') found ?_ x mem)
    intro r'' goes charges
    cases goes
    rw [uncharged] at charges
    cases charges
  · rintro _ ⟨⟩
    exact uncharged
  · rintro _ ⟨⟩
    exact ⟨joins, owes⟩

theorem Books.pay_end (pays : r.pays) (order : db'.order = db.order) (approved : db'.approved = db.approved)
    (entries : db'.docs.entries = db.docs.entries)
    (done : db'.collected = before + db.order.amountCents ∨
      db'.reviews ≠ [] ∧ db'.collected ≤ before + db.order.amountCents) :
    Books before ⟨db', resume running i none⟩ := by
  refine books.pay found pays order approved (fun x mem => ?_) (by simp) (fun _ => done) (by simp)
  rw [entries]
  exact books.sent_resume none found (by simp) x mem

omit books

/-- What a call does that neither applies the authorisation nor claims the order. -/
structure Bystands (db : RedsysDb) (r : RedsysCall) (db' : RedsysDb) (rest : Option RedsysCall) :
    Prop where
  order : db'.order = db.order
  approved : db'.approved = db.approved
  reviews : db'.reviews = db.reviews
  entries : db'.docs.entries = db.docs.entries
  docs : db'.docs = db.docs ∨ r.idle = false ∧ (r.charges → rest = none)
  out : r.pays = false
  stays : ∀ r', rest = some r' → r'.pays = false
  charge : ∀ r', rest = some r' → r'.charges → r.charges ∧ r'.sent = r.sent
  touch : r.idle ∨ r.charges → ∀ r', rest = some r' → r'.idle ∨ r'.charges
  unsettled : ∀ r', rest = some r' → r'.unsettled → r.unsettled

variable (step : Bystands db r db' rest)
include step

theorem Bystands.untouched (untouched : Untouched ⟨db, running⟩) : Untouched ⟨db', resume running i rest⟩ := by
  intro r' mem
  rcases mem_resume mem with mem | goes
  · exact untouched r' mem
  · exact step.touch (untouched r (List.mem_of_getElem? found)) r' goes

theorem Bystands.unclaimed (unclaimed : Unclaimed before ⟨db, running⟩) :
    Unclaimed before ⟨db', resume running i rest⟩ := by
  refine ⟨?_, step.approved.trans unclaimed.approved, ?_⟩
  · simpa [RedsysDb.collected, step.entries] using unclaimed.collected
  · rw [filter_resume_other found step.out step.stays]
    exact unclaimed.alone

omit found

variable {payments : List ReservedPayment} {e : Entries}

theorem Bystands.ready (same : db'.docs = db.docs) (ready : db.Ready payments) : db'.Ready payments :=
  ⟨by rw [same]; exact ready.reserved, by rw [step.order]; exact ready.total⟩

theorem Bystands.owes (same : x.charges → db'.docs = db.docs) (owes : x.Owes before db) : x.Owes before db' := by
  have collected : db'.collected = db.collected := by rw [RedsysDb.collected, step.entries]; rfl
  cases x with
  | settling => exact ⟨collected.trans owes.1, step.ready (same rfl) owes.2⟩
  | claiming | expiring | failing | answering | resolving => trivial
  | _ =>
    simp only [RedsysCall.Owes, collected, step.order, step.entries] at owes ⊢
    exact owes

omit step

include books

theorem Books.bystand (found : running[i]? = some r) (step : Bystands db r db' rest) :
    Books before ⟨db', resume running i rest⟩ := by
  have fresh : db.docs.entries.Fresh db.order → db'.docs.entries.Fresh db'.order := by
    intro fresh
    rw [step.entries, step.order]
    exact fresh
  -- the payments of a charge that is not settled are as they were
  have ready : Untouched ⟨db, running⟩ → (∀ r' ∈ running, r'.unsettled → db.Ready r'.sent) →
      ∀ r' ∈ resume running i rest, r'.unsettled → db'.Ready r'.sent := by
    intro untouched before_ready r' mem open_
    rcases step.docs with same | ⟨busy, ends⟩
    · refine step.ready same ?_
      rcases mem_resume mem with mem | goes
      · exact before_ready r' mem open_
      · rw [(step.charge r' goes (RedsysCall.charges_of_unsettled open_)).2]
        exact before_ready r (List.mem_of_getElem? found) (step.unsettled r' goes open_)
    · have own : r.charges := by
        simpa [busy] using untouched r (List.mem_of_getElem? found)
      rw [ends own] at mem
      have gone := books.no_charge found own mem
      rw [RedsysCall.charges_of_unsettled open_] at gone
      cases gone
  refine ⟨books.one_charge_resume rest found fun r' goes charges => (step.charge r' goes charges).1,
    ?_, ?_⟩
  · simp only [step.entries, step.order]
    exact books.sent_resume rest found fun r' goes charges => (step.charge r' goes charges).2
  · have status := books.status
    simp only [StatusTells, step.order] at status ⊢
    cases stored : db.order.status with
    | pending | charging | replaced =>
      simp only [stored] at status ⊢
      obtain ⟨unclaimed, was_fresh, untouched, was_ready⟩ := status
      exact ⟨step.unclaimed found unclaimed, step.order ▸ fresh was_fresh,
        step.untouched found untouched, ready untouched was_ready⟩
    | expired =>
      simp only [stored] at status ⊢
      exact ⟨step.unclaimed found status.1, step.order ▸ fresh status.2⟩
    | failed =>
      simp only [stored] at status ⊢
      exact step.unclaimed found status
    | paid =>
      simp only [stored] at status ⊢
      obtain ⟨approved, applied⟩ := status
      refine ⟨step.approved.trans approved, ?_⟩
      rw [filter_resume_other found step.out step.stays]
      rcases applied with ⟨alone, applied⟩ | ⟨x, only, owes, untouched⟩
      · refine .inl ⟨alone, ?_⟩
        simpa [RedsysDb.collected, step.entries, step.order, step.reviews] using applied
      · refine .inr ⟨x, only, step.owes (fun charges => ?_) owes, fun charges =>
          step.untouched found (untouched charges)⟩
        refine step.docs.resolve_right ?_
        rintro ⟨busy, -⟩
        -- the charge that applies it is the only one, and this call is another
        have own : r.charges := by
          simpa [busy] using untouched charges r (List.mem_of_getElem? found)
        have mem : x ∈ running.filter RedsysCall.pays := by simp [only]
        obtain ⟨stored, pays⟩ := List.mem_filter.mp mem
        have same : x ∈ running.filter RedsysCall.charges := List.mem_filter.mpr ⟨stored, charges⟩
        rw [books.charge found own, List.mem_singleton] at same
        rw [same, step.out] at pays
        cases pays

/-! ### Claims -/

theorem Books.claim {told : Bool} (found : running[i]? = some (.claiming told))
    (claimable : db.order.status.claimable) :
    Books before ⟨({ db with approved := db.approved || told }).setStatus (answeredStatus told),
      resume running i (some (.counting told))⟩ := by
  have claimed : Unclaimed before ⟨db, running⟩ ∧ db.docs.entries.Fresh db.order := by
    have status := books.status
    simp only [StatusTells] at status
    cases stored : db.order.status with
    | pending | charging | replaced =>
      simp only [stored] at status
      exact ⟨status.1, status.2.1⟩
    | expired =>
      simp only [stored] at status
      exact status
    | failed | paid => simp [stored, RedsysOrderStatus.claimable] at claimable
  obtain ⟨unclaimed, fresh⟩ := claimed
  have one_charge := books.one_charge_resume (some (.counting told)) found
    (by simp [RedsysCall.charges])
  have sent := books.sent_resume (some (.counting told)) found (by simp [RedsysCall.charges])
  refine ⟨one_charge, sent, ?_⟩
  cases told with
  | true =>
    refine ⟨by simp [RedsysDb.setStatus], .inr ⟨.counting true, ?_, ⟨unclaimed.collected, ?_⟩, ?_⟩⟩
    · exact filter_resume_first found unclaimed.alone rfl
    · exact ⟨fresh.waits, fresh.total⟩
    · intro charges
      simp [RedsysCall.charges] at charges
  | false =>
    refine ⟨unclaimed.collected, ?_, ?_⟩
    · simpa [RedsysDb.setStatus] using unclaimed.approved
    · have same : (resume running i (some (.counting false))).filter RedsysCall.pays =
          running.filter RedsysCall.pays :=
        filter_resume_other found rfl (by simp [RedsysCall.pays])
      exact same.trans unclaimed.alone

theorem Books.charging (charging : db.order.status = .charging) :
    Unclaimed before ⟨db, running⟩ ∧ db.docs.entries.Fresh db.order ∧ Untouched ⟨db, running⟩ ∧
      ∀ r ∈ running, r.unsettled → db.Ready r.sent := by
  have status := books.status
  simpa [StatusTells, charging] using status

theorem Books.expire (found : running[i]? = some .expiring) (charging : db.order.status = .charging) :
    Books before ⟨db.setStatus .expired, resume running i (some .failing)⟩ := by
  obtain ⟨unclaimed, fresh, -, -⟩ := books.charging charging
  have one_charge := books.one_charge_resume (some .failing) found (by simp [RedsysCall.charges])
  have sent := books.sent_resume (some .failing) found (by simp [RedsysCall.charges])
  refine ⟨one_charge, sent, ⟨unclaimed.collected, unclaimed.approved, ?_⟩, fresh.waits, fresh.total⟩
  have same : (resume running i (some .failing)).filter RedsysCall.pays =
      running.filter RedsysCall.pays :=
    filter_resume_other found rfl (by simp [RedsysCall.pays])
  exact same.trans unclaimed.alone

theorem Books.answer {told : Bool} (found : running[i]? = some (.resolving payments told))
    (charging : db.order.status = .charging) :
    Books before ⟨({ db with approved := db.approved || told }).setStatus (answeredStatus told),
      resume running i (some (.settling payments (if told then .succeeded else .failed)))⟩ := by
  obtain ⟨unclaimed, fresh, untouched, ready⟩ := books.charging charging
  have mem := List.mem_of_getElem? found
  have one_charge := books.one_charge_resume
    (some (.settling payments (if told then .succeeded else .failed))) found fun _ _ _ => rfl
  have sent := books.sent_resume
    (some (.settling payments (if told then .succeeded else .failed))) found
    (by simp [RedsysCall.sent])
  refine ⟨one_charge, sent, ?_⟩
  cases told with
  | true =>
    refine ⟨by simp [RedsysDb.setStatus],
      .inr ⟨_, filter_resume_first found unclaimed.alone rfl, ⟨unclaimed.collected, ?_⟩, ?_⟩⟩
    · have reserved := ready _ mem rfl
      exact ⟨reserved.reserved, reserved.total⟩
    · intro _ r' mem'
      have mem' : r' ∈ resume running i (some (.settling payments .succeeded)) := mem'
      rcases mem_resume mem' with mem' | goes
      · exact untouched r' mem'
      · cases goes
        exact .inr rfl
  | false =>
    refine ⟨unclaimed.collected, ?_, ?_⟩
    · simpa [RedsysDb.setStatus] using unclaimed.approved
    · have same : (resume running i (some (.settling payments .failed))).filter RedsysCall.pays =
          running.filter RedsysCall.pays :=
        filter_resume_other found rfl (by simp [RedsysCall.pays])
      exact same.trans unclaimed.alone

omit books

/-! ### Steps -/

theorem Bystands.told {told : Bool} (known : told = true → db.approved = true) (out : r.pays = false)
    (stays : ∀ r', rest = some r' → r'.pays = false)
    (charge : ∀ r', rest = some r' → r'.charges → r.charges ∧ r'.sent = r.sent)
    (touch : r.idle ∨ r.charges → ∀ r', rest = some r' → r'.idle ∨ r'.charges)
    (unsettled : ∀ r', rest = some r' → r'.unsettled → r.unsettled) :
    Bystands db r { db with approved := db.approved || told } rest := by
  refine ⟨rfl, ?_, rfl, rfl, .inl rfl, out, stays, charge, touch, unsettled⟩
  cases told with
  | true => simp [known rfl]
  | false => simp

theorem Bystands.same (out : r.pays = false) (stays : ∀ r', rest = some r' → r'.pays = false)
    (charge : ∀ r', rest = some r' → r'.charges → r.charges ∧ r'.sent = r.sent)
    (touch : r.idle ∨ r.charges → ∀ r', rest = some r' → r'.idle ∨ r'.charges)
    (unsettled : ∀ r', rest = some r' → r'.unsettled → r.unsettled) :
    Bystands db r db rest :=
  ⟨rfl, rfl, rfl, rfl, .inl rfl, out, stays, charge, touch, unsettled⟩

abbrev BooksNext (before : ℤ) (db : RedsysDb) (running : List RedsysCall) (i : ℕ) (r : RedsysCall)
    (input : RedsysInput) : Prop :=
  Books before ⟨(nextRedsys db r input).1, resume running i (nextRedsys db r input).2⟩

include books

theorem Books.claiming {told : Bool} (found : running[i]? = some (.claiming told))
    (inOrder : told = true → db.order.status ≠ .failed) (input : RedsysInput) :
    BooksNext before db running i (.claiming told) input := by
  simp only [BooksNext, nextRedsys]
  split
  · rename_i claimable
    exact books.claim found claimable
  · rename_i taken
    refine books.bystand found
      (Bystands.told (fun was => ?_) rfl (by simp) (by simp) (by simp) (by simp))
    have paid : db.order.status = .paid := by
      have left := inOrder was
      cases stored : db.order.status <;>
        simp [stored, RedsysOrderStatus.claimable] at taken left ⊢
    have status := books.status
    simp only [StatusTells, paid] at status
    exact status.1

theorem Books.counting {told : Bool} (found : running[i]? = some (.counting told)) (input : RedsysInput) :
    BooksNext before db running i (.counting told) input := by
  simp only [BooksNext, nextRedsys]
  cases told with
  | false =>
    refine books.bystand found (.same rfl ?_ ?_ (by simp [RedsysCall.idle, RedsysCall.charges]) ?_)
    all_goals
      intro r' goes
      split at goes <;> simp at goes
      subst goes
      simp [RedsysCall.pays, RedsysCall.charges, RedsysCall.unsettled]
  | true =>
    obtain ⟨-, -, -, ⟨collected, fresh⟩, -⟩ := books.payer found rfl
    split
    · rename_i waits
      obtain ⟨id, paymentId, x, own⟩ := ofOrder_of_inFlight waits
      exact books.pay_on found rfl rfl rfl (fun _ h => h) rfl rfl
        ⟨collected, fresh, fresh.total id paymentId x own⟩
    · exact books.pay_on found rfl rfl rfl (fun _ h => h) rfl rfl collected

omit books

theorem live_group (fresh : db.docs.entries.Fresh db.order) : db.docs.entries.Live db.group :=
  ⟨group_apart db, fun q mem => ⟨q.2.2.entry, fresh.waits _ _ _ (mem_group mem), rfl⟩⟩

theorem Books.finding {told : Bool} (books : Books before ⟨db, running⟩)
    (found : running[i]? = some (.finding told)) (input : RedsysInput) :
    BooksNext before db running i (.finding told) input := by
  simp only [BooksNext, nextRedsys]
  cases told with
  | false =>
    refine books.bystand found (.same rfl ?_ ?_ (by simp [RedsysCall.idle, RedsysCall.charges]) ?_)
    all_goals
      rintro _ ⟨⟩
      simp [RedsysCall.pays, RedsysCall.charges, RedsysCall.unsettled]
  | true =>
    obtain ⟨-, -, -, ⟨collected, fresh, total⟩, -⟩ := books.payer found rfl
    refine books.pay_on found rfl rfl rfl (fun _ h => h) rfl rfl ⟨live_group fresh, ?_⟩
    rw [group_sum, total, collected]

theorem sent_collect {paymentId : PaymentId} (sent : e.Sent order payments) :
    (e.collect id paymentId).Sent order payments := by
  intro r mem
  obtain ⟨x, found, own⟩ := sent r mem
  by_cases same : (r.invoiceId, r.paymentId) = (id, paymentId)
  · cases same
    exact ⟨_, Entries.entry_collect_self found, own⟩
  · exact ⟨x, by rw [Entries.entry_collect_other same, found], own⟩

theorem sent_add {x : Entry} (sent : e.Sent order payments) :
    (e.add id x).Sent order payments := by
  intro r mem
  obtain ⟨y, found, own⟩ := sent r mem
  exact ⟨y, Entries.entry_add found, own⟩

theorem Entries.Live.collect {q : InvoiceId × PaymentId × Payment} (live : e.Live (q :: rows)) :
    (e.collect q.1 q.2.1).Live rows := by
  obtain ⟨fresh, apart⟩ := List.nodup_cons.mp live.apart
  refine ⟨apart, fun q' mem => ?_⟩
  obtain ⟨x, waits, amount⟩ := live.waits q' (List.mem_cons_of_mem _ mem)
  have other : (q'.1, q'.2.1) ≠ (q.1, q.2.1) := fun same => fresh (List.mem_map.mpr ⟨q', mem, same⟩)
  exact ⟨x, ⟨by rw [entry_collect_other other, waits.found], waits.waits, waits.gateway,
    waits.nonneg⟩, amount⟩

theorem Books.syncing {told : Bool} (books : Books before ⟨db, running⟩)
    (found : running[i]? = some (.syncing rows told)) (input : RedsysInput) :
    BooksNext before db running i (.syncing rows told) input := by
  cases rows with
  | nil =>
    simp only [BooksNext, nextRedsys]
    cases told with
    | false =>
      exact books.bystand found (.same rfl (by simp) (by simp) (by simp) (by simp))
    | true =>
      obtain ⟨-, -, -, ⟨-, total⟩, -⟩ := books.payer found rfl
      exact books.pay_end found rfl rfl rfl rfl (.inl (by simpa using total))
  | cons q rows =>
    obtain ⟨id, paymentId, p⟩ := q
    simp only [BooksNext, nextRedsys]
    cases told with
    | false =>
      refine books.bystand found ⟨rfl, rfl, rfl, ?_, .inr ⟨rfl, by simp [RedsysCall.charges]⟩, rfl,
        ?_, ?_, by simp [RedsysCall.idle, RedsysCall.charges], ?_⟩
      · exact entries_modify_same fun a _ => entries_syncFailed a _ _ paymentId
      all_goals
        rintro _ ⟨⟩
        simp [RedsysCall.pays, RedsysCall.charges, RedsysCall.unsettled]
    | true =>
      obtain ⟨-, -, -, ⟨live, total⟩, -⟩ := books.payer found rfl
      obtain ⟨x, waits, amount⟩ := live.waits _ List.mem_cons_self
      have entries := sync_collects waits input.clock (some input.clock.now)
      refine books.pay_on found rfl rfl rfl ?_ rfl rfl ⟨?_, ?_⟩
      · intro payments sent
        simp only [if_true, entries]
        exact sent_collect sent
      · simp only [if_true, entries]
        exact live.collect
      · simp only [RedsysDb.collected, if_true, entries]
        rw [Entries.collected_collect waits.found waits.waits, amount]
        simp only [List.map_cons, List.sum_cons, RedsysDb.collected] at total
        lia

theorem splitAmount_sum (amount : ℤ) (rows : List (InvoiceId × Account)) (nonneg : 0 ≤ amount) :
    ((splitAmount amount rows).1.map Prod.snd).sum + (splitAmount amount rows).2 = amount ∧
      0 ≤ (splitAmount amount rows).2 ∧ ∀ part ∈ (splitAmount amount rows).1, 0 < part.2 := by
  induction rows generalizing amount with
  | nil => simp [splitAmount, nonneg]
  | cons d rest ih =>
    obtain ⟨id, a⟩ := d
    simp only [splitAmount]
    obtain ⟨sum, left, positive⟩ := ih
      (amount - min amount (max 0 (a.invoice.total - a.invoice.amountPaid))) (by omega)
    refine ⟨?_, left, ?_⟩
    · split
      · simp only [List.map_cons, List.sum_cons]
        omega
      · omega
    · split
      · rename_i some
        intro part mem
        rcases List.mem_cons.mp mem with rfl | mem
        · exact some
        · exact positive part mem
      · exact positive

theorem splitOrder_sum (db : RedsysDb) : (∀ part ∈ db.splitOrder, 0 < part.2) ∧
    (db.splitOrder.map Prod.snd).sum = db.order.amountCents := by
  obtain ⟨sum, left, positive⟩ :=
    splitAmount_sum db.order.amountCents db.payableDocs db.order.positive.le
  have amount := db.order.positive
  simp only [RedsysDb.splitOrder]
  split
  · rename_i more
    simp only [Bool.or_eq_true, decide_eq_true_eq, List.isEmpty_iff] at more
    constructor
    · intro part mem
      rcases List.mem_append.mp mem with mem | mem
      · exact positive part mem
      · rw [List.mem_singleton.mp mem]
        simp only
        split <;> omega
    · rw [List.map_append, List.sum_append]
      simp only [List.map_cons, List.map_nil, List.sum_cons, List.sum_nil, add_zero]
      split
      · exact sum
      · rename_i spent
        have none_left := more.resolve_left spent
        simp [none_left]
  · rename_i spent
    simp only [Bool.or_eq_true, decide_eq_true_eq, not_or] at spent
    exact ⟨positive, by omega⟩

include books

theorem Books.marking {parts : List (InvoiceId × ℤ)} (found : running[i]? = some (.marking parts))
    (input : RedsysInput) : BooksNext before db running i (.marking parts) input := by
  obtain ⟨-, -, -, ⟨positive, total⟩, -⟩ := books.payer found rfl
  cases parts with
  | nil =>
    simp only [BooksNext, nextRedsys]
    exact books.pay_end found rfl rfl rfl rfl (.inl (by simpa using total))
  | cons part rest =>
    obtain ⟨id, cents⟩ := part
    have positive_rest : ∀ part ∈ rest, 0 < part.2 := fun part mem =>
      positive part (List.mem_cons_of_mem _ mem)
    simp only [List.map_cons, List.sum_cons] at total
    simp only [BooksNext, nextRedsys]
    cases marked : db.markPart input.clock id cents with
    | some db' =>
      obtain ⟨order, reviews, approved, entries, document⟩ := markPart_adds marked
      obtain ⟨d, document⟩ := Option.isSome_iff_exists.mp document
      refine books.pay_on found rfl order approved ?_ rfl rfl ⟨positive_rest, ?_⟩
      · intro payments sent
        rw [entries]
        exact sent_add sent
      · rw [RedsysDb.collected, entries, Entries.collected_add document, order]
        simp only [Entry.collectedAmount, if_true]
        rw [← RedsysDb.collected]
        lia
    | none =>
      refine books.pay_on found rfl rfl rfl (fun _ h => h) rfl rfl ?_
      have owed : 0 ≤ (rest.map Prod.snd).sum := List.sum_nonneg fun x mem => by
        obtain ⟨part, own, rfl⟩ := List.mem_map.mp mem
        exact (positive_rest part own).le
      have first : 0 < cents := positive _ List.mem_cons_self
      simp only [RedsysCall.Owes]
      lia

theorem Books.answering (found : running[i]? = some (.answering payments)) (input : RedsysInput) :
    BooksNext before db running i (.answering payments) input := by
  simp only [BooksNext, nextRedsys]
  refine books.bystand found (.same rfl ?_ ?_ ?_ ?_)
  · rintro _ ⟨⟩
    cases input.answer <;> rfl
  · rintro _ ⟨⟩ _
    cases input.answer <;> exact ⟨rfl, rfl⟩
  · rintro _ _ ⟨⟩
    cases input.answer <;> exact .inr rfl
  · exact fun _ _ _ => rfl

theorem Books.resolving {told : Bool} (found : running[i]? = some (.resolving payments told))
    (inOrder : told = true → db.order.status = .charging ∨ db.order.status = .paid) (input : RedsysInput) :
    BooksNext before db running i (.resolving payments told) input := by
  simp only [BooksNext, nextRedsys]
  split
  · rename_i charging
    exact books.answer found charging
  · rename_i taken
    refine books.bystand found (Bystands.told (fun was => ?_) rfl ?_ ?_ ?_ ?_)
    · have paid := (inOrder was).resolve_left taken
      have status := books.status
      simp only [StatusTells, paid] at status
      exact status.1
    · rintro _ ⟨⟩
      rfl
    · rintro _ ⟨⟩ _
      exact ⟨rfl, rfl⟩
    · rintro _ _ ⟨⟩
      exact .inr rfl
    · exact fun _ _ _ => rfl

theorem Books.settling {result : ChargeResult} (found : running[i]? = some (.settling payments result))
    (input : RedsysInput) : BooksNext before db running i (.settling payments result) input := by
  simp only [BooksNext, nextRedsys]
  by_cases authorised : result = .succeeded
  · subst authorised
    obtain ⟨-, -, -, ⟨collected, ready⟩, -⟩ := books.payer found rfl
    refine books.pay found rfl rfl rfl (fun r' mem => ?_) (by simp) (fun _ => .inl ?_) (by simp)
    · rw [RedsysCall.sent_nil (books.no_charge found rfl mem)]
      exact sent_nil _ _
    · rw [RedsysDb.collected, entries_collected, collected_answered ready.reserved, ready.total,
        ← entries_collected, ← collected]
      rfl
  · refine books.bystand found ⟨rfl, rfl, rfl, ?_, .inr ⟨rfl, fun _ => rfl⟩, ?_, by simp, by simp,
      by simp, by simp⟩
    · exact entries_answered_same authorised (books.sent _ (List.mem_of_getElem? found))
    · simpa [RedsysCall.pays] using authorised

theorem Books.next (found : running[i]? = some r) {input : RedsysInput} (inOrder : redsysInOrder db r input) :
    BooksNext before db running i r input := by
  cases r with
  | claiming told =>
    refine books.claiming found (fun was => ?_) input
    subst was
    simpa [redsysInOrder] using inOrder
  | counting told => exact books.counting found input
  | finding told => exact books.finding found input
  | syncing rows told => exact books.syncing found input
  | splitting =>
    simp only [BooksNext, nextRedsys]
    obtain ⟨-, -, -, collected, -⟩ := books.payer found rfl
    obtain ⟨positive, total⟩ := splitOrder_sum db
    exact books.pay_on found rfl rfl rfl (fun _ h => h) rfl rfl
      ⟨positive, by rw [total, collected]⟩
  | marking parts => exact books.marking found input
  | reviewing =>
    obtain ⟨-, -, -, owes, -⟩ := books.payer found rfl
    exact books.pay_end found rfl rfl rfl rfl (.inr ⟨List.cons_ne_nil _ _, owes⟩)
  | expiring =>
    simp only [BooksNext, nextRedsys]
    split
    · rename_i charging
      exact books.expire found charging
    · exact books.bystand found (.same rfl (by simp) (by simp) (by simp) (by simp))
  | failing =>
    simp only [BooksNext, nextRedsys]
    exact books.bystand found ⟨rfl, rfl, rfl, entries_failAwaiting db,
      .inr ⟨rfl, by simp [RedsysCall.charges]⟩, rfl, by simp, by simp, by simp, by simp⟩
  | answering payments => exact books.answering found input
  | resolving payments told =>
    refine books.resolving found (fun was => ?_) input
    subst was
    simpa [redsysInOrder] using inOrder
  | settling payments result => exact books.settling found input

omit books

theorem RedsysCall.Owes.bound (pays : x.pays) (owes : x.Owes before db) :
    db.collected ≤ before + db.order.amountCents := by
  have amount := db.order.positive
  cases x with
  | counting | finding | settling =>
    have collected := owes.1
    lia
  | splitting =>
    have collected : db.collected = before := owes
    lia
  | syncing rows =>
    obtain ⟨live, total⟩ := owes
    have owed : 0 ≤ (rows.map fun q => q.2.2.amount).sum := List.sum_nonneg fun y mem => by
      obtain ⟨q, row, rfl⟩ := List.mem_map.mp mem
      obtain ⟨x, waits, same⟩ := live.waits q row
      exact same ▸ waits.nonneg
    lia
  | marking parts =>
    obtain ⟨positive, total⟩ := owes
    have owed : 0 ≤ (parts.map Prod.snd).sum := List.sum_nonneg fun y mem => by
      obtain ⟨part, own, rfl⟩ := List.mem_map.mp mem
      exact (positive part own).le
    lia
  | reviewing => exact owes
  | _ => simp [RedsysCall.pays] at pays

theorem Books.start {request : RedsysRequest} (books : Books before ⟨db, running⟩)
    (entered : enterRedsys db request = some r) : Books before ⟨db, running ++ [r]⟩ := by
  have idle : r.idle ∧ r.pays = false ∧ r.charges = false := by
    cases request with
    | notify told =>
      simp only [enterRedsys] at entered
      split at entered <;> cases entered
      exact ⟨rfl, rfl, rfl⟩
    | sweep =>
      simp only [enterRedsys] at entered
      split at entered <;> cases entered
      exact ⟨rfl, rfl, rfl⟩
  obtain ⟨idle, out, uncharged⟩ := idle
  have pays : (running ++ [r]).filter RedsysCall.pays = running.filter RedsysCall.pays := by
    simp [List.filter_append, out]
  have charges : (running ++ [r]).filter RedsysCall.charges =
      running.filter RedsysCall.charges := by
    simp [List.filter_append, uncharged]
  have unclaimed : Unclaimed before ⟨db, running⟩ → Unclaimed before ⟨db, running ++ [r]⟩ :=
    fun unclaimed => ⟨unclaimed.collected, unclaimed.approved, pays.trans unclaimed.alone⟩
  have untouched : Untouched ⟨db, running⟩ → Untouched ⟨db, running ++ [r]⟩ := by
    intro untouched r' mem
    rcases List.mem_append.mp mem with mem | mem
    · exact untouched r' mem
    · rw [List.mem_singleton.mp mem]
      exact .inl idle
  refine ⟨charges ▸ books.one_charge, fun r' mem => ?_, ?_⟩
  · rcases List.mem_append.mp mem with mem | mem
    · exact books.sent r' mem
    · rw [List.mem_singleton.mp mem, RedsysCall.sent_nil uncharged]
      exact sent_nil _ _
  · have status := books.status
    simp only [StatusTells] at status ⊢
    cases stored : db.order.status with
    | pending | charging | replaced =>
      simp only [stored] at status ⊢
      obtain ⟨was_unclaimed, fresh, was_untouched, ready⟩ := status
      refine ⟨unclaimed was_unclaimed, fresh, untouched was_untouched, fun r' mem open_ => ?_⟩
      rcases List.mem_append.mp mem with mem | mem
      · exact ready r' mem open_
      · rw [List.mem_singleton.mp mem] at open_
        rw [RedsysCall.charges_of_unsettled open_] at uncharged
        cases uncharged
    | expired =>
      simp only [stored] at status ⊢
      exact ⟨unclaimed status.1, status.2⟩
    | failed =>
      simp only [stored] at status ⊢
      exact unclaimed status
    | paid =>
      simp only [stored, Claimed, pays] at status ⊢
      obtain ⟨approved, applied⟩ := status
      refine ⟨approved, applied.imp_right ?_⟩
      rintro ⟨x, only, owes, was_untouched⟩
      exact ⟨x, only, owes, fun charges => untouched (was_untouched charges)⟩

/-- Once the calls are over, what was authorised was collected or left for review. -/
theorem Books.finished (books : Books before ⟨db, []⟩) (approved : db.approved = true) :
    db.collected = before + db.order.amountCents ∨ db.reviews ≠ [] := by
  have denied : ¬Unclaimed before ⟨db, []⟩ := by
    intro unclaimed
    rw [unclaimed.approved] at approved
    cases approved
  have status := books.status
  rw [StatusTells] at status
  split at status
  · exact absurd status.1 denied
  · exact absurd status.1 denied
  · exact absurd status.1 denied
  · exact absurd status.1 denied
  · exact absurd status denied
  · obtain ⟨-, ⟨-, all | ⟨part, -⟩⟩ | ⟨x, only, -, -⟩⟩ := status
    · exact .inl all
    · exact .inr part
    · cases only

theorem Books.bound {s : State RedsysDb RedsysCall} (books : Books before s) :
    s.db.collected ≤ before + s.db.order.amountCents ∧
      (s.db.approved = false → s.db.collected = before) := by
  have amount := s.db.order.positive
  have unclaimed : Unclaimed before s → s.db.collected ≤ before + s.db.order.amountCents ∧
      (s.db.approved = false → s.db.collected = before) := by
    intro unclaimed
    have collected := unclaimed.collected
    exact ⟨by lia, fun _ => collected⟩
  have status := books.status
  rw [StatusTells] at status
  split at status
  · exact unclaimed status.1
  · exact unclaimed status.1
  · exact unclaimed status.1
  · exact unclaimed status.1
  · exact unclaimed status
  · obtain ⟨approved, applied⟩ := status
    refine ⟨?_, fun none_yet => by rw [approved] at none_yet; cases none_yet⟩
    rcases applied with ⟨-, all | ⟨-, part⟩⟩ | ⟨x, only, owes, -⟩
    · exact all.le
    · exact part
    · have mem : x ∈ s.running.filter RedsysCall.pays := by simp [only]
      exact owes.bound (List.mem_filter.mp mem).2

end

theorem nextRedsys_amount (db : RedsysDb) (r : RedsysCall) (input : RedsysInput) :
    (nextRedsys db r input).1.order.amountCents = db.order.amountCents := by
  cases r with
  | claiming | expiring | resolving =>
    simp only [nextRedsys]
    split <;> rfl
  | syncing rows =>
    cases rows <;> rfl
  | marking parts =>
    cases parts with
    | nil => rfl
    | cons part rest =>
      simp only [nextRedsys]
      cases marked : db.markPart input.clock part.1 part.2 with
      | some db' => simp only [(markPart_adds marked).1]
      | none => rfl
  | _ => rfl

/-- An order as it is sent to the bank: a payment with redirection, or the charge of a saved card with
the payments reserved for it. -/
structure RedsysStart (s : State RedsysDb RedsysCall) : Prop where
  approved : s.db.approved = false
  reviews : s.db.reviews = []
  fresh : s.db.docs.entries.Fresh s.db.order
  sent : (s.db.order.status = .pending ∨ s.db.order.status = .replaced) ∧ s.running = [] ∨
    s.db.order.status = .charging ∧ ∃ payments, s.running = [.answering payments] ∧
      s.db.Ready payments ∧ s.db.docs.entries.Sent s.db.order.order payments

theorem RedsysStart.books {s : State RedsysDb RedsysCall} (start : RedsysStart s) :
    Books s.db.collected s := by
  rcases start.sent with ⟨status, quiet⟩ | ⟨charging, payments, running, ready, sent⟩
  · have none_mem : ∀ r, r ∉ s.running := by simp [quiet]
    refine ⟨by simp [quiet], fun r mem => absurd mem (none_mem r), ?_⟩
    rcases status with status | status
    all_goals
      simp only [StatusTells, status]
      exact ⟨⟨rfl, start.approved, by simp [quiet]⟩, start.fresh,
        fun r mem => absurd mem (none_mem r), fun r mem => absurd mem (none_mem r)⟩
  · have only : ∀ r, r ∈ s.running → r = .answering payments := by simp [running]
    refine ⟨by rw [running]; exact le_refl 1, fun r mem => ?_, ?_⟩
    · rw [only r mem]
      exact sent
    · simp only [StatusTells, charging]
      refine ⟨⟨rfl, start.approved, by simp [running, RedsysCall.pays]⟩, start.fresh,
        fun r mem => ?_, fun r mem _ => ?_⟩
      · rw [only r mem]
        exact .inr rfl
      · rw [only r mem]
        exact ready

/-- In every run where no authorisation finds the order failed, or the charge given up, no more is
collected than the amount of the order, nothing before the bank has authorised it, and once the calls
are over the amount is collected or left for review. -/
theorem approved_applied_once {start s : State RedsysDb RedsysCall}
    (run : Run redsysSystem.step
      (System.admits fun db call input => redsysInOrder db call input = true) start s)
    (sent : RedsysStart start) :
    s.db.docs.sum Account.collected ≤
      start.db.docs.sum Account.collected + start.db.order.amountCents ∧
    (s.db.approved = false →
      s.db.docs.sum Account.collected = start.db.docs.sum Account.collected) ∧
    (s.running = [] → s.db.approved = true →
      s.db.docs.sum Account.collected =
        start.db.docs.sum Account.collected + start.db.order.amountCents ∨ s.db.reviews ≠ []) := by
  have all := System.invariant_with (P := fun db => db.order.amountCents = start.db.order.amountCents)
    (Q := fun _ _ => True) (J := Books start.db.collected) run rfl (fun _ _ => trivial) sent.books
    (fun _ _ => trivial)
    (fun {db r input db' rest} same _ _ made => by
      have result : nextRedsys db r input = (db', rest) := Option.some.inj made
      have amount := nextRedsys_amount db r input
      rw [result] at amount
      exact ⟨amount.trans same, fun _ _ => trivial, fun _ _ => trivial⟩)
    (fun _ books entered => books.start entered)
    (fun {db running i r input db' rest} _ _ books inOrder found made => by
      have result : nextRedsys db r input = (db', rest) := Option.some.inj made
      have books' := books.next found inOrder
      rwa [BooksNext, result] at books')
  obtain ⟨amount, -, books⟩ := all
  simp only [← entries_collected]
  refine ⟨?_, books.bound.2, fun finished approved => ?_⟩
  · rw [← amount]
    exact books.bound.1
  · obtain ⟨db, running⟩ := s
    subst finished
    rw [← amount]
    exact books.finished approved

def pendingOrder : RedsysDb where
  docs := Table.empty.push ⟨issuedInvoice 5000, .empty⟩
  bundledWith := fun _ => none
  order := ⟨"0001", (issuedInvoice 5000).tenantId, 0, [], 5000, by decide, .pending⟩
  reviews := []
  approved := false

def redsysNoon : RedsysInput := ⟨noon 20000, .unknown⟩

theorem pendingOrder_start : RedsysStart ⟨pendingOrder, []⟩ where
  approved := rfl
  reviews := rfl
  fresh := by
    have none_yet : ∀ id paymentId x, ¬pendingOrder.docs.entries.OfOrder
        pendingOrder.order.tenantId pendingOrder.order.order id paymentId x := by
      rintro id paymentId x ⟨⟨d, found, -, payment⟩, -⟩
      have row := Table.find_eq_some.mp found
      simp only [pendingOrder, Documents.entries, Table.view, Table.rows_push, Table.empty,
        List.nil_append, List.map_cons, List.map_nil, List.mem_singleton, Prod.mk.injEq] at row
      rw [row.2] at payment
      cases payment
    exact ⟨fun id paymentId x own => absurd own (none_yet id paymentId x),
      fun id paymentId x own => absurd own (none_yet id paymentId x)⟩
  sent := .inl ⟨.inl rfl, rfl⟩

theorem approved_applied_once_paid : ∃ s, Run redsysSystem.step
    (System.admits fun db call input => redsysInOrder db call input = true) ⟨pendingOrder, []⟩ s ∧
    s.db.docs.sum Account.collected = 5000 := by
  obtain ⟨s, run, ends⟩ := Run.exists_of_exec redsysSystem.step
    (System.admits fun db call input => redsysInOrder db call input = true) ⟨pendingOrder, []⟩
    [.start (.notify true), .start (.notify true), .advance 0 redsysNoon, .advance 0 redsysNoon,
      .advance 0 redsysNoon, .advance 0 redsysNoon, .advance 0 redsysNoon, .advance 0 redsysNoon]
    (fun s => s.running.isEmpty && s.db.approved && s.db.reviews.isEmpty) (by decide +kernel)
  simp only [Bool.and_eq_true, List.isEmpty_iff] at ends
  obtain ⟨⟨finished, approved⟩, reviews⟩ := ends
  have applied := (approved_applied_once run pendingOrder_start).2.2 finished approved
  exact ⟨s, run, applied.resolve_right (by simp [reviews])⟩

/-- An authorisation after a denial of the same order is dropped. -/
theorem approved_dropped : ∃ s, Reaches redsysSystem.step ⟨pendingOrder, []⟩ s ∧ s.running = [] ∧
    s.db.approved = true ∧ s.db.docs.sum Account.collected = 0 ∧ s.db.reviews = [] := by
  obtain ⟨s, run, ends⟩ := Run.exists_of_exec redsysSystem.step (fun _ _ => True)
    ⟨pendingOrder, []⟩
    [.start (.notify false), .advance 0 redsysNoon, .advance 0 redsysNoon, .start (.notify true),
      .advance 0 redsysNoon]
    (fun s => s.running.isEmpty && s.db.approved && s.db.docs.sum Account.collected = 0 &&
      s.db.reviews.isEmpty) (by decide +kernel)
  simp only [Bool.and_eq_true, List.isEmpty_iff, decide_eq_true_eq] at ends
  obtain ⟨⟨⟨finished, approved⟩, collected⟩, reviews⟩ := ends
  exact ⟨s, run, finished, approved, collected, reviews⟩

end StorageOS
