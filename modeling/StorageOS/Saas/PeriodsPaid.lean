import Mathlib.Data.List.Infix
import StorageOS.Saas.PlatformSepa

/-! The period of a tenant is the sum of the months of its payments, less those of the debits that came back, as long
as a debit comes back before its month has been cut short by others. -/

namespace StorageOS

open Transition Processes

variable {db db' : PlatformSepaDb} {call : PlatformSepaCall} {rest : Option PlatformSepaCall}
  {input : PlatformSepaInput} {debits debits' : Table PlatformSepaItemId PlatformDebit}
  {k k' : PlatformSepaItemId} {d d' : PlatformDebit} {p : SubscriptionPaymentId} {initial : TenantId → Instant}

def PlatformSepaDb.returned (db : PlatformSepaDb) (p : SubscriptionPaymentId) : Bool :=
  db.debits.values.any fun d => d.status = .bounced && d.recordings.contains p

def SepaCandidate.sameId (c : SepaCandidate) (d : PlatformDebit) : Bool :=
  keptSlug d.slug d.periodCovered d.retries = keptSlug c.tenantSlug c.periodCovered c.retries &&
    isoDay d.periodCovered = isoDay c.periodCovered && d.retries = c.retries

/-- The month of a payment to be returned is worth what its period lasted. -/
def PlatformSepaDb.monthIntact (initial : TenantId → Instant) (db : PlatformSepaDb) (d : PlatformDebit)
    (p : SubscriptionPaymentId) : Bool :=
  (db.books.payments.find p).all fun payment => (db.books.accounts.find d.tenantId).all fun account =>
    account.subscription.currentPeriodEnd =
      replay (initial d.tenantId) (db.books.monthsPaid (fun q => db.returned q || q = p) d.tenantId) +
        (payment.periodEnd - payment.periodStart)

def sepaInTurn (initial : TenantId → Instant) (db : PlatformSepaDb) : PlatformSepaCall → Bool
  -- The id of a debit is not that of another one of its remittance.
  | .debiting id (c :: _) _ => db.periodTaken c.tenantId c.periodCovered ||
    db.debits.values.all fun d => d.remittanceId ≠ id || !c.sameId d
  -- The payments found for a debit are its own, and none is recorded when there is one.
  | .seeking _ ((k, d) :: _) => db.books.payments.rows.all fun q =>
    !q.2.mentions d || (db.debits.find k).any fun row => q.1 ∈ row.recordings
  | .recording _ _ d _ => db.books.payments.values.all fun payment => !payment.mentions d
  | .bouncing k => (db.debits.find k).all fun d =>
    d.status ≠ .collected || d.paymentId.all (db.monthIntact initial d)
  | _ => true

/-! ### Debits -/

structure PlatformDebit.Keeps (d d' : PlatformDebit) : Prop where
  remittanceId : d'.remittanceId = d.remittanceId
  tenantId : d'.tenantId = d.tenantId
  endToEndId : d'.endToEndId = d.endToEndId
  periodCovered : d'.periodCovered = d.periodCovered
  slug : d'.slug = d.slug
  retries : d'.retries = d.retries
  live : d'.live = true → d.live = true

theorem PlatformDebit.Keeps.refl (d : PlatformDebit) : d.Keeps d := ⟨rfl, rfl, rfl, rfl, rfl, rfl, id⟩

/-- A period has one live debit, and a remittance has one debit for each id. -/
structure DebitsDistinct (debits : Table PlatformSepaItemId PlatformDebit) : Prop where
  live : ∀ k d k' d', debits.find k = some d → debits.find k' = some d' → d.live = true → d'.live = true →
    d'.tenantId = d.tenantId → d'.periodCovered = d.periodCovered → k' = k
  made : ∀ k d, debits.find k = some d → d.endToEndId = platformEndToEndId d.slug d.periodCovered d.retries
  ids : ∀ k d k' d', debits.find k = some d → debits.find k' = some d' → d'.remittanceId = d.remittanceId →
    d'.endToEndId = d.endToEndId → k' = k

theorem DebitsDistinct.kept (distinct : DebitsDistinct debits)
    (kept : ∀ k d', debits'.find k = some d' → ∃ d : PlatformDebit, debits.find k = some d ∧ d.Keeps d') :
    DebitsDistinct debits' where
  live k d k' d' there there' live live' tenant period := by
    obtain ⟨b, before, keeps⟩ := kept k d there
    obtain ⟨b', before', keeps'⟩ := kept k' d' there'
    rw [keeps.tenantId, keeps'.tenantId] at tenant
    rw [keeps.periodCovered, keeps'.periodCovered] at period
    exact distinct.live k b k' b' before before' (keeps.live live) (keeps'.live live') tenant period
  made k d there := by
    obtain ⟨b, before, keeps⟩ := kept k d there
    rw [keeps.endToEndId, keeps.slug, keeps.periodCovered, keeps.retries]
    exact distinct.made k b before
  ids k d k' d' there there' remittance same := by
    obtain ⟨b, before, keeps⟩ := kept k d there
    obtain ⟨b', before', keeps'⟩ := kept k' d' there'
    rw [keeps.remittanceId, keeps'.remittanceId] at remittance
    rw [keeps.endToEndId, keeps'.endToEndId] at same
    exact distinct.ids k b k' b' before before' remittance same

variable {c : SepaCandidate} {payment : PeriodPayment}

theorem sameId_of_endToEndId (made : d.endToEndId = platformEndToEndId d.slug d.periodCovered d.retries)
    (same : d.endToEndId = platformEndToEndId c.tenantSlug c.periodCovered c.retries) : c.sameId d = true := by
  obtain ⟨slugs, dates, times⟩ := platformEndToEndId_inj (made.symm.trans same)
  rw [SepaCandidate.sameId, decide_eq_true slugs, decide_eq_true dates, decide_eq_true times]
  rfl

variable {id : PlatformRemittanceId} {f : PlatformDebit → PlatformDebit} {name : String}

theorem DebitsDistinct.push (distinct : DebitsDistinct db.debits)
    (untaken : db.periodTaken c.tenantId c.periodCovered = false)
    (other : ∀ k d, db.debits.find k = some d → d.remittanceId = id → c.sameId d = false) :
    DebitsDistinct (db.debits.push (c.debit id)) := by
  have free : ∀ k d, db.debits.find k = some d → d.live = true → d.tenantId = c.tenantId →
      d.periodCovered ≠ c.periodCovered := by
    intro k d there live tenant period
    have taken : db.periodTaken c.tenantId c.periodCovered = true :=
      List.any_eq_true.mpr ⟨d, Table.mem_values_of_find there, by simp [live, tenant, period]⟩
    rw [untaken] at taken
    cases taken
  have unlike : ∀ k d, db.debits.find k = some d → d.remittanceId = id →
      d.endToEndId ≠ (c.debit id).endToEndId := by
    intro k d there remittance same
    have alike := sameId_of_endToEndId (distinct.made k d there) same
    rw [other k d there remittance] at alike
    cases alike
  refine ⟨fun k d k' d' there there' live live' tenant period => ?_, fun k d there => ?_,
    fun k d k' d' there there' remittance same => ?_⟩
  · rcases Table.find_push_cases there with before | ⟨rfl, rfl⟩ <;>
      rcases Table.find_push_cases there' with before' | ⟨rfl, rfl⟩
    · exact distinct.live k d k' d' before before' live live' tenant period
    · exact (free k d before live tenant.symm period.symm).elim
    · exact (free k' d' before' live' tenant period).elim
    · rfl
  · rcases Table.find_push_cases there with before | ⟨rfl, rfl⟩
    · exact distinct.made k d before
    · rfl
  · rcases Table.find_push_cases there with before | ⟨rfl, rfl⟩ <;>
      rcases Table.find_push_cases there' with before' | ⟨rfl, rfl⟩
    · exact distinct.ids k d k' d' before before' remittance same
    · exact (unlike k d before remittance.symm same.symm).elim
    · exact (unlike k' d' before' remittance same).elim
    · rfl

theorem keeps_modify (keeps : ∀ d : PlatformDebit, d.Keeps (f d)) (there : (debits.modify k f).find k' = some d') :
    ∃ d : PlatformDebit, debits.find k' = some d ∧ d.Keeps d' := by
  rcases Table.find_modify_cases there with ⟨-, found⟩ | ⟨rfl, d, found, rfl⟩
  · exact ⟨d', found, .refl d'⟩
  · exact ⟨d, found, keeps d⟩

theorem record_keeps (p : SubscriptionPaymentId) (d : PlatformDebit) : d.Keeps (d.record p) :=
  ⟨rfl, rfl, rfl, rfl, rfl, rfl, id⟩

theorem collect_keeps (p : SubscriptionPaymentId) (d : PlatformDebit) : d.Keeps (d.collect p) := by
  rw [PlatformDebit.collect]
  split
  · rename_i pending
    exact ⟨rfl, rfl, rfl, rfl, rfl, rfl, fun _ => by simp [PlatformDebit.live, pending]⟩
  · exact .refl d

theorem close_keeps {status : PlatformDebitStatus} (closed : status = .bounced ∨ status = .cancelled)
    (d : PlatformDebit) : d.Keeps { d with status } := by
  refine ⟨rfl, rfl, rfl, rfl, rfl, rfl, fun live => ?_⟩
  rcases closed with rfl | rfl <;> cases live

/-! ### Payments of a debit -/

/-- The payments of a debit: one at most, and the one that a debit collected is linked to. -/
structure PlatformDebit.Recorded (payments : Table SubscriptionPaymentId PeriodPayment) (d : PlatformDebit) :
    Prop where
  paid : ∀ p ∈ d.recordings, ∃ payment, payments.find p = some payment ∧ payment.mentions d = true ∧
    payment.periodStart < payment.periodEnd
  once : d.recordings.length ≤ 1
  linked : d.status = .collected ∨ d.status = .bounced → ∃ p, d.paymentId = some p ∧ d.recordings = [p]

def PaymentsStay (payments payments' : Table SubscriptionPaymentId PeriodPayment) : Prop :=
  ∀ p payment, payments.find p = some payment → ∃ paid, payments'.find p = some { payment with paid }

variable {payments payments' : Table SubscriptionPaymentId PeriodPayment}

theorem PaymentsStay.refl (payments : Table SubscriptionPaymentId PeriodPayment) :
    PaymentsStay payments payments := fun _ payment found => ⟨payment.paid, found⟩

theorem PaymentsStay.push (payments : Table SubscriptionPaymentId PeriodPayment) (payment : PeriodPayment) :
    PaymentsStay payments (payments.push payment) :=
  fun _ before found => ⟨before.paid, Table.find_push_of_some found payment⟩

theorem PaymentsStay.unpaid (payments : Table SubscriptionPaymentId PeriodPayment) (p : SubscriptionPaymentId) :
    PaymentsStay payments (payments.modify p fun payment => { payment with paid := false }) := by
  intro q payment found
  by_cases own : q = p
  · exact ⟨false, by rw [own, Table.find_modify_self, ← own, found]; rfl⟩
  · exact ⟨payment.paid, by rw [Table.find_modify_ne _ own, found]⟩

theorem PlatformDebit.Recorded.stay (recorded : d.Recorded payments) (stay : PaymentsStay payments payments') :
    d.Recorded payments' := by
  refine ⟨fun p mem => ?_, recorded.once, recorded.linked⟩
  obtain ⟨payment, found, mentions, longer⟩ := recorded.paid p mem
  obtain ⟨paid, found'⟩ := stay p payment found
  exact ⟨_, found', mentions, longer⟩

theorem mentions_congr (tenant : d'.tenantId = d.tenantId) (id : d'.endToEndId = d.endToEndId) :
    payment.mentions d' = payment.mentions d := by
  rw [PeriodPayment.mentions, PeriodPayment.mentions, tenant, id]

theorem mentions_tenant (mentions : payment.mentions d = true) :
    payment.tenantId = d.tenantId := by
  simp only [PeriodPayment.mentions, Bool.and_eq_true, decide_eq_true_eq] at mentions
  exact mentions.1.1

theorem paymentArgs_mentions (tenant : payment.tenantId = d.tenantId) (provider : payment.provider = .sepa)
    (text : payment.description = (d.paymentArgs name).description) :
    payment.mentions d = true := by
  have contained : d.endToEndId.toList <:+:
      ("Remesa SEPA plataforma " ++ name ++ " · " ++ d.endToEndId).toList := by
    rw [String.toList_append]
    exact (List.suffix_append _ _).isInfix
  rw [PeriodPayment.mentions, decide_eq_true tenant, decide_eq_true provider, text]
  exact decide_eq_true contained

theorem returned_iff : db.returned p = true ↔
    ∃ k d, db.debits.find k = some d ∧ d.status = .bounced ∧ p ∈ d.recordings := by
  rw [PlatformSepaDb.returned, List.any_eq_true]
  constructor
  · rintro ⟨d, mem, chosen⟩
    obtain ⟨k, found⟩ := Table.find_of_mem_values mem
    simp only [Bool.and_eq_true, decide_eq_true_eq, List.contains_iff_mem] at chosen
    exact ⟨k, d, found, chosen⟩
  · rintro ⟨k, d, found, bounced, mem⟩
    exact ⟨d, Table.mem_values_of_find found, by simp [bounced, mem]⟩

/-! ### What a state keeps -/

structure SepaKept (initial : TenantId → Instant) (db : PlatformSepaDb) : Prop where
  distinct : DebitsDistinct db.debits
  recorded : ∀ k d, db.debits.find k = some d → d.Recorded db.books.payments
  own : ∀ k d k' d' p, db.debits.find k = some d → db.debits.find k' = some d' →
    p ∈ d.recordings → p ∈ d'.recordings → k' = k
  balanced : db.books.Balanced initial db.returned

/-- A debit that was read is still in the database, with the payments that were recorded for it. -/
def PlatformSepaDb.Has (db : PlatformSepaDb) (k : PlatformSepaItemId) (d : PlatformDebit) : Prop :=
  ∃ row, db.debits.find k = some row ∧ row.tenantId = d.tenantId ∧ row.endToEndId = d.endToEndId ∧
    ∀ p ∈ d.recordings, p ∈ row.recordings

def PlatformSepaCall.Known (db : PlatformSepaDb) : PlatformSepaCall → Prop
  | .seeking _ left => ∀ q ∈ left, db.Has q.1 q.2
  | .recording _ k d left => db.Has k d ∧ ∀ q ∈ left, db.Has q.1 q.2
  | .linking _ k p left =>
    (∃ row, db.debits.find k = some row ∧ p ∈ row.recordings) ∧ ∀ q ∈ left, db.Has q.1 q.2
  | _ => True

def DebitsStay (db db' : PlatformSepaDb) : Prop := ∀ k d, db.debits.find k = some d → db'.Has k d

theorem DebitsStay.has (stay : DebitsStay db db') (has : db.Has k d) : db'.Has k d := by
  obtain ⟨row, found, tenant, id, recordings⟩ := has
  obtain ⟨row', found', tenant', id', recordings'⟩ := stay k row found
  exact ⟨row', found', tenant'.trans tenant, id'.trans id, fun p mem => recordings' p (recordings p mem)⟩

theorem DebitsStay.known (stay : DebitsStay db db') (known : call.Known db) : call.Known db' := by
  cases call with
  | seeking => exact fun q mem => stay.has (known q mem)
  | recording => exact ⟨stay.has known.1, fun q mem => stay.has (known.2 q mem)⟩
  | linking name k p left =>
    obtain ⟨⟨row, found, mem⟩, others⟩ := known
    obtain ⟨row', found', -, -, recordings⟩ := stay k row found
    exact ⟨⟨row', found', recordings p mem⟩, fun q mem => stay.has (others q mem)⟩
  | _ =>
    trivial

theorem debitsStay_same (same : db'.debits = db.debits) : DebitsStay db db' :=
  fun _ d found => ⟨d, same ▸ found, rfl, rfl, fun _ mem => mem⟩

theorem debitsStay_modify (keeps : ∀ d : PlatformDebit, d.Keeps (f d))
    (recordings : ∀ d : PlatformDebit, ∀ p ∈ d.recordings, p ∈ (f d).recordings)
    (modified : db'.debits = db.debits.modify k f) : DebitsStay db db' := by
  intro k' d found
  by_cases own : k' = k
  · refine ⟨f d, ?_, (keeps d).tenantId, (keeps d).endToEndId, recordings d⟩
    rw [modified, own, Table.find_modify_self, ← own, found]
    rfl
  · exact ⟨d, by rw [modified, Table.find_modify_ne _ own, found], rfl, rfl, fun _ mem => mem⟩

theorem returned_same
    (same : ∀ p, (∃ k d, db'.debits.find k = some d ∧ d.status = .bounced ∧ p ∈ d.recordings) ↔
      ∃ k d, db.debits.find k = some d ∧ d.status = .bounced ∧ p ∈ d.recordings) : db'.returned = db.returned := by
  funext p
  rw [Bool.eq_iff_iff, returned_iff, returned_iff]
  exact same p

structure SepaMoves (initial : TenantId → Instant) (db db' : PlatformSepaDb) : Prop where
  kept : SepaKept initial db'
  stay : DebitsStay db db'

theorem sepaMoves_same (kept : SepaKept initial db) (books : db'.books = db.books)
    (debits : db'.debits = db.debits) : SepaMoves initial db db' := by
  have returned : db'.returned = db.returned := by
    funext p
    rw [PlatformSepaDb.returned, PlatformSepaDb.returned, debits]
  refine ⟨⟨debits ▸ kept.distinct, fun k d => ?_, fun k d k' d' p => ?_, ?_⟩, debitsStay_same debits⟩
  · rw [debits, books]
    exact kept.recorded k d
  · rw [debits]
    exact kept.own k d k' d' p
  · rw [books, returned]
    exact kept.balanced

/-- A debit changes, without its payments and without coming back. -/
structure PlatformDebit.Moves (payments : Table SubscriptionPaymentId PeriodPayment) (d d' : PlatformDebit) :
    Prop where
  keeps : d.Keeps d'
  recordings : d'.recordings = d.recordings
  bounced : d'.status = .bounced ↔ d.status = .bounced
  recorded : d.Recorded payments → d'.Recorded payments

theorem PlatformDebit.Moves.refl (payments : Table SubscriptionPaymentId PeriodPayment) (d : PlatformDebit) :
    d.Moves payments d := ⟨.refl d, rfl, Iff.rfl, id⟩

theorem sepaMoves_debits {g : PlatformSepaItemId → PlatformDebit → PlatformDebit} (kept : SepaKept initial db)
    (after : ∀ k, debits.find k = (db.debits.find k).map (g k))
    (moves : ∀ k d, db.debits.find k = some d → d.Moves db.books.payments (g k d)) :
    SepaMoves initial db { db with debits } := by
  have before : ∀ {k d}, debits.find k = some d →
      ∃ b : PlatformDebit, db.debits.find k = some b ∧ b.Moves db.books.payments d := by
    intro k d there
    rw [after, Option.map_eq_some_iff] at there
    obtain ⟨b, found, rfl⟩ := there
    exact ⟨b, found, moves k b found⟩
  have next : ∀ {k b}, db.debits.find k = some b →
      ∃ d : PlatformDebit, debits.find k = some d ∧ b.Moves db.books.payments d := by
    intro k b found
    exact ⟨g k b, by rw [after, found]; rfl, moves k b found⟩
  have returned : PlatformSepaDb.returned { db with debits } = db.returned := by
    refine returned_same fun p => ⟨fun ⟨k, d, there, back, mem⟩ => ?_, fun ⟨k, b, found, back, mem⟩ => ?_⟩
    · obtain ⟨b, found, moved⟩ := before there
      exact ⟨k, b, found, moved.bounced.mp back, moved.recordings ▸ mem⟩
    · obtain ⟨d, there, moved⟩ := next found
      exact ⟨k, d, there, moved.bounced.mpr back, by rw [moved.recordings]; exact mem⟩
  refine ⟨⟨kept.distinct.kept fun k d there => ?_, fun k d there => ?_,
    fun k d k' d' p there there' mem mem' => ?_, ?_⟩, fun k b found => ?_⟩
  · obtain ⟨b, found, moved⟩ := before there
    exact ⟨b, found, moved.keeps⟩
  · obtain ⟨b, found, moved⟩ := before there
    exact moved.recorded (kept.recorded k b found)
  · obtain ⟨b, found, moved⟩ := before there
    obtain ⟨b', found', moved'⟩ := before there'
    exact kept.own k b k' b' p found found' (moved.recordings ▸ mem) (moved'.recordings ▸ mem')
  · rw [returned]
    exact kept.balanced
  · obtain ⟨d, there, moved⟩ := next found
    exact ⟨d, there, moved.keeps.tenantId, moved.keeps.endToEndId,
      fun p mem => by rw [moved.recordings]; exact mem⟩

theorem collect_moves {row : PlatformDebit} (mem : p ∈ row.recordings) :
    row.Moves payments (row.collect p) := by
  have keeps := collect_keeps p row
  rw [PlatformDebit.collect] at keeps ⊢
  split at keeps
  · rename_i pending
    rw [if_pos pending]
    refine ⟨keeps, rfl, by simp [pending], fun recorded => ⟨recorded.paid, recorded.once, fun _ => ?_⟩⟩
    obtain ⟨q, only⟩ := List.length_eq_one_iff.mp
      (Nat.le_antisymm recorded.once (List.length_pos_of_mem mem))
    rw [only, List.mem_singleton] at mem
    exact ⟨p, rfl, by rw [mem]; exact only⟩
  · rename_i other
    rw [if_neg other]
    exact .refl payments row

variable (kept : SepaKept initial db)
include kept

theorem sepaMoves_collect (linked : ∃ row, db.debits.find k = some row ∧ p ∈ row.recordings) :
    SepaMoves initial db { db with debits := db.debits.modify k (PlatformDebit.collect p) } := by
  obtain ⟨row, found, mem⟩ := linked
  refine sepaMoves_debits (g := fun j => if j = k then PlatformDebit.collect p else id) kept (fun j => ?_)
    fun j d there => ?_
  · rw [Table.find_modify]
    split <;> simp
  · split
    · rename_i own
      rw [own, found] at there
      cases there
      exact collect_moves mem
    · exact .refl _ d

theorem sepaMoves_cancel (id : PlatformRemittanceId) : SepaMoves initial db (db.cancel id) := by
  have cancelled : SepaMoves initial db
      { db with
        debits := db.debits.updateMany (fun q => q.2.remittanceId = id && q.2.status = .pending)
          fun d => { d with status := .cancelled } } := by
    refine sepaMoves_debits kept (Table.find_updateMany db.debits _ _) fun k d there => ?_
    dsimp only
    split
    · rename_i chosen
      simp only [Bool.and_eq_true, decide_eq_true_eq] at chosen
      exact ⟨close_keeps (.inr rfl) d, rfl, by simp [chosen.2],
        fun recorded => ⟨recorded.paid, recorded.once, fun closed => by rcases closed with h | h <;> cases h⟩⟩
    · exact .refl _ d
  have closed : SepaMoves initial _ (db.cancel id) := sepaMoves_same cancelled.kept rfl rfl
  exact ⟨closed.kept, cancelled.stay⟩

theorem sepaMoves_push (untaken : db.periodTaken c.tenantId c.periodCovered = false)
    (other : ∀ k d, db.debits.find k = some d → d.remittanceId = id → c.sameId d = false) :
    SepaMoves initial db { db with debits := db.debits.push (c.debit id) } := by
  have returned : PlatformSepaDb.returned { db with debits := db.debits.push (c.debit id) } = db.returned := by
    refine returned_same fun p => ⟨fun ⟨k, d, there, back, mem⟩ => ?_, fun ⟨k, d, found, back, mem⟩ =>
      ⟨k, d, Table.find_push_of_some found _, back, mem⟩⟩
    rcases Table.find_push_cases there with found | ⟨rfl, rfl⟩
    · exact ⟨k, d, found, back, mem⟩
    · cases back
  refine ⟨⟨kept.distinct.push untaken other, fun k d there => ?_, fun k d k' d' p there there' mem mem' => ?_, ?_⟩,
    fun k d found => ⟨d, Table.find_push_of_some found _, rfl, rfl, fun _ mem => mem⟩⟩
  · rcases Table.find_push_cases there with found | ⟨rfl, rfl⟩
    · exact kept.recorded k d found
    · exact ⟨fun p mem => (List.not_mem_nil mem).elim, Nat.zero_le 1,
        fun closed => by rcases closed with h | h <;> cases h⟩
  · rcases Table.find_push_cases there with found | ⟨rfl, rfl⟩ <;>
      rcases Table.find_push_cases there' with found' | ⟨rfl, rfl⟩
    · exact kept.own k d k' d' p found found' mem mem'
    · cases mem'
    · cases mem
    · rfl
  · rw [returned]
    exact kept.balanced

theorem SepaKept.returned_found (returned : db.returned p = true) :
    ∃ payment, db.books.payments.find p = some payment := by
  obtain ⟨k, d, found, -, mem⟩ := returned_iff.mp returned
  obtain ⟨payment, there, -⟩ := (kept.recorded k d found).paid p mem
  exact ⟨payment, there⟩

theorem SepaKept.new_kept : db.returned db.books.payments.nextKey = false := by
  rw [Bool.eq_false_iff]
  intro returned
  obtain ⟨payment, there⟩ := kept.returned_found returned
  rw [Table.find_nextKey] at there
  cases there

variable {books : PeriodBooks} {args : ManualPaymentArgs} {now : Instant}

omit kept in
theorem PeriodBooks.Records.stay {before : PeriodBooks} (made : before.Records args now books p) :
    PaymentsStay before.payments books.payments := by
  cases made with
  | again => exact .refl _
  | new => exact .push _ _

theorem sepaMoves_pay : SepaMoves initial db (db.pay args now) := by
  rw [PlatformSepaDb.pay]
  cases made : db.books.recordManualPayment args now with
  | none => exact sepaMoves_same kept rfl rfl
  | some q =>
    have records : db.books.Records args now q.1 q.2 := recordManualPayment_records made
    exact ⟨⟨kept.distinct, fun k d found => (kept.recorded k d found).stay records.stay, kept.own,
      kept.balanced.record kept.new_kept records⟩, debitsStay_same rfl⟩

theorem sepaMoves_refund (p : SubscriptionPaymentId) :
    SepaMoves initial db
      { db with
        books := { db.books with
          payments := db.books.payments.modify p fun payment => { payment with paid := false } } } := by
  refine ⟨⟨kept.distinct, fun k d found => (kept.recorded k d found).stay (.unpaid _ p), kept.own,
    fun tenantId account there => ?_⟩, debitsStay_same rfl⟩
  rw [monthsPaid_unpaid]
  exact kept.balanced tenantId account there

theorem sepaMoves_record (has : db.Has k d)
    (unpaid : ∀ q payment, db.books.payments.find q = some payment → payment.mentions d = false)
    (made : db.books.recordManualPayment (d.paymentArgs name) now = some (books, p)) :
    SepaMoves initial db { db with books, debits := db.debits.modify k (PlatformDebit.record p) } ∧
      ∃ row, (db.debits.modify k (PlatformDebit.record p)).find k = some row ∧ p ∈ row.recordings := by
  obtain ⟨row, found, tenant, id, -⟩ := has
  have recorded := kept.recorded k row found
  have none_ : row.recordings = [] := by
    refine List.eq_nil_iff_forall_not_mem.mpr fun q mem => ?_
    obtain ⟨payment, there, mentions, -⟩ := recorded.paid q mem
    rw [mentions_congr tenant id, unpaid q payment there] at mentions
    cases mentions
  have open_ : ¬(row.status = .collected ∨ row.status = .bounced) := by
    intro closed
    obtain ⟨q, -, only⟩ := recorded.linked closed
    rw [none_] at only
    cases only
  have records := recordManualPayment_records made
  have balanced := kept.balanced.record kept.new_kept records
  have stay := records.stay
  have fresh : p = db.books.payments.nextKey ∧ ∃ payment, books.payments.find p = some payment ∧
      payment.mentions d = true ∧ payment.periodStart < payment.periodEnd := by
    cases records with
    | again q payment there same =>
      simp only [PeriodPayment.repeats, Bool.and_eq_true, decide_eq_true_eq] at same
      have mentions := paymentArgs_mentions same.1.1.1.1.1 same.1.1.1.1.2 same.1.1.2
      rw [unpaid p payment there] at mentions
      cases mentions
    | new account there =>
      refine ⟨rfl, _, by rw [Table.find_push, if_pos rfl], paymentArgs_mentions rfl rfl rfl, ?_⟩
      exact lt_addMonthsTo account.subscription.currentPeriodEnd (by decide : (0 : ℤ) < (1 : ℕ))
  obtain ⟨new, payment, there, mentions, longer⟩ := fresh
  have others : ∀ k' d', db.debits.find k' = some d' → p ∉ d'.recordings := by
    intro k' d' found' mem
    obtain ⟨payment, there', -⟩ := (kept.recorded k' d' found').paid p mem
    rw [new, Table.find_nextKey] at there'
    cases there'
  have returned : PlatformSepaDb.returned
      { db with books, debits := db.debits.modify k (PlatformDebit.record p) } = db.returned := by
    refine returned_same fun q => ⟨fun ⟨j, b, there, back, mem⟩ => ?_, fun ⟨j, b, there, back, mem⟩ => ?_⟩
    · rcases Table.find_modify_cases there with ⟨-, before⟩ | ⟨rfl, b, before, rfl⟩
      · exact ⟨j, b, before, back, mem⟩
      · rw [found] at before
        cases before
        exact (open_ (.inr back)).elim
    · refine ⟨j, b, (Table.find_modify_ne _ ?_ _).trans there, back, mem⟩
      rintro rfl
      rw [found] at there
      cases there
      exact open_ (.inr back)
  refine ⟨⟨⟨kept.distinct.kept fun _ _ there => keeps_modify (record_keeps p) there, fun j b there' => ?_,
    fun j b j' b' q there' there'' mem mem' => ?_, ?_⟩, debitsStay_modify (record_keeps p)
      (fun _ _ mem => List.mem_cons_of_mem p mem) rfl⟩, row.record p, ?_, List.mem_cons_self⟩
  · rcases Table.find_modify_cases there' with ⟨-, before⟩ | ⟨rfl, b, before, rfl⟩
    · exact (kept.recorded j b before).stay stay
    · rw [found] at before
      cases before
      refine ⟨fun q mem => ?_, by simp [PlatformDebit.record, none_], fun closed => (open_ closed).elim⟩
      rw [PlatformDebit.record, none_, List.mem_singleton] at mem
      exact ⟨payment, mem ▸ there, (mentions_congr tenant id).trans mentions, longer⟩
  · rcases Table.find_modify_cases there' with ⟨-, before⟩ | ⟨rfl, b, before, rfl⟩ <;>
      rcases Table.find_modify_cases there'' with ⟨-, before'⟩ | ⟨rfl, b', before', rfl⟩
    · exact kept.own j b j' b' q before before' mem mem'
    · rw [found] at before'
      cases before'
      rw [PlatformDebit.record, none_, List.mem_singleton] at mem'
      exact (others j b before (mem' ▸ mem)).elim
    · rw [found] at before
      cases before
      rw [PlatformDebit.record, none_, List.mem_singleton] at mem
      exact (others j' b' before' (mem ▸ mem')).elim
    · rfl
  · rw [returned]
    exact balanced
  · rw [Table.find_modify_self, found]
    rfl

omit kept

theorem bouncedPeriodEnd_eq (longer : payment.periodStart < payment.periodEnd) (currentPeriodEnd : Instant) :
    bouncedPeriodEnd (some payment) currentPeriodEnd =
      currentPeriodEnd - (payment.periodEnd - payment.periodStart) := by
  rw [bouncedPeriodEnd, if_pos longer]
  split
  · rename_i same
    rw [same, sub_sub_cancel]
  · rfl

theorem returned_bounce (found : db.debits.find k = some d) (recordings : d.recordings = [p])
    (q : SubscriptionPaymentId) : (db.bounce k d now).returned q = (db.returned q || q = p) := by
  rw [Bool.eq_iff_iff, Bool.or_eq_true, decide_eq_true_eq, returned_iff, returned_iff]
  constructor
  · rintro ⟨j, b, there, back, mem⟩
    rcases Table.find_modify_cases there with ⟨-, before⟩ | ⟨rfl, b, before, rfl⟩
    · exact .inl ⟨j, b, before, back, mem⟩
    · rw [found] at before
      cases before
      exact .inr (List.mem_singleton.mp (recordings ▸ mem))
  · have bounced : (db.bounce k d now).debits.find k = some { d with status := .bounced } :=
      (Table.find_modify_self db.debits k _).trans (by rw [found]; rfl)
    rintro (⟨j, b, before, back, mem⟩ | rfl)
    · by_cases own : j = k
      · rw [own, found] at before
        cases before
        exact ⟨k, _, bounced, rfl, mem⟩
      · exact ⟨j, b, (Table.find_modify_ne _ own _).trans before, back, mem⟩
    · exact ⟨k, _, bounced, rfl, by rw [recordings]; exact List.mem_cons_self⟩

theorem sepaMoves_bounce (kept : SepaKept initial db) (found : db.debits.find k = some d)
    (collected : d.status = .collected) (intact : d.paymentId.all (db.monthIntact initial d) = true) :
    SepaMoves initial db (db.bounce k d now) := by
  have recorded := kept.recorded k d found
  obtain ⟨p, linked, recordings⟩ := recorded.linked (.inl collected)
  obtain ⟨payment, there, mentions, longer⟩ := recorded.paid p (by rw [recordings]; exact List.mem_cons_self)
  have returned : (db.bounce k d now).returned = fun q => db.returned q || q = p :=
    funext (returned_bounce found recordings)
  rw [linked, Option.all_some, PlatformSepaDb.monthIntact, there, Option.all_some] at intact
  have closed : ∀ d : PlatformDebit, d.Keeps { d with status := .bounced } := close_keeps (.inl rfl)
  refine ⟨⟨kept.distinct.kept fun _ _ there' => keeps_modify closed there', fun j b there' => ?_,
    fun j b j' b' q there' there'' mem mem' => ?_, fun tenantId account there' => ?_⟩,
    debitsStay_modify closed (fun _ _ mem => mem) rfl⟩
  · rcases Table.find_modify_cases there' with ⟨-, before⟩ | ⟨rfl, b, before, rfl⟩
    · exact kept.recorded j b before
    · rw [found] at before
      cases before
      exact ⟨recorded.paid, recorded.once, fun _ => ⟨p, linked, recordings⟩⟩
  · rcases Table.find_modify_cases there' with ⟨-, before⟩ | ⟨rfl, b, before, rfl⟩ <;>
      rcases Table.find_modify_cases there'' with ⟨-, before'⟩ | ⟨rfl, b', before', rfl⟩ <;>
        exact kept.own _ _ _ _ q before before' mem mem'
  · change account.subscription.currentPeriodEnd =
      replay (initial tenantId) (db.books.monthsPaid (db.bounce k d now).returned tenantId)
    rw [returned]
    rcases Table.find_modify_cases there' with ⟨other, before⟩ | ⟨rfl, b, before, rfl⟩
    · rw [kept.balanced tenantId account before]
      congr 1
      refine (monthsPaid_congr fun q payment' found' tenant => ?_).symm
      have different : q ≠ p := by
        rintro rfl
        rw [there] at found'
        cases found'
        exact other (tenant.symm.trans (mentions_tenant mentions))
      rw [decide_eq_false different, Bool.or_false]
    · rw [before, Option.all_some, decide_eq_true_eq] at intact
      change bouncedPeriodEnd (d.paymentId.bind db.books.payments.find) b.subscription.currentPeriodEnd = _
      rw [linked, Option.bind_some, there, bouncedPeriodEnd_eq longer, intact, add_sub_cancel_right]

/-! ### Runs -/

theorem findMention_mem {row : ℕ} (found : db.findMention row d = some p) :
    ∃ payment, (p, payment) ∈ db.books.payments.rows ∧ payment.mentions d = true := by
  rw [PlatformSepaDb.findMention, Option.map_eq_some_iff] at found
  obtain ⟨q, chosen, rfl⟩ := found
  have mem : q ∈ db.books.payments.rows.filter fun q => q.2.mentions d := by
    rcases Option.or_eq_some_iff.mp chosen with at_ | ⟨-, first⟩
    · exact List.mem_of_getElem? at_
    · exact List.mem_of_mem_head? first
  rw [List.mem_filter] at mem
  exact ⟨q.2, mem.1, mem.2⟩

theorem stepSepa_moves (kept : SepaKept initial db) (known : call.Known db)
    (inTurn : sepaInTurn initial db call = true) (made : stepSepa db input call = (db', rest)) :
    SepaMoves initial db db' ∧ ∀ next, rest = some next → next.Known db' := by
  have same : SepaMoves initial db db := sepaMoves_same kept rfl rfl
  cases call with
  | selecting args subs =>
    rw [stepSepa] at made
    split at made <;> cases made
    · exact ⟨same, goesOn_none⟩
    · exact ⟨sepaMoves_same kept rfl rfl, fun next goesOn => by cases goesOn; trivial⟩
  | debiting id left committed =>
    cases left with
    | nil =>
      cases made
      refine ⟨?_, goesOn_none⟩
      split
      · exact same
      · exact sepaMoves_same kept rfl rfl
    | cons c left =>
      rw [stepSepa] at made
      split at made
      · cases made
        exact ⟨same, fun next goesOn => by cases goesOn; trivial⟩
      · rename_i untaken
        cases made
        rw [Bool.not_eq_true] at untaken
        rw [sepaInTurn, untaken, Bool.false_or, List.all_eq_true] at inTurn
        refine ⟨sepaMoves_push kept untaken fun k d found remittance => ?_,
          fun next goesOn => by cases goesOn; trivial⟩
        simpa [remittance] using inTurn d (Table.mem_values_of_find found)
  | claiming id remittance =>
    rw [stepSepa] at made
    split at made
    · cases made
      exact ⟨sepaMoves_same kept rfl rfl, fun next goesOn => by cases goesOn; trivial⟩
    · split at made <;> cases made
      · refine ⟨same, fun next goesOn => ?_⟩
        obtain ⟨confirmedAt, -, rfl⟩ := Option.map_eq_some_iff.mp goesOn
        trivial
      · exact ⟨same, goesOn_none⟩
  | counting id name confirmedAt =>
    rw [stepSepa] at made
    split at made <;> cases made
    · exact ⟨same, goesOn_none⟩
    · exact ⟨same, fun next goesOn => by cases goesOn; trivial⟩
  | resuming id name confirmedAt =>
    rw [stepSepa] at made
    split at made <;> cases made
    · exact ⟨sepaMoves_same kept rfl rfl, fun next goesOn => by cases goesOn; trivial⟩
    · exact ⟨same, goesOn_none⟩
  | collecting id name =>
    cases made
    refine ⟨same, fun next goesOn => ?_⟩
    cases goesOn
    exact fun q mem => ⟨q.2, Table.find_of_mem (List.mem_filter.mp mem).1, rfl, rfl, fun _ own => own⟩
  | seeking name left =>
    cases left with
    | nil =>
      cases made
      exact ⟨same, goesOn_none⟩
    | cons q left =>
      obtain ⟨k, d⟩ := q
      have others : ∀ q ∈ left, db.Has q.1 q.2 := fun q mem => known q (List.mem_cons_of_mem _ mem)
      rw [stepSepa] at made
      split at made <;> cases made
      · rename_i p found
        refine ⟨same, fun next goesOn => ?_⟩
        cases goesOn
        obtain ⟨payment, mem, mentions⟩ := findMention_mem found
        have own := List.all_eq_true.mp inTurn (p, payment) mem
        rw [mentions, Bool.not_true, Bool.false_or] at own
        obtain ⟨row, there, recorded⟩ := (Option.any_eq_true _ _).mp own
        exact ⟨⟨row, there, of_decide_eq_true recorded⟩, others⟩
      · refine ⟨same, fun next goesOn => ?_⟩
        cases goesOn
        exact ⟨known (k, d) List.mem_cons_self, others⟩
  | recording name k d left =>
    rw [stepSepa] at made
    split at made
    · cases made
      exact ⟨same, fun next goesOn => by cases goesOn; exact known.2⟩
    · rename_i books p recorded
      cases made
      have unpaid : ∀ q payment, db.books.payments.find q = some payment → payment.mentions d = false := by
        intro q payment there
        simpa using List.all_eq_true.mp inTurn payment (Table.mem_values_of_find there)
      obtain ⟨moves, linked⟩ := sepaMoves_record kept known.1 unpaid recorded
      refine ⟨moves, fun next goesOn => ?_⟩
      split at goesOn <;> cases goesOn
      · exact fun q mem => moves.stay.has (known.2 q mem)
      · exact ⟨linked, fun q mem => moves.stay.has (known.2 q mem)⟩
  | linking name k p left =>
    cases made
    have moves := sepaMoves_collect kept known.1
    refine ⟨moves, fun next goesOn => ?_⟩
    cases goesOn
    exact fun q mem => moves.stay.has (known.2 q mem)
  | cancelling id =>
    rw [stepSepa] at made
    split at made <;> cases made
    · exact ⟨sepaMoves_cancel kept id, goesOn_none⟩
    · exact ⟨same, goesOn_none⟩
  | bouncing k =>
    rw [stepSepa] at made
    split at made
    · cases made
      exact ⟨same, goesOn_none⟩
    · rename_i d found
      split at made <;> cases made
      · rename_i collected
        rw [Bool.and_eq_true, decide_eq_true_eq] at collected
        rw [sepaInTurn, found, Option.all_some, collected.1, Bool.or_eq_true] at inTurn
        have intact := inTurn.resolve_left (by simp)
        refine ⟨sepaMoves_bounce kept found collected.1 intact, fun next goesOn => ?_⟩
        obtain ⟨p, -, rfl⟩ := Option.map_eq_some_iff.mp goesOn
        trivial
      · exact ⟨same, goesOn_none⟩
  | refunding p =>
    cases made
    exact ⟨sepaMoves_refund kept p, goesOn_none⟩
  | paying args =>
    cases made
    exact ⟨sepaMoves_pay kept, goesOn_none⟩

theorem throwSepa_known {next : PlatformSepaCall} (known : call.Known db) (goesOn : throwSepa call = some next) :
    next.Known db := by
  cases call with
  | debiting id left =>
    cases left <;> cases goesOn
    trivial
  | seeking name left =>
    cases left <;> cases goesOn
    exact fun q mem => known q (List.mem_cons_of_mem _ mem)
  | recording | linking =>
    cases goesOn
    exact known.2
  | _ =>
    cases goesOn

theorem enterPlatformSepa_known {request : PlatformSepaRequest}
    (entered : enterPlatformSepa db request = some call) : call.Known db := by
  cases request with
  | createRemittance | markBounced =>
    cases entered
    trivial
  | confirmRemittance | cancelRemittance =>
    obtain ⟨r, -, rfl⟩ := Option.map_eq_some_iff.mp entered
    trivial
  | recordManualPayment args =>
    rw [enterPlatformSepa] at entered
    split at entered <;> cases entered
    trivial

/-- The condition of a run: that of each statement that does not throw. -/
def sepaFits (initial : TenantId → Instant) (db : PlatformSepaDb) (call : PlatformSepaCall)
    (input : PlatformSepaInput) : Bool :=
  decide (input.statement = .throws) || sepaInTurn initial db call

theorem nextPlatformSepa_moves (kept : SepaKept initial db) (known : call.Known db)
    (fits : sepaFits initial db call input = true) (made : nextPlatformSepa db call input = some (db', rest)) :
    SepaMoves initial db db' ∧ ∀ next, rest = some next → next.Known db' := by
  rw [nextPlatformSepa] at made
  split at made
  · cases made
    exact ⟨sepaMoves_same kept rfl rfl, fun next goesOn => throwSepa_known known goesOn⟩
  · rename_i succeeds
    have inTurn : sepaInTurn initial db call = true := by
      rw [sepaFits, Bool.or_eq_true] at fits
      exact fits.resolve_left fun throws => succeeds (of_decide_eq_true throws)
    exact stepSepa_moves kept known inTurn (Option.some.inj made)

variable {accounts : Table TenantId SaasAccount} {t : State PlatformSepaDb PlatformSepaCall}

theorem opening_sepaKept (accounts : Table TenantId SaasAccount) :
    SepaKept (initialEnd accounts) (.opening accounts) where
  distinct := ⟨fun _ _ _ _ there => (Option.some_ne_none _ there.symm).elim,
    fun _ _ there => (Option.some_ne_none _ there.symm).elim,
    fun _ _ _ _ there => (Option.some_ne_none _ there.symm).elim⟩
  recorded _ _ there := (Option.some_ne_none _ there.symm).elim
  own _ _ _ _ _ there := (Option.some_ne_none _ there.symm).elim
  balanced tenantId account there := by
    change account.subscription.currentPeriodEnd = initialEnd accounts tenantId
    have stored : accounts.find tenantId = some account := there
    rw [initialEnd, stored]
    rfl

/-- A period has one live debit, the period of each tenant is the sum of the months of its payments that were
not returned, each debit has one payment, and the ids of the debits of a remittance are different. -/
theorem platform_periods_paid
    (run : Run platformSepaSystem.step
      (System.admits fun db call input => sepaFits (initialEnd accounts) db call input = true)
      ⟨.opening accounts, []⟩ t) :
    (∀ k d k' d', t.db.debits.find k = some d → t.db.debits.find k' = some d' → d.live = true → d'.live = true →
        d'.tenantId = d.tenantId → d'.periodCovered = d.periodCovered → k' = k) ∧
      (∀ tenantId account, t.db.books.accounts.find tenantId = some account →
        account.subscription.currentPeriodEnd =
          replay (initialEnd accounts tenantId) (t.db.books.monthsPaid t.db.returned tenantId)) ∧
      (∀ k d, t.db.debits.find k = some d → d.recordings.length ≤ 1) ∧
      ∀ k d k' d', t.db.debits.find k = some d → t.db.debits.find k' = some d' →
        d'.remittanceId = d.remittanceId → d'.endToEndId = d.endToEndId → k' = k := by
  have kept : SepaKept (initialEnd accounts) t.db := by
    refine (System.invariant (Q := fun db call => call.Known db) run (opening_sepaKept accounts)
      (fun _ mem => (List.not_mem_nil mem).elim) (fun _ entered => enterPlatformSepa_known entered)
      fun kept known fits made => ?_).1
    obtain ⟨moves, goesOn⟩ := nextPlatformSepa_moves kept known fits made
    exact ⟨moves.kept, goesOn, fun _ other => moves.stay.known other⟩
  exact ⟨kept.distinct.live, kept.balanced, fun k d found => (kept.recorded k d found).once, kept.distinct.ids⟩

/-! ### Debits of two tenants -/

def jan15 : Instant := Gregorian.date 2026 1 15 * saasDayMs

def sepaAccount : SaasAccount where
  subscription := ⟨.active, .sepa, none, jan15 - 31 * saasDayMs, jan15, 0, 4900⟩
  tenant := ⟨.active, false, none, false, none, none⟩

def twoAccounts : Table TenantId SaasAccount := (Table.empty.push sepaAccount).push sepaAccount

def januaryDebits (slug₀ slug₁ : String) : PlatformRemittanceArgs where
  name := "Enero"
  tenantIds := none
  graceDate := jan15 + 10 * saasDayMs
  slugs tenantId := if tenantId = 0 then slug₀ else slug₁
  amounts _ := some 4900

def sepaAt (minute : ℤ) : PlatformSepaInput := ⟨jan15 + minute * 60000, 0, .succeeds⟩

def sepaRequest (request : PlatformSepaRequest) (steps : ℕ) (minute : ℤ) :
    List (Action PlatformSepaRequest PlatformSepaInput) :=
  .start request :: List.replicate steps (.advance 0 (sepaAt minute))

def firstDebits : List (Action PlatformSepaRequest PlatformSepaInput) :=
  sepaRequest (.createRemittance (januaryDebits "trasteros-norte" "trasteros-sur")) 4 0

/-- A debit that comes back and is presented again, with a confirmation that is cut off and resumed. -/
def retriedDebit : List (Action PlatformSepaRequest PlatformSepaInput) :=
  firstDebits ++ sepaRequest (.confirmRemittance 0) 9 1 ++ sepaRequest (.markBounced 0) 2 2 ++
    sepaRequest (.createRemittance (januaryDebits "trasteros-norte" "trasteros-sur")) 3 3 ++
    sepaRequest (.confirmRemittance 1) 3 4 ++ [.advance 0 { sepaAt 4 with statement := .throwsAfterwards },
      .advance 0 (sepaAt 4)] ++ sepaRequest (.confirmRemittance 1) 7 10

theorem platform_periods_paid_retried : ∃ t : State PlatformSepaDb PlatformSepaCall,
    (t.db.debits.values.map (fun d => (d.status, d.recordings)) =
        [(.bounced, [0]), (.collected, [1]), (.collected, [2])] ∧
      t.db.books.accounts.values.map (·.subscription.currentPeriodEnd) =
        [jan15 + 31 * saasDayMs, jan15 + 31 * saasDayMs]) ∧
      (∀ k d k' d', t.db.debits.find k = some d → t.db.debits.find k' = some d' → d.live = true →
        d'.live = true → d'.tenantId = d.tenantId → d'.periodCovered = d.periodCovered → k' = k) ∧
      (∀ tenantId account, t.db.books.accounts.find tenantId = some account →
        account.subscription.currentPeriodEnd =
          replay (initialEnd twoAccounts tenantId) (t.db.books.monthsPaid t.db.returned tenantId)) ∧
      (∀ k d, t.db.debits.find k = some d → d.recordings.length ≤ 1) ∧
      ∀ k d k' d', t.db.debits.find k = some d → t.db.debits.find k' = some d' →
        d'.remittanceId = d.remittanceId → d'.endToEndId = d.endToEndId → k' = k := by
  obtain ⟨t, run, paid⟩ := Run.exists_of_exec platformSepaSystem.step
    (System.admits fun db call input => sepaFits (initialEnd twoAccounts) db call input = true)
    ⟨.opening twoAccounts, []⟩ retriedDebit
    (fun t => t.db.debits.values.map (fun d => (d.status, d.recordings)) =
        [(.bounced, [0]), (.collected, [1]), (.collected, [2])] ∧
      t.db.books.accounts.values.map (·.subscription.currentPeriodEnd) =
        [jan15 + 31 * saasDayMs, jan15 + 31 * saasDayMs]) (by decide +kernel)
  exact ⟨t, of_decide_eq_true paid, platform_periods_paid run⟩

def transferMonth : PlatformSepaRequest :=
  .recordManualPayment ⟨0, .bankTransfer, 4900, 1, true, none⟩

/-- A debit that comes back after a payment of a shorter month cuts the period short, a confirmation that hangs
while another one resumes it records a debit twice, and two long slugs that start alike get one id. -/
theorem platform_periods_differ :
    ¬(∀ t, Reaches platformSepaSystem.step ⟨.opening twoAccounts, []⟩ t →
      ∀ tenantId account, t.db.books.accounts.find tenantId = some account →
        account.subscription.currentPeriodEnd =
          replay (initialEnd twoAccounts tenantId) (t.db.books.monthsPaid t.db.returned tenantId)) ∧
    ¬(∀ t, Reaches platformSepaSystem.step ⟨.opening twoAccounts, []⟩ t →
      ∀ k d, t.db.debits.find k = some d → d.recordings.length ≤ 1) ∧
    ¬(∀ t, Reaches platformSepaSystem.step ⟨.opening twoAccounts, []⟩ t →
      ∀ k d k' d', t.db.debits.find k = some d → t.db.debits.find k' = some d' →
        d'.remittanceId = d.remittanceId → d'.endToEndId = d.endToEndId → k' = k) := by
  refine ⟨fun all => ?_, fun all => ?_, fun all => ?_⟩
  · obtain ⟨t, run, short⟩ := Run.exists_of_exec platformSepaSystem.step (fun _ _ => True)
      ⟨.opening twoAccounts, []⟩
      (firstDebits ++ sepaRequest (.confirmRemittance 0) 9 1 ++ sepaRequest transferMonth 1 2 ++
        sepaRequest (.markBounced 0) 1 3)
      (fun t => (t.db.books.accounts.find 0).any fun account => account.subscription.currentPeriodEnd ≠
        replay (initialEnd twoAccounts 0) (t.db.books.monthsPaid t.db.returned 0)) (by decide +kernel)
    obtain ⟨account, found, differs⟩ := (Option.any_eq_true _ _).mp short
    exact of_decide_eq_true differs (all t run 0 account found)
  · obtain ⟨t, run, twice⟩ := Run.exists_of_exec platformSepaSystem.step (fun _ _ => True)
      ⟨.opening twoAccounts, []⟩
      (firstDebits ++ sepaRequest (.confirmRemittance 0) 3 1 ++
        .start (.confirmRemittance 0) :: List.replicate 6 (.advance 1 (sepaAt 7)) ++ [.advance 0 (sepaAt 9)])
      (fun t => (t.db.debits.find 0).any fun d => 1 < d.recordings.length) (by decide +kernel)
    obtain ⟨d, found, two⟩ := (Option.any_eq_true _ _).mp twice
    exact absurd (all t run 0 d found) (not_le.mpr (of_decide_eq_true two))
  · obtain ⟨t, run, alike⟩ := Run.exists_of_exec platformSepaSystem.step (fun _ _ => True)
      ⟨.opening twoAccounts, []⟩
      (sepaRequest (.createRemittance (januaryDebits "trasteros-madrid-norte" "trasteros-madrid-sur")) 4 0)
      (fun t => (t.db.debits.find 0).any fun d => (t.db.debits.find 1).any fun d' =>
        d'.remittanceId = d.remittanceId && d'.endToEndId = d.endToEndId) (by decide +kernel)
    obtain ⟨d, found, alike⟩ := (Option.any_eq_true _ _).mp alike
    obtain ⟨d', found', same⟩ := (Option.any_eq_true _ _).mp alike
    rw [Bool.and_eq_true, decide_eq_true_eq, decide_eq_true_eq] at same
    cases all t run 0 d 1 d' found found' same.1 same.2

end StorageOS
