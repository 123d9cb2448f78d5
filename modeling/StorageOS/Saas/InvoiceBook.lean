import StorageOS.Saas.InvoiceSteps

/-! The series, the payments and the rectifications of the platform invoices. Series are numbered without gaps and
payments are invoiced once in every run; an invoice is credited up to its total, or substituted once. -/

namespace StorageOS

open Transition Processes

variable {db db' : PlatformDb} {call : PlatformCall} {rest : Option PlatformCall} {env : PlatformEnv}
  {input : PlatformInput}

/-! ### The ledger -/

def PlatformInvoice.unstatus (inv : PlatformInvoice) : PlatformInvoice := { inv with status := .issued }

/-- The invoices without their status, which is all that changes in them. -/
def PlatformDb.ledger (db : PlatformDb) : Table PlatformInvoiceId PlatformInvoice :=
  db.invoices.view PlatformInvoice.unstatus

variable {entry : PlatformEntry} {running : List PlatformCall}

theorem ledger_insert (number : ℕ) (fresh : entry.invoice.status = .issued) :
    (db.insert entry number).ledger = db.ledger.push (entry.numbered number) := by
  have row : (entry.numbered number).unstatus = entry.numbered number := by
    rw [PlatformInvoice.unstatus, PlatformEntry.numbered, ← fresh]
  have pushed : (db.invoices.push (entry.numbered number)).view PlatformInvoice.unstatus =
      db.ledger.push (entry.numbered number) := by
    rw [Table.view_push, row]
    rfl
  rw [PlatformDb.ledger, PlatformDb.insert]
  dsimp only
  split
  · refine Eq.trans (Table.view_modify_same ?_) pushed
    exact fun inv _ => rfl
  · exact pushed

theorem find_ledger (id : PlatformInvoiceId) :
    db.ledger.find id = (db.invoices.find id).map PlatformInvoice.unstatus :=
  Table.find_view _ _ _

def PlatformDb.credited (db : PlatformDb) (id : PlatformInvoiceId) : ℤ :=
  db.ledger.sum fun inv => if inv.rectifiesBy id .differences then -inv.total else 0

def PlatformDb.rectified (db : PlatformDb) (id : PlatformInvoiceId) (method : PlatformCorrection) : ℤ :=
  db.ledger.sum fun inv => if inv.rectifiesBy id method then 1 else 0

theorem credited_insert (number : ℕ) (fresh : entry.invoice.status = .issued) (id : PlatformInvoiceId) :
    (db.insert entry number).credited id = db.credited id +
      if entry.invoice.rectifiesBy id .differences then -entry.invoice.total else 0 := by
  rw [PlatformDb.credited, ledger_insert number fresh, Table.sum_push]
  rfl

theorem rectified_insert (number : ℕ) (fresh : entry.invoice.status = .issued) (id : PlatformInvoiceId)
    (method : PlatformCorrection) :
    (db.insert entry number).rectified id method = db.rectified id method +
      if entry.invoice.rectifiesBy id method then 1 else 0 := by
  rw [PlatformDb.rectified, ledger_insert number fresh, Table.sum_push]
  rfl

theorem numbers_ledger (series : PlatformSeries) : db.numbers series =
    (db.ledger.rows.filter fun q => q.2.series = series).map fun q => q.2.number := by
  simp only [PlatformDb.numbers, PlatformDb.ledger, Table.view, List.filter_map, List.map_map]
  rfl

theorem numbers_insert (number : ℕ) (fresh : entry.invoice.status = .issued) (series : PlatformSeries) :
    (db.insert entry number).numbers series =
      db.numbers series ++ if entry.invoice.series = series then [number] else [] := by
  rw [numbers_ledger, ledger_insert number fresh, Table.rows_push, List.filter_append,
    List.map_append, ← numbers_ledger]
  have same : (entry.numbered number).series = entry.invoice.series := rfl
  by_cases own : entry.invoice.series = series
  · rw [if_pos own, List.filter_cons_of_pos (by simp [same, own])]
    rfl
  · rw [if_neg own, List.filter_cons_of_neg (by simp [same, own])]
    rfl

/-! ### Entries -/

/-- An invoice to be inserted is that of a payment or rectifies a stored one. -/
def PlatformEntry.Sound (db : PlatformDb) (entry : PlatformEntry) : Prop :=
  (entry.invoice.status = .issued ∧ entry.invoice.rectifies = none) ∨
  ∃ id stored, db.ledger.find id = some stored ∧ RectifyEntry id stored.total entry

theorem PlatformEntry.Sound.fresh (sound : entry.Sound db) :
    entry.invoice.status = .issued := by
  rcases sound with ⟨fresh, -⟩ | ⟨id, stored, -, rectifies⟩
  · exact fresh
  · exact rectifies.fresh

def PlatformCall.Sound (db : PlatformDb) : PlatformCall → Prop
  | .numbering entry | .inserting entry _ => entry.Sound db
  | _ => True

def PlatformDb.Keeps (db db' : PlatformDb) : Prop :=
  ∀ id inv, db.ledger.find id = some inv → db'.ledger.find id = some inv

theorem PlatformCall.Sound.keep (sound : call.Sound db) (keeps : db.Keeps db') : call.Sound db' := by
  cases call with
  | numbering entry | inserting entry =>
    rcases sound with payment | ⟨id, stored, found, rectifies⟩
    · exact .inl payment
    · exact .inr ⟨id, stored, keeps id stored found, rectifies⟩
  | _ => trivial

def PlatformCall.locks : PlatformCall → Option PlatformSeries
  | .inserting entry _ => some entry.invoice.series
  | _ => none

/-- A step leaves the series alone, locks one, or ends with the lock of one, whose invoice it may have
inserted. -/
inductive SeriesMove (db : PlatformDb) : PlatformCall → PlatformDb → Option PlatformCall → Prop
  | others {call : PlatformCall} {db' : PlatformDb} {rest : Option PlatformCall}
      (own : call.locks = none) (invoices : db'.invoices = db.invoices)
      (locked : db'.locked = db.locked) (free : rest.bind PlatformCall.locks = none) :
    SeriesMove db call db' rest
  | locks {entry : PlatformEntry} (free : entry.invoice.series ∉ db.locked) :
    SeriesMove db (.numbering entry) { db with locked := entry.invoice.series :: db.locked }
      (some (.inserting entry (db.lastNumber entry.invoice.series + 1)))
  | drops {entry : PlatformEntry} {number : ℕ} :
    SeriesMove db (.inserting entry number)
      { db with locked := db.locked.erase entry.invoice.series } none
  | inserts {entry : PlatformEntry} {number : ℕ}
      (unpaid : ∀ id, entry.invoice.paymentId = some id → db.invoiceOf id = none) :
    SeriesMove db (.inserting entry number) (db.insert entry number) none

theorem PlatformMove.series (move : PlatformMove db env call db' rest) :
    SeriesMove db call db' rest := by
  cases move with
  | locks free => exact .locks free
  | repeats => exact .drops
  | inserts unpaid => exact .inserts unpaid
  | gone missing about =>
    rcases about with ⟨_, _, rfl⟩ | ⟨_, rfl⟩ | ⟨_, _, _, _, rfl⟩ <;> exact .others rfl rfl rfl rfl
  | marks about => rcases about with rfl | rfl <;> exact .others rfl rfl rfl rfl
  | pushes about next =>
    refine .others ?_ rfl rfl ?_
    · rcases about with ⟨_, rfl⟩ | ⟨_, rfl⟩ <;> rfl
    · cases rest with
      | none => rfl
      | some r =>
        rw [next r rfl]
        rfl
  | updates next =>
    refine .others rfl rfl rfl ?_
    cases rest with
    | none => rfl
    | some r =>
      rw [next r rfl]
      rfl
  | @bounces item row rest found next =>
    refine .others rfl rfl rfl ?_
    rw [next]
    cases row.paymentId <;> rfl
  | _ =>
    exact .others rfl rfl rfl rfl

theorem nextPlatform_series (h : nextPlatform db call input = some (db', rest)) :
    SeriesMove db call db' rest := by
  rcases nextPlatform_move h with ⟨env, rfl, move⟩ | ⟨rfl, rfl, rfl⟩
  · exact move.series
  · cases call with
    | inserting entry number => exact .drops
    | _ =>
      exact .others rfl rfl rfl rfl

theorem SeriesMove.keeps (move : SeriesMove db call db' rest) (sound : call.Sound db) :
    db.Keeps db' := by
  cases move with
  | others own invoices =>
    intro id inv found
    rwa [PlatformDb.ledger, invoices]
  | locks | drops => exact fun _ _ found => found
  | inserts unpaid =>
    intro id inv found
    rw [ledger_insert _ (PlatformEntry.Sound.fresh sound)]
    exact Table.find_push_of_some found _

theorem issueEntry_sound (db : PlatformDb) (id : SubscriptionPaymentId) (p : SubscriptionPayment)
    (env : PlatformEnv) : (issueEntry id p env).Sound db :=
  .inl ⟨rfl, rfl⟩

theorem PlatformMove.sound {call' : PlatformCall}
    (move : PlatformMove db env call db' (some call')) (sound : call.Sound db) :
    call'.Sound db' := by
  cases move with
  | pays => exact issueEntry_sound _ _ _ _
  | @rectifies id input credits original entry found made =>
    refine .inr ⟨id, original.unstatus, ?_, (rectifyEntry_sound made).1⟩
    rw [find_ledger, found]
    rfl
  | locks => exact sound
  | pushes about next | updates next =>
    rw [next call' rfl]
    trivial
  | bounces found next =>
    obtain ⟨id, -, rfl⟩ := Option.map_eq_some_iff.mp next.symm
    trivial
  | _ => trivial

/-! ### Series -/

def PlatformDb.Numbered (db : PlatformDb) : Prop :=
  ∀ series, db.numbers series = List.range' 1 (db.numbers series).length

def PlatformDb.InvoicedOnce (db : PlatformDb) : Prop :=
  ∀ i j inv inv' p, db.ledger.find i = some inv → db.ledger.find j = some inv' →
    inv.paymentId = some p → inv'.paymentId = some p → i = j

theorem foldr_max_range' (n b : ℕ) (h : n ≤ b) : (List.range' 1 n).foldr max b = b := by
  induction n with
  | zero => rfl
  | succ n ih =>
    rw [List.range'_1_concat, List.foldr_append]
    simp only [List.foldr_cons, List.foldr_nil]
    rw [max_eq_right (by omega : 1 + n ≤ b)]
    exact ih (by omega)

theorem last_range' (n : ℕ) : (List.range' 1 n).foldr max 0 = n := by
  cases n with
  | zero => rfl
  | succ n =>
    rw [List.range'_1_concat, List.foldr_append]
    simp only [List.foldr_cons, List.foldr_nil]
    rw [max_eq_left (Nat.zero_le _), foldr_max_range' n (1 + n) (by omega), add_comm]

theorem PlatformDb.Numbered.last (numbered : db.Numbered) (series : PlatformSeries) :
    db.lastNumber series = (db.numbers series).length := by
  rw [PlatformDb.lastNumber, numbered series, last_range', List.length_range']

theorem PlatformDb.Numbered.insert (numbered : db.Numbered) {number : ℕ} (fresh : entry.invoice.status = .issued)
    (next : number = db.lastNumber entry.invoice.series + 1) : (db.insert entry number).Numbered := by
  intro series
  rw [numbers_insert number fresh]
  split
  · rename_i own
    rw [next, own, numbered.last, List.length_append, List.length_singleton, List.range'_1_concat,
      ← numbered series, add_comm 1]
  · rw [List.append_nil]
    exact numbered series

theorem numbers_of_invoices (same : db'.invoices = db.invoices) (series : PlatformSeries) :
    db'.numbers series = db.numbers series := by
  rw [PlatformDb.numbers, PlatformDb.numbers, same]

theorem PlatformDb.Numbered.of_same (numbered : db.Numbered) (same : db'.invoices = db.invoices) :
    db'.Numbered := by
  intro series
  rw [numbers_of_invoices same]
  exact numbered series

/-- The locked series are those of the requests that insert, with the number that follows the last. -/
structure SeriesBook (s : State PlatformDb PlatformCall) : Prop where
  held : (s.running.filterMap PlatformCall.locks).Perm s.db.locked
  single : s.db.locked.Nodup
  next : ∀ entry number, .inserting entry number ∈ s.running →
    number = s.db.lastNumber entry.invoice.series + 1
  numbered : s.db.Numbered

theorem SeriesBook.entered (book : SeriesBook ⟨db, running⟩) (free : call.locks = none) :
    SeriesBook ⟨db, running ++ [call]⟩ := by
  refine ⟨?_, book.single, fun entry number mem => ?_, book.numbered⟩
  · have held := book.held
    simpa [List.filterMap_append, free] using held
  · rcases List.mem_append.mp mem with mem | mem
    · exact book.next entry number mem
    · rw [List.mem_singleton.mp mem |>.symm] at free
      cases free

theorem released {i : ℕ} {series : PlatformSeries} (held : (running.filterMap PlatformCall.locks).Perm db.locked)
    (single : db.locked.Nodup) (place : running[i]? = some call) (own : call.locks = some series) :
    ((resume running i none).filterMap PlatformCall.locks).Perm (db.locked.erase series) ∧
      (db.locked.erase series).Nodup ∧
      ∀ entry number, .inserting entry number ∈ resume running i none →
        .inserting entry number ∈ running ∧ entry.invoice.series ≠ series := by
  have perm := filterMap_resume PlatformCall.locks place none
  rw [own] at perm
  have mine : series ∈ db.locked :=
    held.subset (List.mem_filterMap.mpr ⟨_, List.mem_of_getElem? place, own⟩)
  have whole := (perm.trans ((List.append_nil _).symm ▸ held)).trans (List.perm_cons_erase mine)
  have left : ((resume running i none).filterMap PlatformCall.locks).Perm (db.locked.erase series) :=
    List.Perm.cons_inv whole
  refine ⟨left, single.erase _, fun entry number mem => ⟨List.mem_of_mem_eraseIdx mem, ?_⟩⟩
  rintro rfl
  have again := left.subset (List.mem_filterMap.mpr ⟨_, mem, rfl⟩)
  exact single.not_mem_erase again

theorem SeriesBook.step {i : ℕ} (book : SeriesBook ⟨db, running⟩) (place : running[i]? = some call)
    (sound : call.Sound db) (move : SeriesMove db call db' rest) : SeriesBook ⟨db', resume running i rest⟩ := by
  obtain ⟨held, single, next, numbered⟩ := book
  have perm := filterMap_resume PlatformCall.locks place rest
  cases move with
  | others own invoices locked free =>
    rw [own, free] at perm
    refine ⟨?_, locked ▸ single, fun entry number mem => ?_, numbered.of_same invoices⟩
    · rw [locked]
      exact (perm.trans (List.append_nil _ ▸ .refl _)).trans held
    · rw [PlatformDb.lastNumber, numbers_of_invoices invoices]
      rcases mem_resume mem with mem | rfl
      · exact next entry number mem
      · cases free
  | @locks entry free =>
    refine ⟨?_, List.nodup_cons.mpr ⟨free, single⟩, fun entry' number mem => ?_, numbered⟩
    · refine perm.trans ?_
      exact (List.perm_append_singleton _ _).trans (held.cons _)
    · have mem : _ ∈ resume running i (some _) := mem
      rcases mem_resume mem with mem | same
      · exact next entry' number mem
      · cases same
        rfl
  | @drops entry number =>
    obtain ⟨held', single', apart⟩ := released held single place rfl
    exact ⟨held', single', fun entry' number' mem => next entry' number' (apart _ _ mem).1, numbered⟩
  | @inserts entry number unpaid =>
    obtain ⟨held', single', apart⟩ := released held single place rfl
    have fresh := PlatformEntry.Sound.fresh sound
    have mine := next entry number (List.mem_of_getElem? place)
    refine ⟨held', single', fun entry' number' mem => ?_, numbered.insert fresh mine⟩
    obtain ⟨mem, other⟩ := apart _ _ mem
    rw [PlatformDb.lastNumber, numbers_insert number fresh, if_neg (Ne.symm other), List.append_nil]
    exact next entry' number' mem

theorem invoiceOf_none {p k : ℕ} {inv : PlatformInvoice} (none_ : db.invoiceOf p = none)
    (found : db.ledger.find k = some inv) : inv.paymentId ≠ some p := by
  rw [find_ledger, Option.map_eq_some_iff] at found
  obtain ⟨stored, there, rfl⟩ := found
  have absent := List.find?_eq_none.mp none_ _ (Table.mem_of_find there)
  exact fun same => absent (decide_eq_true same)

theorem SeriesMove.invoicedOnce (move : SeriesMove db call db' rest) (sound : call.Sound db)
    (once : db.InvoicedOnce) : db'.InvoicedOnce := by
  cases move with
  | others own invoices =>
    intro i j inv inv' p
    rw [PlatformDb.ledger, invoices]
    exact once i j inv inv' p
  | locks | drops => exact once
  | inserts unpaid =>
    intro i j inv inv' p foundI foundJ ofI ofJ
    rw [ledger_insert _ (PlatformEntry.Sound.fresh sound), Table.find_push] at foundI foundJ
    split at foundI
    · cases foundI
      split at foundJ
      · rename_i newI newJ
        exact newI.trans newJ.symm
      · exact absurd ofJ (invoiceOf_none (unpaid p ofI) foundJ)
    · split at foundJ
      · cases foundJ
        exact absurd ofI (invoiceOf_none (unpaid p ofJ) foundI)
      · exact once i j inv inv' p foundI foundJ ofI ofJ

/-! ### Rectifications -/

theorem creditedIn_rectifications (id : PlatformInvoiceId) :
    creditedIn id (db.rectifications id) = db.credited id := by
  have both : ∀ q : PlatformInvoiceId × PlatformInvoice,
      (q.2.rectifiesBy id .differences && q.2.rectifies.any fun r => r.1 = id) =
        q.2.rectifiesBy id .differences := by
    intro q
    cases own : q.2.rectifies <;> simp [PlatformInvoice.rectifiesBy, own]
    rintro rfl
    rfl
  rw [creditedIn, creditsIn, PlatformDb.rectifications, List.filter_filter,
    List.filter_congr fun q _ => both q, PlatformDb.credited, PlatformDb.ledger, Table.sum_view]
  refine (Table.sum_filter db.invoices.rows (fun q => q.2.rectifiesBy id .differences)
    fun q => -q.2.total).trans ?_
  rw [Table.sum, Table.values, List.map_map]
  rfl

end StorageOS
