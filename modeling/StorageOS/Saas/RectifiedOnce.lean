import StorageOS.Saas.InvoiceBook

/-! The numbering of the platform invoices holds in every run. Rectifications are checked against those
of their invoice that were read before, and they keep the invoice balanced as long as the ones inserted
meanwhile would have changed nothing. -/

namespace StorageOS

open Transition Processes

variable {db db' : PlatformDb} {call : PlatformCall} {rest : Option PlatformCall} {env : PlatformEnv}
  {input : PlatformInput} {entry : PlatformEntry} {id k : PlatformInvoiceId} {inv : PlatformInvoice}
  {method : PlatformCorrection}

theorem length_rectifications (id : PlatformInvoiceId) (method : PlatformCorrection) :
    (((db.rectifications id).filter fun q => q.2.rectifiesBy id method).length : ℤ) =
      db.rectified id method := by
  have both : ∀ q : PlatformInvoiceId × PlatformInvoice,
      (q.2.rectifiesBy id method && q.2.rectifies.any fun r => r.1 = id) =
        q.2.rectifiesBy id method := by
    intro q
    cases own : q.2.rectifies <;> simp [PlatformInvoice.rectifiesBy, own]
    rintro rfl
    rfl
  have counted := Table.sum_filter db.invoices.rows (fun q => q.2.rectifiesBy id method) fun _ => 1
  rw [PlatformDb.rectifications, List.filter_filter, List.filter_congr fun q _ => both q,
    PlatformDb.rectified, PlatformDb.ledger, Table.sum_view, Table.sum, Table.values, List.map_map]
  rw [List.map_const', List.sum_replicate, nsmul_eq_mul, mul_one] at counted
  exact counted

theorem substitutionsIn_rectifications :
    substitutionsIn id (db.rectifications id) = [] ↔ db.rectified id .substitution = 0 := by
  rw [← length_rectifications, substitutionsIn, Nat.cast_eq_zero, List.length_eq_zero_iff]

theorem creditsIn_rectifications :
    creditsIn id (db.rectifications id) = [] ↔ db.rectified id .differences = 0 := by
  rw [← length_rectifications, creditsIn, Nat.cast_eq_zero, List.length_eq_zero_iff]

theorem credited_eq_zero (free : db.rectified id .differences = 0) : db.credited id = 0 := by
  rw [← creditedIn_rectifications, creditedIn, creditsIn_rectifications.mpr free]
  rfl

/-! ### Rows and requests -/

/-- The rectified invoices are stored, and the credits are positive. -/
structure PlatformDb.Rows (db : PlatformDb) : Prop where
  original : ∀ k inv id method, db.ledger.find k = some inv → inv.rectifies = some (id, method) →
    ∃ stored, db.ledger.find id = some stored
  credited : ∀ id, 0 ≤ db.credited id

/-- An invoice to be inserted has read no more credits than there are. -/
def PlatformCall.Read (db : PlatformDb) : PlatformCall → Prop
  | .numbering entry | .inserting entry _ => ∀ id method, entry.invoice.rectifies = some (id, method) →
      creditedIn id entry.seen ≤ db.credited id
  | _ => True

theorem PlatformEntry.Sound.rectify (sound : entry.Sound db)
    (own : entry.invoice.rectifies = some (id, method)) :
    ∃ stored, db.ledger.find id = some stored ∧ RectifyEntry id stored.total entry := by
  rcases sound with ⟨-, plain⟩ | ⟨id', stored, found, rectifies⟩
  · rw [plain] at own
    cases own
  · obtain rfl : id' = id := by
      rcases rectifies.method with ⟨about, -⟩ | ⟨about, -⟩ <;> rw [about] at own <;> cases own <;> rfl
    exact ⟨stored, found, rectifies⟩

theorem rectifiesBy_iff :
    inv.rectifiesBy id method = true ↔ inv.rectifies = some (id, method) := by
  rw [PlatformInvoice.rectifiesBy, decide_eq_true_iff]

theorem credited_le_insert (sound : entry.Sound db) (number : ℕ) (id : PlatformInvoiceId) :
    db.credited id ≤ (db.insert entry number).credited id := by
  rw [credited_insert number sound.fresh]
  split
  · rename_i own
    obtain ⟨stored, -, rectifies⟩ := sound.rectify (rectifiesBy_iff.mp own)
    rcases rectifies.method with ⟨about, -⟩ | ⟨-, negative, -⟩
    · rw [rectifiesBy_iff, about] at own
      cases own
    · omega
  · omega

theorem SeriesMove.credited_le (move : SeriesMove db call db' rest) (sound : call.Sound db)
    (id : PlatformInvoiceId) : db.credited id ≤ db'.credited id := by
  cases move with
  | others own invoices => rw [PlatformDb.credited, PlatformDb.credited, PlatformDb.ledger, ← invoices,
      ← PlatformDb.ledger]
  | locks | drops => exact le_rfl
  | inserts unpaid => exact credited_le_insert sound _ id

theorem SeriesMove.rows (move : SeriesMove db call db' rest) (sound : call.Sound db)
    (rows : db.Rows) : db'.Rows := by
  refine ⟨?_, fun id => (rows.credited id).trans (move.credited_le sound id)⟩
  have keeps := move.keeps sound
  cases move with
  | others own invoices =>
    rw [PlatformDb.ledger, invoices]
    exact rows.original
  | locks | drops => exact rows.original
  | inserts unpaid =>
    intro k inv id method found own
    rw [ledger_insert _ (PlatformEntry.Sound.fresh sound), Table.find_push] at found
    split at found
    · cases found
      obtain ⟨stored, there, -⟩ := PlatformEntry.Sound.rectify sound own
      exact ⟨stored, keeps id stored there⟩
    · obtain ⟨stored, there⟩ := rows.original k inv id method found own
      exact ⟨stored, keeps id stored there⟩

theorem PlatformCall.Read.keep (read : call.Read db)
    (more : ∀ id, db.credited id ≤ db'.credited id) : call.Read db' := by
  cases call with
  | numbering entry | inserting entry => exact fun id method own => (read id method own).trans (more id)
  | _ => trivial

theorem PlatformMove.read {call' : PlatformCall} (move : PlatformMove db env call db' (some call'))
    (read : call.Read db) : call'.Read db' := by
  cases move with
  | pays => exact nofun
  | rectifies found made =>
    obtain ⟨sound, -, seen, -⟩ := rectifyEntry_sound made
    intro id method own
    rcases sound.method with ⟨about, -⟩ | ⟨about, -⟩ <;> rw [about] at own <;> cases own <;>
      rw [seen, creditedIn_rectifications]
  | locks => exact read
  | pushes about next | updates next =>
    rw [next call' rfl]
    trivial
  | bounces found next =>
    obtain ⟨id, -, rfl⟩ := Option.map_eq_some_iff.mp next.symm
    trivial
  | _ => trivial

/-! ### Balance -/

/-- An invoice is credited up to its total, in parts, or substituted once, and it is cancelled when it is
credited in full. -/
structure PlatformInvoice.Balanced (db : PlatformDb) (id : PlatformInvoiceId) (inv : PlatformInvoice) :
    Prop where
  credited : db.credited id ≤ max 0 inv.total
  once : db.rectified id .substitution ≤ 1
  either : db.rectified id .substitution = 0 ∨ db.rectified id .differences = 0
  cancelled : inv.status = .cancelled ↔ 0 < db.credited id ∧ db.credited id = inv.total

def PlatformDb.Rectified (db : PlatformDb) : Prop :=
  ∀ id inv, db.invoices.find id = some inv → inv.Balanced db id

/-- Nothing substitutes the invoice when its rectification is inserted. No credit precedes a substitution,
and a credit finds credited what it had read, or leaves something to be credited. -/
def rectifiesInTurn (db : PlatformDb) : PlatformCall → PlatformInput → Bool
  | .inserting entry _, .proceed _ => entry.invoice.rectifies.all fun r =>
      (substitutionsIn r.1 (db.rectifications r.1)).isEmpty &&
      match r.2 with
      | .substitution => (creditsIn r.1 (db.rectifications r.1)).isEmpty
      | .differences =>
        creditedIn r.1 (db.rectifications r.1) = creditedIn r.1 entry.seen ||
          (db.invoices.find r.1).any fun inv =>
            creditedIn r.1 (db.rectifications r.1) - entry.invoice.total < inv.total
  | _, _ => true

theorem PlatformInvoice.Balanced.of_same (balanced : inv.Balanced db id)
    (credited : db'.credited id = db.credited id)
    (rectified : ∀ method, db'.rectified id method = db.rectified id method) :
    inv.Balanced db' id := by
  obtain ⟨most, once, either, cancelled⟩ := balanced
  exact ⟨by rwa [credited], by rwa [rectified], by rwa [rectified, rectified], by rwa [credited]⟩

theorem PlatformDb.Rectified.of_same (rectified : db.Rectified) (same : db'.invoices = db.invoices) :
    db'.Rectified := by
  intro id inv found
  rw [same] at found
  refine (rectified id inv found).of_same ?_ fun method => ?_
  · rw [PlatformDb.credited, PlatformDb.credited, PlatformDb.ledger, same, ← PlatformDb.ledger]
  · rw [PlatformDb.rectified, PlatformDb.rectified, PlatformDb.ledger, same, ← PlatformDb.ledger]

theorem rectified_insert_other (number : ℕ) (fresh : entry.invoice.status = .issued)
    (other : ∀ method, entry.invoice.rectifies ≠ some (id, method)) :
    (db.insert entry number).credited id = db.credited id ∧
      ∀ method, (db.insert entry number).rectified id method = db.rectified id method := by
  have never : ∀ method, ¬entry.invoice.rectifiesBy id method = true :=
    fun method own => other method (rectifiesBy_iff.mp own)
  refine ⟨?_, fun method => ?_⟩
  · rw [credited_insert number fresh, if_neg (never _), add_zero]
  · rw [rectified_insert number fresh, if_neg (never _), add_zero]

theorem PlatformDb.Rows.unrectified (rows : db.Rows) :
    db.credited db.invoices.nextKey = 0 ∧ ∀ method, db.rectified db.invoices.nextKey method = 0 := by
  have absent : ∀ k inv method, db.ledger.find k = some inv →
      inv.rectifiesBy db.invoices.nextKey method = false := by
    intro k inv method found
    by_contra own
    obtain ⟨stored, there⟩ := rows.original k inv _ _ found
      (rectifiesBy_iff.mp (Bool.not_eq_false _ ▸ own))
    rw [find_ledger, Table.find_nextKey] at there
    cases there
  constructor
  · refine Table.sum_eq_zero fun inv mem => ?_
    obtain ⟨k, found⟩ := Table.mem_values.mp mem
    rw [absent k inv _ found]
    rfl
  · intro method
    refine Table.sum_eq_zero fun inv mem => ?_
    obtain ⟨k, found⟩ := Table.mem_values.mp mem
    rw [absent k inv _ found]
    rfl

theorem find_insert {number : ℕ} (found : (db.insert entry number).invoices.find k = some inv) :
    ∃ before, (db.invoices.push (entry.numbered number)).find k = some before ∧
      ((∃ method status, entry.invoice.rectifies = some (k, method) ∧
          entry.originalStatus = some status ∧ inv = { before with status }) ∨
        (inv = before ∧ ∀ method, entry.invoice.rectifies = some (k, method) →
          entry.originalStatus = none)) := by
  rw [PlatformDb.insert] at found
  dsimp only at found
  split at found
  · rename_i id method status about marks
    rcases Table.find_modify_cases found with ⟨other, there⟩ | ⟨rfl, before, there, rfl⟩
    · refine ⟨inv, there, .inr ⟨rfl, fun method' about' => ?_⟩⟩
      rw [about] at about'
      cases about'
      exact absurd rfl other
    · exact ⟨before, there, .inl ⟨method, status, about, marks, rfl⟩⟩
  · rename_i plain
    refine ⟨inv, found, .inr ⟨rfl, fun method about => ?_⟩⟩
    cases marks : entry.originalStatus with
    | none => rfl
    | some status => exact absurd marks (plain _ _ _ about)

/-- A rectification leaves its invoice balanced when the ones inserted since it read them would have
changed nothing. -/
theorem PlatformInvoice.Balanced.rectify {before : PlatformInvoice} {number : ℕ}
    (balanced : before.Balanced db id) (rows : db.Rows) (found : db.invoices.find id = some before)
    (rectifies : RectifyEntry id before.total entry) (own : entry.invoice.rectifies = some (id, method))
    (read : creditedIn id entry.seen ≤ db.credited id)
    (fits : rectifiesInTurn db (.inserting entry number) (.proceed env) = true)
    (total : inv.total = before.total)
    (status : inv.status = entry.originalStatus.getD before.status) :
    inv.Balanced (db.insert entry number) id := by
  obtain ⟨most, once, either, cancelled⟩ := balanced
  simp only [rectifiesInTurn, own, Option.all_some, Bool.and_eq_true, List.isEmpty_iff,
    substitutionsIn_rectifications] at fits
  obtain ⟨unsubstituted, fits⟩ := fits
  have credited : (db.insert entry number).credited id = _ :=
    credited_insert number rectifies.fresh id
  have substituted : (db.insert entry number).rectified id .substitution = _ :=
    rectified_insert number rectifies.fresh id .substitution
  have differed : (db.insert entry number).rectified id .differences = _ :=
    rectified_insert number rectifies.fresh id .differences
  rcases rectifies.method with ⟨about, -, -, marks⟩ | ⟨about, negative, within, marks⟩
  · rw [about] at own
    cases own
    simp only [creditsIn_rectifications, List.isEmpty_iff] at fits
    have zero := credited_eq_zero fits
    simp only [PlatformInvoice.rectifiesBy, about, decide_true, Option.some.injEq, Prod.mk.injEq,
      true_and, reduceCtorEq, decide_false, Bool.false_eq_true, if_true, if_false]
      at credited substituted differed
    refine ⟨by omega, by omega, .inr (by omega), ?_⟩
    rw [status, marks]
    exact ⟨fun no => (by cases no), fun full => absurd full.1 (by omega)⟩
  · rw [about] at own
    cases own
    simp only [creditedIn_rectifications, Bool.or_eq_true, decide_eq_true_eq, found, Option.any_some]
      at fits
    have positive := rows.credited id
    simp only [PlatformInvoice.rectifiesBy, about, decide_true, Option.some.injEq, Prod.mk.injEq,
      true_and, reduceCtorEq, decide_false, Bool.false_eq_true, if_true, if_false]
      at credited substituted differed
    refine ⟨by omega, by omega, .inl (by omega), ?_⟩
    rw [status, marks, total]
    split
    · -- What was read is credited in full, and so is what there is.
      exact ⟨fun _ => ⟨by omega, by omega⟩, fun _ => rfl⟩
    · -- Part of the invoice is left, also after the credits that it has not read.
      rw [Option.getD_none, cancelled]
      omega

theorem PlatformDb.Rectified.insert {number : ℕ} (rectified : db.Rectified) (rows : db.Rows)
    (sound : entry.Sound db)
    (read : ∀ id method, entry.invoice.rectifies = some (id, method) →
      creditedIn id entry.seen ≤ db.credited id)
    (fits : rectifiesInTurn db (.inserting entry number) (.proceed env) = true) :
    (db.insert entry number).Rectified := by
  intro k inv found
  obtain ⟨before, stays, change⟩ := find_insert found
  by_cases own : ∃ method, entry.invoice.rectifies = some (k, method)
  · obtain ⟨method, own⟩ := own
    obtain ⟨stored, there, rectifies⟩ := sound.rectify own
    rw [find_ledger, Option.map_eq_some_iff] at there
    obtain ⟨before', there, rfl⟩ := there
    rw [Table.find_push_of_some there] at stays
    cases stays
    refine (rectified k before there).rectify rows there rectifies own (read k method own) fits ?_ ?_
    · rcases change with ⟨_, _, _, _, rfl⟩ | ⟨rfl, _⟩ <;> rfl
    · rcases change with ⟨_, status, _, marks, rfl⟩ | ⟨rfl, plain⟩
      · rw [marks]
        rfl
      · rw [plain method own]
        rfl
  · have other : ∀ method, entry.invoice.rectifies ≠ some (k, method) := fun method about =>
      own ⟨method, about⟩
    obtain ⟨credited, rectified'⟩ :
        (db.insert entry number).credited k = _ ∧ _ := rectified_insert_other number sound.fresh other
    obtain rfl : inv = before := by
      rcases change with ⟨method, _, about, -⟩ | ⟨same, -⟩
      · exact absurd about (other method)
      · exact same
    rw [Table.find_push] at stays
    split at stays
    · rename_i new
      subst new
      cases stays
      obtain ⟨zero, none_⟩ := rows.unrectified
      refine ⟨?_, ?_, .inl ?_, ?_⟩
      · rw [credited, zero]
        exact le_max_left _ _
      · rw [rectified', none_]
        omega
      · rw [rectified', none_]
      · rw [credited, zero]
        refine ⟨fun cancelled => ?_, fun full => absurd full.1 (lt_irrefl 0)⟩
        have fresh : entry.invoice.status = .cancelled := cancelled
        rw [sound.fresh] at fresh
        cases fresh
    · exact (rectified k inv stays).of_same credited rectified'

/-! ### Runs -/

theorem enterPlatform_plain {request : PlatformRequest} (h : enterPlatform db request = some call) :
    call.Sound db ∧ call.Read db ∧ call.locks = none := by
  cases request with
  | closeSubscriptionDispute id dispute lost amount =>
    cases lost <;> cases h <;> exact ⟨trivial, trivial, rfl⟩
  | _ =>
    cases h
    exact ⟨trivial, trivial, rfl⟩

theorem failPlatform_invoices (db : PlatformDb) (call : PlatformCall) :
    (failPlatform db call).invoices = db.invoices := by
  cases call <;> rfl

/-- The numbering after every run, and what the admitted insertions keep of the invoices. -/
theorem platform_invariant {P : PlatformDb → Prop}
    {ok : PlatformDb → PlatformCall → PlatformInput → Prop} {t : State PlatformDb PlatformCall}
    (run : Run platformSystem.step (System.admits ok) ⟨.empty, []⟩ t) (start : P .empty)
    (same : ∀ {db db'}, P db → db'.invoices = db.invoices → P db')
    (inserts : ∀ {db env entry number}, P db → db.Rows → entry.Sound db →
      (PlatformCall.inserting entry number).Read db →
      ok db (.inserting entry number) (.proceed env) → P (db.insert entry number)) :
    P t.db ∧ t.db.InvoicedOnce ∧ SeriesBook t := by
  have all := System.invariant_with (P := fun db => P db ∧ db.Rows ∧ db.InvoicedOnce)
    (Q := fun db call => call.Sound db ∧ call.Read db) (J := SeriesBook) run
    ⟨start, ⟨fun _ _ _ _ found => (by cases found), fun _ => le_rfl⟩,
      fun _ _ _ _ _ found => (by cases found)⟩
    (by simp) ⟨.refl _, List.nodup_nil, by simp, fun _ => rfl⟩
    (fun _ entered => ⟨(enterPlatform_plain entered).1, (enterPlatform_plain entered).2.1⟩)
    (fun {db call input db' rest} kept sound fits made => by
      have series := nextPlatform_series made
      have more := series.credited_le sound.1
      refine ⟨⟨?_, series.rows sound.1 kept.2.1, series.invoicedOnce sound.1 kept.2.2⟩,
        fun call' next => ?_, fun other known => ⟨known.1.keep (series.keeps sound.1),
          known.2.keep more⟩⟩
      · rcases nextPlatform_move made with ⟨env, rfl, move⟩ | ⟨rfl, rfl, rfl⟩
        · cases move.series with
          | others own invoices => exact same kept.1 invoices
          | locks | drops => exact same kept.1 rfl
          | inserts unpaid => exact inserts kept.1 kept.2.1 sound.1 sound.2 fits
        · exact same kept.1 (failPlatform_invoices db call)
      · subst next
        rcases nextPlatform_move made with ⟨env, rfl, move⟩ | ⟨-, -, none_⟩
        · exact ⟨move.sound sound.1, move.read sound.2⟩
        · cases none_)
    (fun {db _ request call} _ book entered => by
      have entered : enterPlatform db request = some call := entered
      exact book.entered (enterPlatform_plain entered).2.2)
    (fun _ sound book _ place made => book.step place sound.1 (nextPlatform_series made))
  exact ⟨all.1.1, all.1.2.2, all.2.2⟩

/-- In every run the series are numbered without gaps and each payment has one invoice at most. In every
run in which the rectifications are inserted in turn, the invoices are balanced. -/
theorem invoices_rectified (t : State PlatformDb PlatformCall) :
    (Reaches platformSystem.step ⟨.empty, []⟩ t → t.db.Numbered ∧ t.db.InvoicedOnce) ∧
    (Run platformSystem.step
      (System.admits fun db call input => rectifiesInTurn db call input = true) ⟨.empty, []⟩ t →
      t.db.Rectified) := by
  refine ⟨fun run => ?_, fun run => ?_⟩
  · obtain ⟨-, once, book⟩ := platform_invariant (P := fun _ => True) (System.admitted run) trivial
      (fun _ _ => trivial) (fun _ _ _ _ _ => trivial)
    exact ⟨book.numbered, once⟩
  · exact (platform_invariant run (fun _ _ found => (by cases found))
      (fun rectified same => rectified.of_same same)
      (fun rectified rows sound read fits => rectified.insert rows sound read fits)).1

def in2026 (i : ℕ) : Action PlatformRequest PlatformInput :=
  .advance i (.proceed ⟨2026, true, 21, false, false, false, false⟩)

def invoicedPayment : List (Action PlatformRequest PlatformInput) :=
  .start (.recordManualPayment 10000) :: List.replicate 5 (in2026 0)

theorem not_F1_R1 : PlatformInvoiceType.R1 ≠ .F1 := by decide

def creditOf (amount : ℚ) : PlatformRequest :=
  .rectify 0 ⟨.differences, ⟨.R4, not_F1_R4⟩, some amount⟩

def substitution : PlatformRequest := .rectify 0 ⟨.substitution, ⟨.R1, not_F1_R1⟩, none⟩

/-- An invoice is credited by 60, a credit of 50 that was read before fails, and the 40 left are
credited. -/
theorem invoices_rectified_full : ∃ t : State PlatformDb PlatformCall,
    (t.db.invoices.rows.map fun q => (q.2.number, q.2.total)) = [(1, 10000), (1, -6000), (2, -4000)] ∧
      t.db.Numbered ∧ t.db.InvoicedOnce ∧ t.db.Rectified := by
  obtain ⟨t, run, rows⟩ := Run.exists_of_exec platformSystem.step
    (System.admits fun db call input => rectifiesInTurn db call input = true) ⟨.empty, []⟩
    (invoicedPayment ++ [.start (creditOf 60), .start (creditOf 50), in2026 1] ++
      List.replicate 3 (in2026 0) ++ [.advance 0 .fail, .start (creditOf 40)] ++
      List.replicate 3 (in2026 0))
    (fun t => (t.db.invoices.rows.map fun q => (q.2.number, q.2.total)) =
      [(1, 10000), (1, -6000), (2, -4000)]) (by decide +kernel)
  have books := (invoices_rectified t).1 (run.mono fun _ _ _ => trivial)
  exact ⟨t, of_decide_eq_true rows, books.1, books.2, (invoices_rectified t).2 run⟩

/-- Two requests on the first invoice that are both read before either is inserted. -/
def rectifyTogether (first second : PlatformRequest) : List (Action PlatformRequest PlatformInput) :=
  invoicedPayment ++ [.start first, .start second, in2026 0, in2026 1] ++
    List.replicate 4 (in2026 0)

/-- Two credits of 60 exceed an invoice of 100, and credits of 60 and 40 leave it uncancelled; an invoice
is substituted twice; and a substituted invoice is credited. -/
theorem invoices_overlap :
    (¬∀ t, Reaches platformSystem.step ⟨.empty, []⟩ t → ∀ id inv,
      t.db.invoices.find id = some inv → t.db.credited id ≤ max 0 inv.total) ∧
    (¬∀ t, Reaches platformSystem.step ⟨.empty, []⟩ t → ∀ id inv,
      t.db.invoices.find id = some inv → t.db.rectified id .substitution ≤ 1) ∧
    (¬∀ t, Reaches platformSystem.step ⟨.empty, []⟩ t → ∀ id inv,
      t.db.invoices.find id = some inv →
      t.db.rectified id .substitution = 0 ∨ t.db.rectified id .differences = 0) ∧
    ¬∀ t, Reaches platformSystem.step ⟨.empty, []⟩ t → ∀ id inv,
      t.db.invoices.find id = some inv →
      (inv.status = .cancelled ↔ 0 < t.db.credited id ∧ t.db.credited id = inv.total) := by
  refine ⟨fun always => ?_, fun always => ?_, fun always => ?_, fun always => ?_⟩
  · obtain ⟨t, run, more⟩ := Run.exists_of_exec platformSystem.step (fun _ _ => True) ⟨.empty, []⟩
      (rectifyTogether (creditOf 60) (creditOf 60))
      (fun t => (t.db.invoices.find 0).any fun inv => max 0 inv.total < t.db.credited 0)
      (by decide +kernel)
    obtain ⟨inv, found, more⟩ := (Option.any_eq_true _ _).mp more
    exact absurd (always t run 0 inv found) (not_le.mpr (of_decide_eq_true more))
  · obtain ⟨t, run, twice⟩ := Run.exists_of_exec platformSystem.step (fun _ _ => True) ⟨.empty, []⟩
      (rectifyTogether substitution substitution)
      (fun t => (t.db.invoices.find 0).any fun _ => 1 < t.db.rectified 0 .substitution)
      (by decide +kernel)
    obtain ⟨inv, found, twice⟩ := (Option.any_eq_true _ _).mp twice
    exact absurd (always t run 0 inv found) (not_le.mpr (of_decide_eq_true twice))
  · obtain ⟨t, run, both⟩ := Run.exists_of_exec platformSystem.step (fun _ _ => True) ⟨.empty, []⟩
      (invoicedPayment ++ (.start substitution :: List.replicate 3 (in2026 0)) ++
        (.start (creditOf 60) :: List.replicate 3 (in2026 0)))
      (fun t => (t.db.invoices.find 0).any fun _ =>
        t.db.rectified 0 .substitution = 1 ∧ t.db.rectified 0 .differences = 1) (by decide +kernel)
    obtain ⟨inv, found, both⟩ := (Option.any_eq_true _ _).mp both
    have each := of_decide_eq_true both
    rcases always t run 0 inv found with none_ | none_ <;> omega
  · obtain ⟨t, run, open_⟩ := Run.exists_of_exec platformSystem.step (fun _ _ => True) ⟨.empty, []⟩
      (rectifyTogether (creditOf 60) (creditOf 40))
      (fun t => (t.db.invoices.find 0).any fun inv => inv.status ≠ .cancelled ∧
        0 < t.db.credited 0 ∧ t.db.credited 0 = inv.total) (by decide +kernel)
    obtain ⟨inv, found, open_⟩ := (Option.any_eq_true _ _).mp open_
    obtain ⟨uncancelled, full⟩ := of_decide_eq_true open_
    exact uncancelled ((always t run 0 inv found).mpr full)

end StorageOS
