import StorageOS.Payments.Ledger
import StorageOS.Sepa.Confirmation

/-! Calls that confirm one remittance, one after another or at the same time: an item is collected if and only if one
payment carries its reference, as long as no call loses a payment or registers one twice. -/

namespace StorageOS

open Transition Processes

/-! ### Mandates -/

/-- A mandate with a collected item is recurrent, or a call under way is going to make it so. -/
def MandatesHeld (db : ConfirmationDb) (running : List Confirming) : Prop :=
  ∀ k i, db.items.find k = some i → i.status = .collected →
    db.recurrent i.mandateId = true ∨ ∃ phase ∈ running, i.mandateId ∈ phase.collected

section

variable {id : RemittanceId} {db db' : ConfirmationDb} {phase : Confirming}
  {input : ConfirmationInput} {rest : Option Confirming} {running : List Confirming} {n : ℕ}

/-- What a step does to the mandates: those of the items collected before stay recurrent, its call
goes on with those it has collected or has made them recurrent, and it takes on that of an item it
collects. -/
structure MandateStep (db db' : ConfirmationDb) (phase : Confirming) (rest : Option Confirming) :
    Prop where
  items : ∀ k i, db'.items.find k = some i → i.status = .collected →
    (∃ i₀, db.items.find k = some i₀ ∧ i₀.status = .collected ∧ i₀.mandateId = i.mandateId) ∨
      ∃ phase', rest = some phase' ∧ i.mandateId ∈ phase'.collected
  recurrent : ∀ m, db.recurrent m = true → db'.recurrent m = true
  handed : ∀ m ∈ phase.collected, db'.recurrent m = true ∨
    ∃ phase', rest = some phase' ∧ m ∈ phase'.collected

theorem MandatesHeld.resume (held : MandatesHeld db running) (found : running[n]? = some phase)
    (step : MandateStep db db' phase rest) : MandatesHeld db' (resume running n rest) := by
  intro k i row collected
  rcases step.items k i row collected with ⟨i₀, before, collected₀, same⟩ | ⟨phase', rfl, mem⟩
  · rw [← same]
    rcases held k i₀ before collected₀ with recurrent | holder
    · exact .inl (step.recurrent _ recurrent)
    · by_cases mine : i₀.mandateId ∈ phase.collected
      · rcases step.handed _ mine with recurrent | ⟨phase', rfl, mem⟩
        · exact .inl recurrent
        · exact .inr ⟨phase', mem_resume_self found phase', mem⟩
      · exact .inr (exists_resume found holder fun this => absurd this mine)
  · exact .inr ⟨phase', mem_resume_self found phase', mem⟩

theorem MandateStep.quiet (items : db'.items = db.items) (mandates : db'.mandates = db.mandates)
    (handed : ∀ m ∈ phase.collected, db.recurrent m = true ∨
      ∃ phase', rest = some phase' ∧ m ∈ phase'.collected) : MandateStep db db' phase rest where
  items k i found collected := .inl ⟨i, items ▸ found, collected, rfl⟩
  recurrent m recurrent := by
    rw [ConfirmationDb.recurrent, mandates]
    exact recurrent
  handed m mem := by
    rw [ConfirmationDb.recurrent, mandates]
    exact handed m mem

variable {phase' : Confirming}

theorem MandateStep.goesOn (items : db'.items = db.items) (mandates : db'.mandates = db.mandates)
    (same : phase'.collected = phase.collected) : MandateStep db db' phase (some phase') :=
  .quiet items mandates fun _ mem => .inr ⟨phase', rfl, same ▸ mem⟩

theorem MandateStep.setStatus {k : SepaItemId} {status : SepaItemStatus} {failureReason : Option String}
    (other : status ≠ .collected) (same : phase'.collected = phase.collected) :
    MandateStep db { db with items := setItemStatus k status failureReason db.items } phase
      (some phase') where
  items j i found collected := by
    rcases Table.find_modify_cases found with ⟨-, before⟩ | ⟨rfl, i₀, before, rfl⟩
    · exact .inl ⟨i, before, collected, rfl⟩
    · exact absurd collected other
  recurrent _ recurrent := recurrent
  handed _ mem := .inr ⟨phase', rfl, same ▸ mem⟩

theorem recurMandates_recurrent (collected : List MandateId) (date : Date) (m : MandateId)
    (ready : db.recurrent m = true ∨ m ∈ collected ∧
      ((db.mandates.find m).any fun row => row.status = .active) = true) :
    ConfirmationDb.recurrent { db with mandates := recurMandates collected date db.mandates } m =
      true := by
  simp only [ConfirmationDb.recurrent, recurMandates, Table.find_updateMany] at ready ⊢
  cases found : db.mandates.find m with
  | none => rfl
  | some row =>
    rw [found] at ready
    simp only [Option.all_some, Option.any_some, decide_eq_true_eq, Option.map_some,
      List.contains_eq_mem, Bool.and_eq_true] at ready ⊢
    rcases ready with recurrent | ⟨mem, active⟩
    · split <;> split <;> simp [recurrent]
    · cases sequence : row.sequenceType <;> simp [mem, active, sequence]

theorem mandate_loop {run : ConfirmationRun} {clock : Clock}
    (free : findsUnsettled id db (.loop run) (.made clock) = true)
    (h : nextConfirmation id db (.loop run) (.made clock) = some (db', rest)) :
    MandateStep db db' (.loop run) rest := by
  simp only [nextConfirmation] at h
  split at h
  · simp only [beginItem, Option.some.injEq] at h
    split at h
    · cases h
      exact .setStatus (by decide) rfl
    · split at h <;> (cases h; exact .goesOn rfl rfl rfl)
  · rename_i none
    cases h
    simp only [findsUnsettled, none, List.isEmpty_nil, Bool.not_true, Bool.false_or,
      List.all_eq_true, Bool.or_eq_true] at free
    refine ⟨fun k i found collected => .inl ⟨i, found, collected, rfl⟩, fun m recurrent => ?_,
      fun m mem => .inl ?_⟩
    · exact recurMandates_recurrent _ _ m (.inl recurrent)
    · exact recurMandates_recurrent _ _ m ((free m mem).imp_right fun active => ⟨mem, active⟩)

theorem catchItem_collected {reason : String} (caught : catchItem reason phase = some phase') :
    phase'.collected = phase.collected := by
  cases phase with
  | register | markCollected =>
    cases caught
    rfl
  | loop run =>
    rw [catchItem] at caught
    split at caught
    · split at caught
      · cases caught
      · cases caught
        rfl
    · cases caught
  | _ => cases caught

theorem nextConfirmation_mandates (sound : phase.Sound id db) (free : findsUnsettled id db phase input = true)
    (h : nextConfirmation id db phase input = some (db', rest)) :
    MandateStep db db' phase rest := by
  cases input with
  | interrupted =>
    simp only [nextConfirmation, Option.some.injEq, Prod.mk.injEq] at h
    obtain ⟨rfl, rfl⟩ := h
    exact .quiet rfl rfl fun m mem => .inl (List.all_eq_true.mp free m mem)
  | throws reason =>
    simp only [nextConfirmation, Option.some.injEq, Prod.mk.injEq] at h
    obtain ⟨rfl, rfl⟩ := h
    cases caught : catchItem reason phase with
    | none =>
      simp only [findsUnsettled, caught, Option.isSome_none, Bool.false_or] at free
      exact .quiet rfl rfl fun m mem => .inl (List.all_eq_true.mp free m mem)
    | some phase' => exact .goesOn rfl rfl (catchItem_collected caught)
  | made clock =>
    cases phase with
    | claim row rejected =>
      simp only [nextConfirmation, claimConfirmation, Option.some.injEq] at h
      split at h
      · cases h
        exact .goesOn rfl rfl rfl
      · split at h <;> (cases h; exact .quiet rfl rfl fun _ mem => by cases mem)
    | countPending row confirmedAt rejected =>
      simp only [nextConfirmation] at h
      split at h <;> (cases h; exact .quiet rfl rfl fun _ mem => by cases mem)
    | resume row confirmedAt rejected =>
      simp only [nextConfirmation, resumeConfirmation, Option.some.injEq] at h
      split at h <;> (cases h; exact .quiet rfl rfl fun _ mem => by cases mem)
    | readItems row rejected =>
      cases h
      exact .goesOn rfl rfl rfl
    | loop run => exact mandate_loop free h
    | register run k item =>
      simp only [nextConfirmation] at h
      split at h <;> (cases h; exact .goesOn rfl rfl rfl)
    | markCollected run k item =>
      cases h
      refine ⟨fun j i found collected => ?_, fun _ recurrent => recurrent,
        fun m mem => .inr ⟨_, rfl, List.mem_cons_of_mem _ mem⟩⟩
      rcases Table.find_modify_cases found with ⟨-, before⟩ | ⟨rfl, i₀, before, rfl⟩
      · exact .inl ⟨i, before, collected, rfl⟩
      · refine .inr ⟨_, rfl, ?_⟩
        rw [(sound.2.1.carried_eq before).2.2.2.1]
        exact List.mem_cons_self
    | markFailed run k item reason =>
      cases h
      exact .setStatus (by decide) rfl

end

/-! ### Runs -/

/-- While each step finds the payments and the mandates of its items unsettled, a remittance that no
call is confirming and without pending items is collected once. -/
theorem remittance_confirmed_once {id : RemittanceId} {s t : State ConfirmationDb Confirming}
    (start : Unconfirmed id s.db) (idle : s.running = [])
    (run : Run (confirmation id).step
      (System.admits fun db phase input => findsUnsettled id db phase input = true) s t)
    (finished : t.running = []) (settled : pendingItems id t.db.items = []) :
    ConfirmedOnce id t.db := by
  have all := System.invariant_with (P := Counted id) (Q := fun db phase => phase.Sound id db)
    (J := fun x => MandatesHeld x.db x.running) run start.counted
    (fun phase mem => by rw [idle] at mem; cases mem)
    (fun k i found collected => .inl (start.recurrent k i found collected))
    (fun {db rejected phase} _ entered => by
      obtain ⟨row, -, rfl⟩ := Option.map_eq_some_iff.mp entered
      trivial)
    (fun counted sound free h =>
      have step := nextConfirmation_step counted sound free h
      ⟨step.counted, step.sound, fun other sound => sound.mono step.kept⟩)
    (fun {db running rejected phase} _ held _ k i found collected =>
      (held k i found collected).imp_right fun ⟨other, mem, holds⟩ =>
        ⟨other, List.mem_append_left _ mem, holds⟩)
    (fun _ sound held free found h => held.resume found (nextConfirmation_mandates sound free h))
  obtain ⟨counted, -, held⟩ := all
  refine ⟨fun k i found mine => ?_, fun k mem i found => ?_, fun k i found collected => ?_⟩
  · have this := counted.items k i found mine
    have unsettled : i.status ≠ .pending := by
      intro pending
      have mem : (k, i) ∈ pendingItems id t.db.items :=
        List.mem_filter.mpr ⟨Table.find_eq_some.mp found, by simp [mine, pending]⟩
      rw [settled] at mem
      cases mem
    rw [SepaItem.Settled] at this
    split at this
    · rename_i pending
      exact absurd pending unsettled
    · rename_i collected
      exact iff_of_true collected this
    · rename_i other
      exact iff_of_false other (by omega)
  · obtain ⟨i', found', -, none⟩ := counted.told k mem
    cases found.symm.trans found'
    exact none
  · refine (held k i found collected).resolve_right ?_
    rw [finished]
    rintro ⟨phase, mem, -⟩
    cases mem

def debitOf (id : ℕ) (cents : ℤ) (positive : 0 < cents) : SepaItem :=
  ⟨0, id, id, cents, positive, .FRST, endToEndId ("F-" ++ toString id) "00FF", .pending, none⟩

theorem hundred_euros_pos : (0 : ℤ) < 10000 := by decide

theorem fifty_euros_pos : (0 : ℤ) < 5000 := by decide

def remittanceOfTwo : ConfirmationDb where
  docs := (Table.empty.push ⟨issuedInvoice 10000, .empty⟩).push ⟨issuedInvoice 5000, .empty⟩
  mandates := (Table.empty.push
    ⟨1, "MND-1", "ES80", none, 19900, .FRST, none, .active, .external, some 14⟩).push
    ⟨2, "MND-2", "ES81", none, 19900, .FRST, none, .active, .external, some 14⟩
  remittances := Table.empty.push
    ⟨"Mayo", "REM-1", 20030, .generated, 2, 15000, ⟨"REM-1", ⟨"", "", "", none⟩, 20030, 0, 0, []⟩, none⟩
  items := (Table.empty.push (debitOf 0 10000 hundred_euros_pos)).push (debitOf 1 5000 fifty_euros_pos)
  told := []

theorem remittanceOfTwo_unconfirmed : Unconfirmed 0 remittanceOfTwo := by
  have all : ∀ p ∈ remittanceOfTwo.items.rows, p.2.status = .pending ∧
      carried remittanceOfTwo.docs p.2 = 0 ∧
        p.2.endToEndId = endToEndId ("F-" ++ toString p.1) "00FF" := by decide +kernel
  have apart : ∀ p ∈ remittanceOfTwo.items.rows, ∀ q ∈ remittanceOfTwo.items.rows,
      p.2.invoiceId = q.2.invoiceId → p.1 = q.1 := by decide +kernel
  have row : ∀ k i, remittanceOfTwo.items.find k = some i → (k, i) ∈ remittanceOfTwo.items.rows :=
    fun k i found => Table.find_eq_some.mp found
  refine ⟨fun k i found _ => ?_, fun k i found _ => ?_, fun k i k' i' found _ found' _ same => ?_,
    fun k i found collected => ?_, rfl⟩
  · exact ⟨(all _ (row k i found)).1, (all _ (row k i found)).2.1⟩
  · exact ⟨_, _, (all _ (row k i found)).2.2⟩
  · exact apart _ (row k i found) _ (row k' i' found') same
  · rw [(all _ (row k i found)).1] at collected
    cases collected

/-- A confirmation is interrupted after it has registered the first payment. It is resumed, and the
bank rejects the other item. -/
theorem remittance_confirmed_resumed : ∃ t : State ConfirmationDb Confirming,
    t.db.items.values.map SepaItem.status = [.collected, .failed] ∧ ConfirmedOnce 0 t.db := by
  obtain ⟨t, run, ends⟩ := Run.exists_of_exec (confirmation 0).step
    (System.admits fun db phase input => findsUnsettled 0 db phase input = true)
    ⟨remittanceOfTwo, []⟩
    [.start [1], .advance 0 (.made (noon 20030)), .advance 0 (.made (noon 20030)),
      .advance 0 (.made (noon 20030)), .advance 0 (.made (noon 20030)), .advance 0 .interrupted,
      .start [1], .advance 0 (.made (noon 20031)), .advance 0 (.made (noon 20031)),
      .advance 0 (.made (noon 20031)), .advance 0 (.made (noon 20031)),
      .advance 0 (.made (noon 20031)), .advance 0 (.made (noon 20031)),
      .advance 0 (.made (noon 20031)), .advance 0 (.made (noon 20031))]
    (fun t => t.running.isEmpty && (pendingItems 0 t.db.items).isEmpty &&
      t.db.items.values.map SepaItem.status = [.collected, .failed]) (by decide +kernel)
  simp only [Bool.and_eq_true, List.isEmpty_iff, decide_eq_true_eq] at ends
  exact ⟨t, ends.2, remittance_confirmed_once remittanceOfTwo_unconfirmed rfl run ends.1.1 ends.1.2⟩

/-- The update of an item throws after its payment is registered, and the item ends up failed. -/
theorem remittance_not_confirmed_once :
    ¬∀ (id : RemittanceId) (s t : State ConfirmationDb Confirming), Unconfirmed id s.db →
      s.running = [] → Reaches (confirmation id).step s t → t.running = [] →
        pendingItems id t.db.items = [] → ConfirmedOnce id t.db := by
  intro always
  obtain ⟨t, run, ends⟩ := Run.exists_of_exec (confirmation 0).step (fun _ _ => True)
    ⟨remittanceOfTwo, []⟩
    [.start [1], .advance 0 (.made (noon 20030)), .advance 0 (.made (noon 20030)),
      .advance 0 (.made (noon 20030)), .advance 0 (.made (noon 20030)),
      .advance 0 (.throws "Timed out"), .advance 0 (.made (noon 20030)),
      .advance 0 (.made (noon 20030)), .advance 0 (.made (noon 20030))]
    (fun t => t.running.isEmpty && (pendingItems 0 t.db.items).isEmpty &&
      (t.db.items.find 0).any fun i => i.remittanceId = 0 && i.status = .failed &&
        carried t.db.docs i = 1) (by decide +kernel)
  simp only [Bool.and_eq_true, List.isEmpty_iff, decide_eq_true_eq, Option.any_eq_true] at ends
  obtain ⟨⟨finished, settled⟩, i, found, ⟨mine, failed⟩, one⟩ := ends
  have collected := ((always 0 ⟨remittanceOfTwo, []⟩ t remittanceOfTwo_unconfirmed rfl run finished
    settled).collected 0 i found mine).mpr one
  rw [failed] at collected
  cases collected

end StorageOS
