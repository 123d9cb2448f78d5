import StorageOS.Payments.Ledger
import StorageOS.Sepa.Sequence

/-! The sequence types over any history of operations. A mandate that has an item collected and not returned is
recurrent while it is active, a debit is presented as the first when none is collected and as recurrent when one has
been. -/

namespace StorageOS

open Transition

/-- The mandate has an item that was collected, also when it was returned afterwards. -/
def SepaItems.wasCollected (items : SepaItems) (mandateId : MandateId) : Bool :=
  items.values.any fun i =>
    i.mandateId = mandateId && (i.status = .collected || i.status = .returned)

def SepaItems.awaitingMandate (items : SepaItems) (mandateId : MandateId) : Bool :=
  items.values.any fun i => i.mandateId = mandateId && i.status = .pending

def SepaBook.imported (db : SepaBook) (m : MandateId) : Bool :=
  (db.mandates.find m).any fun row => row.sequenceType = .RCUR

/-- What the stored sequence type says of an active mandate, and of one that is not. -/
structure SequenceStored (imported : MandateId → Bool) (db : SepaBook) : Prop where
  recurrent : ∀ m row, db.mandates.find m = some row → imported m = false →
    row.status = .active → db.items.stillCollected m = true → row.sequenceType = .RCUR
  collected : ∀ m row, db.mandates.find m = some row → imported m = false →
    row.sequenceType = .RCUR → db.items.stillCollected m = true ∨
      ∃ i ∈ db.items.values, i.mandateId = m ∧ i.status = .returned ∧
        (i.sequenceType = .RCUR ∨ row.status ≠ .active)

/-- How a remittance presents its items, which are in the block of their sequence type in its file. -/
structure Presented (imported : MandateId → Bool) (db db' : SepaBook) : Prop where
  recurrent : ∀ k i, db.items.find k = none → db'.items.find k = some i →
    imported i.mandateId = false → i.sequenceType = .RCUR → db.items.wasCollected i.mandateId = true
  first : ∀ k i, db.items.find k = none → db'.items.find k = some i →
    imported i.mandateId = false → i.sequenceType = .FRST →
      db.items.stillCollected i.mandateId = false
  filed : ∀ k i, db.items.find k = none → db'.items.find k = some i →
    ∃ row block t, db'.remittances.find i.remittanceId = some row ∧ block ∈ row.file.pmtInf ∧
      block.sequenceType = i.sequenceType ∧ t ∈ block.transactions ∧ t.endToEndId = i.endToEndId ∧
        t.amountCents = i.amount

/-- A remittance presents one first debit of a mandate at most, and none while another awaits
confirmation. -/
def presentsOneFirst (db : SepaBook) : SepaAction → Bool
  | .createRemittance args =>
    (db.debits args).all fun debits =>
      (firstMandates debits).Nodup && (firstMandates debits).all fun m => !db.items.awaitingMandate m
  | _ => true

/-! ### Histories -/

section

variable {imported : MandateId → Bool} {db db' : SepaBook} {args : CreateRemittanceArgs}

variable (stored : SequenceStored imported db)
include stored

theorem SequenceStored.items {items : SepaItems}
    (collected : ∀ m, items.stillCollected m = db.items.stillCollected m)
    (returned : ∀ i ∈ db.items.values, i.status = .returned → i ∈ items.values) (remittances : SepaRemittances) :
    SequenceStored imported { db with remittances, items } where
  recurrent m row found own active has :=
    stored.recurrent m row found own active (collected m ▸ has)
  collected m row found own recurrent := by
    rcases stored.collected m row found own recurrent with has | ⟨i, mem, mandate, back, type⟩
    · exact .inl ((collected m).trans has)
    · exact .inr ⟨i, returned i mem back, mandate, back, type⟩

theorem SequenceStored.expire (expired : List (MandateId × SepaMandate)) :
    SequenceStored imported { db with mandates := expireMandates expired db.mandates } where
  recurrent m row found own active has := by
    obtain ⟨before, was, sequence, live⟩ := find_expireMandates found
    exact sequence.trans (stored.recurrent m before was own (live active) has)
  collected m row found own recurrent := by
    obtain ⟨before, was, sequence, live⟩ := find_expireMandates found
    refine (stored.collected m before was own (sequence ▸ recurrent)).imp_right ?_
    rintro ⟨i, mem, mandate, back, type⟩
    exact ⟨i, mem, mandate, back, type.imp_right fun inactive active => inactive (live active)⟩

theorem SequenceStored.create : SequenceStored imported (db.createRemittance args) := by
  have expired := stored.expire (expiredMandates args.today (activeMandates db.mandates))
  rcases createRemittance_cases args db with same | ⟨debits, -, same⟩
  · rw [same]
    exact expired
  · rw [same]
    refine expired.items (fun m => stillCollected_createItems) (fun i mem _ => ?_) _
    rw [values_createItems]
    exact List.mem_append_left _ mem

variable {id : RemittanceId}

theorem SequenceStored.confirm {clock : Clock} {rejected : List SepaItemId}
    (h : db.confirmRemittance clock id rejected = some db') : SequenceStored imported db' := by
  obtain ⟨row, -, h⟩ := Option.bind_eq_some_iff.mp h
  dsimp only at h
  split at h
  · cases h
    have loop : ConfirmedLoop (pendingItems id db.items) ⟨db.docs, db.items, []⟩
        (confirmItems clock row rejected (pendingItems id db.items) ⟨db.docs, db.items, []⟩) :=
      confirmItems_loop (pendingItems_distinct id db.items) fun p mem =>
        ⟨(mem_pendingItems mem).1, (mem_pendingItems mem).2.2⟩
    have settled : ∀ k i, db.items.find k = some i → i.status ≠ .pending →
        k ∉ (pendingItems id db.items).map Prod.fst := by
      intro k i found other mem
      obtain ⟨p, listed, rfl⟩ := List.mem_map.mp mem
      obtain ⟨found', -, waiting⟩ := mem_pendingItems listed
      cases found.symm.trans found'
      exact other waiting
    constructor
    · intro m mandate found own active has
      obtain ⟨before, was, status, sequence⟩ := find_recurMandates found
      rw [sequence]
      obtain ⟨k, i, place, ofMandate, collected⟩ := stillCollected_iff.mp has
      by_cases listed : k ∈ (pendingItems id db.items).map Prod.fst
      · -- The item was collected now, and its mandate with it.
        obtain ⟨p, mem, rfl⟩ := List.mem_map.mp listed
        obtain ⟨s, reason, place', ends⟩ := loop.items p mem
        cases place.symm.trans place'
        rcases ends with failed | ⟨-, adds⟩
        · exact absurd (failed.symm.trans collected) (by decide)
        · exact .inr ⟨ofMandate ▸ adds, status ▸ active⟩
      · refine .inl (stored.recurrent m before was own (status ▸ active) ?_)
        exact stillCollected_iff.mpr ⟨k, i, (loop.others k listed) ▸ place, ofMandate, collected⟩
    · intro m mandate found own recurrent
      obtain ⟨before, was, status, sequence⟩ := find_recurMandates found
      rcases sequence.mp recurrent with recurrent | ⟨mem, -⟩
      · rcases stored.collected m before was own recurrent with has | ⟨i, mem, mandate, back, type⟩
        · obtain ⟨k, i, place, ofMandate, collected⟩ := stillCollected_iff.mp has
          have kept := loop.others k (settled k i place (by rw [collected]; decide))
          exact .inl (stillCollected_iff.mpr ⟨k, i, kept.trans place, ofMandate, collected⟩)
        · obtain ⟨k, place⟩ := Table.mem_values.mp mem
          have kept := loop.others k (settled k i place (by rw [back]; decide))
          exact .inr ⟨i, Table.mem_values.mpr ⟨k, kept.trans place⟩, mandate, back,
            type.imp_right fun inactive => status ▸ inactive⟩
      · exact .inl ((loop.collected m mem).resolve_left List.not_mem_nil)
  · cases h

theorem SequenceStored.cancel (h : db.cancelRemittance id = some db') : SequenceStored imported db' := by
  obtain ⟨row, -, h⟩ := Option.bind_eq_some_iff.mp h
  split at h
  · cases h
    have kept : ∀ k i, db.items.find k = some i → i.status ≠ .pending →
        (db.items.updateMany (fun q => q.2.remittanceId = id && q.2.status = .pending)
          fun i => { i with status := .cancelled }).find k = some i := by
      intro k i found other
      rw [Table.find_updateMany, found, Option.map_some]
      simp [other]
    refine stored.items (fun m => ?_) (fun i mem back => ?_) _
    · rw [Bool.eq_iff_iff, stillCollected_iff, stillCollected_iff]
      constructor
      · rintro ⟨k, i, found, mandate, collected⟩
        rw [Table.find_updateMany, Option.map_eq_some_iff] at found
        obtain ⟨i₀, found, rfl⟩ := found
        dsimp only at collected mandate ⊢
        split at collected
        · cases collected
        · rename_i other
          rw [if_neg other] at mandate
          exact ⟨k, i₀, found, mandate, collected⟩
      · rintro ⟨k, i, found, mandate, collected⟩
        exact ⟨k, i, kept k i found (by rw [collected]; decide), mandate, collected⟩
    · obtain ⟨k, found⟩ := Table.mem_values.mp mem
      exact Table.mem_values.mpr ⟨k, kept k i found (by rw [back]; decide)⟩
  · cases h

end

section

variable {imported : MandateId → Bool} {db db' : SepaBook} {args : CreateRemittanceArgs}

theorem lastCollected_some {items : SepaItems} {invoiceId : InvoiceId}
    {p : SepaItemId × SepaItem} (h : lastCollected items invoiceId = some p) :
    items.find p.1 = some p.2 ∧ p.2.status = .collected := by
  have mem := (List.perm_insertionSort _ _).mem_iff.mp (List.mem_of_mem_head? h)
  obtain ⟨row, chosen⟩ := List.mem_filter.mp mem
  simp only [Bool.and_eq_true, decide_eq_true_eq] at chosen
  exact ⟨Table.find_eq_some.mpr row, chosen.2⟩

section

variable {items : SepaItems} {k : SepaItemId} {item : SepaItem}

variable {m : MandateId}

theorem stillCollected_of_returnItem (has : SepaItems.stillCollected (returnItem k items) m = true) :
    items.stillCollected m = true := by
  obtain ⟨j, i, found, mandate, collected⟩ := stillCollected_iff.mp has
  rcases Table.find_modify_cases found with ⟨-, before⟩ | ⟨-, i₀, -, rfl⟩
  · exact stillCollected_iff.mpr ⟨j, i, before, mandate, collected⟩
  · cases collected

theorem stillCollected_returnItem (found : items.find k = some item) (other : item.mandateId ≠ m)
    (has : items.stillCollected m = true) :
    SepaItems.stillCollected (returnItem k items) m = true := by
  obtain ⟨j, i, place, mandate, collected⟩ := stillCollected_iff.mp has
  refine stillCollected_iff.mpr ⟨j, i, ?_, mandate, collected⟩
  rw [returnItem, Table.find_modify_ne _ _]
  · exact place
  · rintro rfl
    cases found.symm.trans place
    exact other mandate

theorem mem_returnItem {i : SepaItem} (mem : i ∈ items.values) (back : i.status = .returned)
    (found : items.find k = some item) (collected : item.status = .collected) :
    i ∈ (returnItem k items).values := by
  obtain ⟨j, place⟩ := Table.mem_values.mp mem
  refine Table.mem_values.mpr ⟨j, ?_⟩
  rw [returnItem, Table.find_modify_ne _ _]
  · exact place
  · rintro rfl
    cases found.symm.trans place
    rw [back] at collected
    cases collected

theorem returned_mem (found : items.find k = some item) :
    { item with status := .returned, failureReason := some "Devuelto por el banco" } ∈
      (returnItem k items).values := by
  refine Table.mem_values.mpr ⟨k, ?_⟩
  rw [returnItem, Table.find_modify_self, found, Option.map_some]

end

variable {row : SepaMandate}

theorem SequenceStored.back (stored : SequenceStored imported db) {k : SepaItemId} {item : SepaItem}
    (found : db.items.find k = some item) (collected : item.status = .collected) {m : MandateId}
    (mandate : db.mandates.find m = some row) (own : imported m = false) (recurrent : row.sequenceType = .RCUR)
    (last : item.mandateId = m → SepaItems.stillCollected (returnItem k db.items) m = true ∨
      item.sequenceType = .RCUR ∨ row.status ≠ .active) :
    SepaItems.stillCollected (returnItem k db.items) m = true ∨
      ∃ i ∈ (returnItem k db.items).values, i.mandateId = m ∧ i.status = .returned ∧
        (i.sequenceType = .RCUR ∨ row.status ≠ .active) := by
  by_cases mine : item.mandateId = m
  · refine (last mine).imp_right fun type => ?_
    exact ⟨_, returned_mem found, mine, rfl, type⟩
  · rcases stored.collected m row mandate own recurrent with has | ⟨i, mem, ofMandate, back, type⟩
    · exact .inl (stillCollected_returnItem found mine has)
    · exact .inr ⟨i, mem_returnItem mem back found collected, ofMandate, back, type⟩

theorem find_resetMandate {mandates : SepaMandates} {mandateId m : MandateId}
    (h : (resetMandate mandateId mandates).find m = some row) :
    ∃ before, mandates.find m = some before ∧ row.status = before.status ∧
      (row.sequenceType = .RCUR ↔
        before.sequenceType = .RCUR ∧ ¬(m = mandateId ∧ before.status = .active)) := by
  simp only [resetMandate, Table.find_updateMany, Option.map_eq_some_iff] at h
  obtain ⟨before, was, rfl⟩ := h
  refine ⟨before, was, ?_, ?_⟩
  · split <;> rfl
  · by_cases mine : m = mandateId <;> by_cases active : before.status = .active <;>
      simp [mine, active]

theorem SequenceStored.returned (stored : SequenceStored imported db) (invoiceId : InvoiceId) :
    SequenceStored imported (db.markSepaItemReturned invoiceId) := by
  rw [SepaBook.markSepaItemReturned]
  split
  · exact stored
  · rename_i k item last
    obtain ⟨found, collected⟩ := lastCollected_some last
    -- The mandate keeps its row when it may stay recurrent without the item.
    have stays : (item.sequenceType = .RCUR ∨
        SepaItems.stillCollected (returnItem k db.items) item.mandateId = true) →
        SequenceStored imported { db with items := returnItem k db.items } := by
      intro may
      constructor
      · exact fun m row mandate own active has =>
          stored.recurrent m row mandate own active (stillCollected_of_returnItem has)
      · intro m row mandate own recurrent
        refine stored.back found collected mandate own recurrent ?_
        rintro rfl
        exact may.elim (fun type => .inr (.inl type)) .inl
    dsimp only
    split
    · rename_i other
      refine stays (.inl ?_)
      cases sequence : item.sequenceType with
      | FRST => exact absurd sequence other
      | RCUR => rfl
    · split
      · rename_i still
        exact stays (.inr still)
      · rename_i none
        constructor
        · intro m row mandate own active has
          obtain ⟨before, was, status, sequence⟩ := find_resetMandate mandate
          refine sequence.mpr ⟨?_, ?_⟩
          · exact stored.recurrent m before was own (status ▸ active)
              (stillCollected_of_returnItem has)
          · rintro ⟨rfl, -⟩
            exact none has
        · intro m row mandate own recurrent
          obtain ⟨before, was, status, sequence⟩ := find_resetMandate mandate
          obtain ⟨recurrent, kept⟩ := sequence.mp recurrent
          rw [status]
          refine stored.back found collected was own recurrent ?_
          rintro rfl
          exact .inr (.inr fun active => kept ⟨rfl, active⟩)

theorem SequenceStored.step (stored : SequenceStored imported db) {a : SepaAction}
    (h : sepaStep db a = some db') : SequenceStored imported db' := by
  cases a with
  | createRemittance args =>
    cases h
    exact stored.create
  | confirmRemittance clock id rejected => exact stored.confirm h
  | cancelRemittance id => exact stored.cancel h
  | markSepaItemReturned invoiceId =>
    cases h
    exact stored.returned invoiceId
  | changeDocuments docs =>
    cases h
    exact ⟨stored.recurrent, stored.collected⟩

theorem SequenceStored.presented (stored : SequenceStored imported db)
    (args : CreateRemittanceArgs) : Presented imported db (db.createRemittance args) := by
  rcases createRemittance_cases args db with same | ⟨debits, chosen, same⟩
  · rw [same]
    constructor <;> intro k i fresh found <;> cases fresh.symm.trans found
  · rw [same]
    have ofDebit : ∀ k i, db.items.find k = none →
        (createItems db.remittances.nextKey debits db.items).find k = some i →
        ∃ d ∈ debits, i = d.item db.remittances.nextKey ∧
          ∃ row, db.mandates.find d.mandateId = some row ∧ row.status = .active ∧
            d.transaction.sequenceType = row.sequenceType := by
      intro k i fresh found
      rcases find_createItems found with before | ⟨d, mem, rfl⟩
      · cases fresh.symm.trans before
      · exact ⟨d, mem, rfl, mem_debits chosen mem⟩
    constructor
    · intro k i fresh found own recurrent
      obtain ⟨d, -, rfl, row, mandate, -, type⟩ := ofDebit k i fresh found
      rcases stored.collected _ row mandate own (type.symm.trans recurrent) with has | back
      · obtain ⟨j, i, place, same, collected⟩ := stillCollected_iff.mp has
        refine List.any_eq_true.mpr ⟨i, Table.mem_values.mpr ⟨j, place⟩, ?_⟩
        simp [collected, same, Debit.item]
      · obtain ⟨i, mem, same, back, -⟩ := back
        refine List.any_eq_true.mpr ⟨i, mem, ?_⟩
        simp [back, same, Debit.item]
    · intro k i fresh found own first
      obtain ⟨d, -, rfl, row, mandate, active, type⟩ := ofDebit k i fresh found
      rw [← Bool.not_eq_true]
      intro has
      have recurrent := stored.recurrent _ row mandate own active has
      rw [← type] at recurrent
      exact absurd (first.symm.trans recurrent) (by decide)
    · intro k i fresh found
      obtain ⟨d, mem, rfl, -⟩ := ofDebit k i fresh found
      have listed : d.transaction ∈ debits.map Debit.transaction := List.mem_map_of_mem mem
      obtain ⟨block, filed, type, inBlock⟩ := @mem_pmtInf args.messageId args.settings.creditor
        args.input.collectionDate _ _ listed
      refine ⟨newRemittance args.settings args.messageId args.input debits, block, d.transaction, ?_,
        filed, type, inBlock, rfl, rfl⟩
      exact (Table.find_push _ _ _).trans (if_pos rfl)

end

/-! ### First debits -/

section

variable {imported : MandateId → Bool} {db db' : SepaBook} {args : CreateRemittanceArgs}

theorem SequenceStored.no_firstDebits (stored : SequenceStored imported db) {debits : List Debit}
    (chosen : db.debits args = some debits) {m : MandateId} (own : imported m = false)
    (first : m ∈ firstMandates debits) (idle : db.items.awaitingMandate m = false) : db.items.firstDebits m = [] := by
  obtain ⟨d, mem, rfl⟩ := List.mem_map.mp first
  obtain ⟨mem, type⟩ := List.mem_filter.mp mem
  rw [decide_eq_true_eq] at type
  obtain ⟨row, mandate, active, same⟩ := mem_debits chosen mem
  refine List.filter_eq_nil_iff.mpr fun i listed isFirst => ?_
  simp only [Bool.and_eq_true, decide_eq_true_eq, SepaItemStatus.live, Bool.or_eq_true] at isFirst
  obtain ⟨⟨ofMandate, pending | collected⟩, -⟩ := isFirst
  · have none := List.any_eq_false.mp idle i listed
    simp [ofMandate, pending] at none
  · have has : db.items.stillCollected d.mandateId = true :=
      List.any_eq_true.mpr ⟨i, listed, by simp [ofMandate, collected]⟩
    have recurrent := stored.recurrent _ row mandate own active has
    rw [← same, type] at recurrent
    cases recurrent

theorem firstDebits_create (stored : SequenceStored imported db)
    (one : presentsOneFirst db (.createRemittance args) = true) {m : MandateId} (own : imported m = false)
    (before : (db.items.firstDebits m).length ≤ 1) :
    ((db.createRemittance args).items.firstDebits m).length ≤ 1 := by
  rcases createRemittance_cases args db with same | ⟨debits, chosen, same⟩
  · rw [same]
    exact before
  · rw [same]
    dsimp only
    rw [firstDebits_createItems]
    simp only [presentsOneFirst, chosen, Option.all_some, Bool.and_eq_true, decide_eq_true_eq] at one
    by_cases first : m ∈ firstMandates debits
    · have idle := List.all_eq_true.mp one.2 m first
      rw [Bool.not_eq_true'] at idle
      rw [stored.no_firstDebits chosen own first idle]
      have := List.nodup_iff_count_le_one.mp one.1 m
      simpa using this
    · rw [List.count_eq_zero_of_not_mem first]
      exact before

theorem firstDebits_confirm {clock : Clock} {id : RemittanceId} {rejected : List SepaItemId}
    (h : db.confirmRemittance clock id rejected = some db') (m : MandateId) :
    (db'.items.firstDebits m).length ≤ (db.items.firstDebits m).length := by
  obtain ⟨row, -, h⟩ := Option.bind_eq_some_iff.mp h
  dsimp only at h
  split at h
  · cases h
    exact (confirmItems_loop (pendingItems_distinct id db.items) fun p mem =>
      ⟨(mem_pendingItems mem).1, (mem_pendingItems mem).2.2⟩).first m
  · cases h

theorem firstDebits_cancel {id : RemittanceId} (h : db.cancelRemittance id = some db') (m : MandateId) :
    (db'.items.firstDebits m).length ≤ (db.items.firstDebits m).length := by
  obtain ⟨row, -, h⟩ := Option.bind_eq_some_iff.mp h
  split at h
  · cases h
    refine firstDebits_le rfl (fun r _ => ?_) m
    split
    · exact ⟨rfl, rfl, fun live => by cases live⟩
    · exact ⟨rfl, rfl, fun live => live⟩
  · cases h

theorem firstDebits_returned (db : SepaBook) (invoiceId : InvoiceId) (m : MandateId) :
    ((db.markSepaItemReturned invoiceId).items.firstDebits m).length ≤
      (db.items.firstDebits m).length := by
  have back : ∀ k, (SepaItems.firstDebits (returnItem k db.items) m).length ≤
      (db.items.firstDebits m).length := by
    intro k
    refine firstDebits_modify_le (f := fun i =>
      { i with status := .returned, failureReason := some "Devuelto por el banco" })
      (fun _ => rfl) (fun _ => rfl) (fun i _ live => ?_) m
    simp [SepaItemStatus.live] at live
  rw [SepaBook.markSepaItemReturned]
  split
  · exact le_refl _
  · dsimp only
    split
    · exact back _
    · split <;> exact back _

theorem firstDebits_step (stored : SequenceStored imported db) {a : SepaAction} (one : presentsOneFirst db a = true)
    (h : sepaStep db a = some db') {m : MandateId} (own : imported m = false)
    (before : (db.items.firstDebits m).length ≤ 1) :
    (db'.items.firstDebits m).length ≤ 1 := by
  cases a with
  | createRemittance args =>
    cases h
    exact firstDebits_create stored one own before
  | confirmRemittance clock id rejected => exact (firstDebits_confirm h m).trans before
  | cancelRemittance id => exact (firstDebits_cancel h m).trans before
  | markSepaItemReturned invoiceId =>
    cases h
    exact (firstDebits_returned db invoiceId m).trans before
  | changeDocuments docs =>
    cases h
    exact before

end

/-! ### Runs -/

theorem SequenceStored.start {s : SepaBook} (empty : s.items.rows = []) :
    SequenceStored s.imported s := by
  have values : s.items.values = [] := by rw [Table.values, empty, List.map_nil]
  constructor
  · intro m row _ _ _ has
    rw [SepaItems.stillCollected, values] at has
    cases has
  · intro m row found own recurrent
    rw [SepaBook.imported, found] at own
    simp [recurrent] at own

/-- In every history that begins without remittances, the stored types of the active mandates follow their collected
items, each remittance presents its debits by them, and while none presents two first debits there is one at a time.
-/
theorem debits_in_sequence {s t : SepaBook} (empty : s.items.rows = []) (run : Reaches sepaStep s t) :
    SequenceStored s.imported t ∧
      (∀ args, Presented s.imported t (t.createRemittance args)) ∧
        (Run sepaStep (fun db a => presentsOneFirst db a = true) s t →
          ∀ m, s.imported m = false → (t.items.firstDebits m).length ≤ 1) := by
  have stored : SequenceStored s.imported t :=
    run.invariant (SequenceStored.start empty) fun stored _ h => stored.step h
  refine ⟨stored, stored.presented, fun careful m own => ?_⟩
  have both : SequenceStored s.imported t ∧ (t.items.firstDebits m).length ≤ 1 :=
    careful.invariant (P := fun x => SequenceStored s.imported x ∧ (x.items.firstDebits m).length ≤ 1)
      ⟨SequenceStored.start empty, by
        rw [SepaItems.firstDebits, Table.values, empty]
        exact Nat.zero_le 1⟩
      fun before one h => ⟨before.1.step h, firstDebits_step before.1 one h own before.2⟩
  exact both.2

def newMandate : SepaBook where
  docs := (Table.empty.push
    ⟨{ issuedInvoice 10000 with invoiceNumber := "F-1" }, .empty⟩).push
    ⟨{ issuedInvoice 5000 with invoiceNumber := "F-2" }, .empty⟩
  mandates := Table.empty.push
    ⟨1, "MND-1", "ES80", none, 19900, .FRST, none, .active, .external, some 14⟩
  remittances := .empty
  items := .empty

def remittanceArgs (ids : Option (List InvoiceId)) : CreateRemittanceArgs where
  tenantId := 1
  settings := ⟨"Trasteros", "ES12ZZZB12345678", "ES91", none, 14⟩
  customerName _ := "Ana"
  input := ⟨"Mayo", 20030, ids⟩
  today := 20005
  firstDay _ := ""
  plans := []
  suffix _ := "00FF"
  messageId := "REM-1"

def collectBoth : List SepaAction :=
  [.createRemittance (remittanceArgs (some [0])), .confirmRemittance (noon 20030) 0 [],
    .createRemittance (remittanceArgs (some [1])), .confirmRemittance (noon 20030) 1 []]

/-- The first debit is presented as the first, the second one as recurrent. -/
theorem debits_in_sequence_both : ∃ t : SepaBook,
    t.items.values.map SepaItem.sequenceType = [.FRST, .RCUR] ∧
      SequenceStored newMandate.imported t ∧ (t.items.firstDebits 0).length ≤ 1 := by
  obtain ⟨t, run, ends⟩ := Run.exists_of_exec sepaStep
    (fun db a => presentsOneFirst db a = true) newMandate collectBoth
    (fun t => t.items.values.map SepaItem.sequenceType = [.FRST, .RCUR]) (by decide +kernel)
  have kept := debits_in_sequence (s := newMandate) rfl (run.mono fun _ _ _ => trivial)
  exact ⟨t, by simpa using ends, kept.1, kept.2.2 run 0 (by decide)⟩

/-- Two invoices of one remittance are both presented as the first. And when both debits are returned,
the recurrent one last, the mandate stays recurrent with nothing collected. -/
theorem debits_out_of_sequence :
    (¬∀ s t : SepaBook, s.items.rows = [] → Reaches sepaStep s t →
      ∀ m, s.imported m = false → (t.items.firstDebits m).length ≤ 1) ∧
    ¬∀ s t : SepaBook, s.items.rows = [] → Reaches sepaStep s t →
      ∀ m row, t.mandates.find m = some row → s.imported m = false →
        (row.sequenceType = .RCUR ↔ t.items.stillCollected m = true) := by
  constructor
  · intro always
    obtain ⟨t, run, ends⟩ := Run.exists_of_exec sepaStep (fun _ _ => True) newMandate
      [.createRemittance (remittanceArgs none)]
      (fun t => (t.items.firstDebits 0).length = 2) (by decide +kernel)
    have one := always newMandate t rfl run 0 (by decide)
    rw [decide_eq_true_eq] at ends
    omega
  · intro always
    obtain ⟨t, run, ends⟩ := Run.exists_of_exec sepaStep (fun _ _ => True) newMandate
      (collectBoth ++ [.markSepaItemReturned 0, .markSepaItemReturned 1])
      (fun t => !t.items.stillCollected 0 &&
        (t.mandates.find 0).any fun row => row.sequenceType = .RCUR) (by decide +kernel)
    simp only [Bool.and_eq_true, Bool.not_eq_true', Option.any_eq_true, decide_eq_true_eq] at ends
    obtain ⟨none, row, found, recurrent⟩ := ends
    have has := (always newMandate t rfl run 0 row found (by decide)).mp recurrent
    rw [none] at has
    cases has

end StorageOS
