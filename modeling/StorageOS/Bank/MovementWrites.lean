import StorageOS.Bank.Reconciliation
import StorageOS.Payments.Ledger

/-! The payments made from bank movements, what the transactions write of them, and the runs in which
every movement is used once. -/

namespace StorageOS

open Transition Processes

/-! ### The payments of a movement -/

def BankDb.payment (db : BankDb) (ref : PaymentRef) : Option NotedPayment :=
  (db.accounts.find ref.invoiceId).bind fun a => a.payments.find ref.paymentId

def BankDb.live (db : BankDb) (ref : PaymentRef) : Option ℤ :=
  ((db.payment ref).filter fun p => p.status = .succeeded).map fun p => p.amount

/-- The payments made from a movement that have not been reverted, with their amounts. -/
def BankDb.standing (db : BankDb) (t : MovementId) : List (PaymentRef × ℤ) :=
  (db.made.filter fun m => m.1 = t).filterMap fun m => (db.live m.2).map fun cents => (m.2, cents)

def BankDb.used (db : BankDb) (t : MovementId) : ℤ := ((db.standing t).map Prod.snd).sum

def BankDb.returnedBy (db : BankDb) (t : MovementId) : List (MovementId × PaymentRef) :=
  db.reverted.filter fun m => m.1 = t

variable {db db' : BankDb} {t : MovementId} {ref : PaymentRef}

theorem mem_standing {cents : ℤ} :
    (ref, cents) ∈ db.standing t ↔ (t, ref) ∈ db.made ∧ db.live ref = some cents := by
  rw [BankDb.standing, List.mem_filterMap]
  constructor
  · rintro ⟨⟨t', ref'⟩, mem, h⟩
    obtain ⟨made, same⟩ := List.mem_filter.mp mem
    obtain ⟨cents', live, same'⟩ := Option.map_eq_some_iff.mp h
    cases same'
    cases of_decide_eq_true same
    exact ⟨made, live⟩
  · rintro ⟨made, live⟩
    exact ⟨(t, ref), List.mem_filter.mpr ⟨made, by simp⟩, by simp [live]⟩

structure Pays (db : BankDb) (t : MovementId) (part : MatchPart) (db' : BankDb) (ref : PaymentRef) :
    Prop where
  fresh : db.payment ref = none
  transactions : db'.transactions = db.transactions
  made : db'.made = (t, ref) :: db.made
  reverted : db'.reverted = db.reverted
  live : db'.live ref = some part.cents
  others : ∀ other, other ≠ ref → db'.payment other = db.payment other

variable {clock : Clock} {invoiceId : InvoiceId} {other : PaymentRef} {p : NotedPayment}

theorem pay_pays {part : MatchPart} {notes : String} (paid : db.pay t part notes clock = some db') :
    ∃ ref, Pays db t part db' ref := by
  obtain ⟨a, found, h⟩ := Option.bind_eq_some_iff.mp paid
  obtain ⟨b, collected, rfl⟩ := Option.map_eq_some_iff.mp h
  obtain ⟨payment, collection, pushed⟩ :=
    NotedAccount.markPaidManually_ok (Outcome.ok_of_toOption collected)
  refine ⟨⟨part.invoiceId, a.payments.nextKey⟩, ?_⟩
  constructor
  · simp [BankDb.payment, found, Table.find_nextKey]
  · rfl
  · rfl
  · rfl
  · simp [BankDb.live, BankDb.payment, found, pushed, Table.find_push, collection.payment,
      manualPayment]
  · intro other ne
    rw [BankDb.payment, BankDb.payment, Table.find_modify]
    by_cases same : other.invoiceId = part.invoiceId
    · have ne : other.paymentId ≠ a.payments.nextKey := by
        intro h
        exact ne (by cases other; simp_all)
      simp [same, found, pushed, Table.find_push, ne]
    · simp [same]

structure Reverts (db : BankDb) (refs : List PaymentRef) (db' : BankDb) : Prop where
  transactions : db'.transactions = db.transactions
  made : db'.made = db.made
  reverted : db'.reverted = db.reverted
  failed : ∀ ref ∈ refs, ∃ p, db'.payment ref = some p ∧ p.status = .failed
  others : ∀ other, other ∉ refs → db'.payment other = db.payment other

theorem revert_reverts {input : RevertPaymentInput} {refs : List PaymentRef}
    (reopened : db.revert invoiceId input clock = some (db', refs)) :
    Reverts db refs db' ∧
      ∀ paymentId, input.paymentId = some paymentId → refs = [⟨invoiceId, paymentId⟩] := by
  obtain ⟨a, found, h⟩ := Option.bind_eq_some_iff.mp reopened
  obtain ⟨b, reverted, same⟩ := Option.map_eq_some_iff.mp h
  cases same
  obtain ⟨named, payments⟩ := NotedAccount.revertPayment_ok (Outcome.ok_of_toOption reverted)
  refine ⟨⟨rfl, rfl, rfl, fun ref mem => ?_, fun other out => ?_⟩, fun paymentId chosen => ?_⟩
  · obtain ⟨q, chosen, rfl⟩ := List.mem_map.mp mem
    have live := (revertedPayments_sublist input a.account.livePayments).subset chosen
    obtain ⟨row, -⟩ := List.mem_filter.mp ((List.mem_insertionSort _).mp live)
    obtain ⟨⟨k, p⟩, stored, same⟩ := List.mem_map.mp row
    cases same
    have held : a.payments.find k = some p := Table.find_eq_some.mpr stored
    have chosen : k ∈ (revertedPayments input a.account.livePayments).map Prod.fst :=
      List.mem_map_of_mem chosen
    simp [BankDb.payment, found, payments, Table.find_updateMany, held, chosen]
  · rw [BankDb.payment, BankDb.payment, Table.find_modify]
    by_cases same : other.invoiceId = invoiceId
    · have spared : other.paymentId ∉ (revertedPayments input a.account.livePayments).map Prod.fst := by
        intro mem
        obtain ⟨q, mem, same'⟩ := List.mem_map.mp mem
        exact out (List.mem_map.mpr ⟨q, mem, by cases other; simp_all⟩)
      simp only [same, if_true, found, Option.map_some, Option.bind_some, payments,
        Table.find_updateMany, spared, decide_false, Bool.false_eq_true, if_false, Option.map_id']
    · simp [same]
  · have exact' := named (by simp [chosen])
    rw [Option.isSome_iff_exists] at exact'
    obtain ⟨q, here⟩ := exact'
    have only : revertedPayments input a.account.livePayments = [q] := by
      rw [revertedPayments, here]
    have id : q.1 = paymentId := by
      simp only [exactPayment, chosen] at here
      simpa using List.find?_some here
    rw [only, List.map_singleton, id]

theorem lastAutomatic_known (last : db.lastAutomatic invoiceId = some ref) : ∃ p, db.payment ref = some p := by
  obtain ⟨a, found, h⟩ := Option.bind_eq_some_iff.mp last
  obtain ⟨⟨k, p⟩, first, rfl⟩ := Option.map_eq_some_iff.mp h
  have stored := (List.mem_insertionSort _).mp (List.mem_of_head? first)
  have held : a.payments.find k = some p :=
    Table.find_eq_some.mpr (List.mem_filter.mp stored).1
  exact ⟨p, by simp [BankDb.payment, found, held]⟩

/-- The payments made are different ones and are there, and the ones reverted are lost. -/
structure BankDb.Known (db : BankDb) : Prop where
  once : (db.made.map Prod.snd).Nodup
  linked : ∀ t row ref, db.transactions.find t = some row → row.matchedPaymentId = some ref →
    ∃ p, db.payment ref = some p
  made : ∀ m ∈ db.made, ∃ p, db.payment m.2 = some p
  failed : ∀ m ∈ db.reverted, ∃ p, db.payment m.2 = some p ∧ p.status = .failed

theorem standing_congr (made : db'.made = db.made)
    (same : ∀ m ∈ db.made, m.1 = t → db'.live m.2 = db.live m.2) :
    db'.standing t = db.standing t := by
  rw [BankDb.standing, BankDb.standing, made]
  apply List.filterMap_congr
  intro m mem
  obtain ⟨mem, own⟩ := List.mem_filter.mp mem
  rw [same m mem (of_decide_eq_true own)]

section Pays

variable {part : MatchPart}

variable (pays : Pays db t part db' ref)
include pays

theorem Pays.standing (known : db.Known) (t' : MovementId) :
    db'.standing t' = (if t' = t then [(ref, part.cents)] else []) ++ db.standing t' := by
  have rest : ∀ m ∈ db.made.filter (fun m => m.1 = t'), db'.live m.2 = db.live m.2 := by
    intro m mem
    obtain ⟨p, found⟩ := known.made m (List.mem_filter.mp mem).1
    have other : m.2 ≠ ref := by
      rintro same
      rw [same, pays.fresh] at found
      cases found
    rw [BankDb.live, BankDb.live, pays.others m.2 other]
  have kept : ((db.made.filter fun m => m.1 = t').filterMap fun m =>
      (db'.live m.2).map fun cents => (m.2, cents)) = db.standing t' :=
    List.filterMap_congr fun m mem => by rw [rest m mem]
  rw [BankDb.standing, pays.made, List.filter_cons]
  by_cases own : t' = t
  · subst own
    simp [pays.live, kept]
  · simp [own, Ne.symm own, kept]

theorem Pays.stays (found : db.payment other = some p) : db'.payment other = some p := by
  rw [pays.others other, found]
  rintro rfl
  rw [pays.fresh] at found
  cases found

theorem Pays.known (known : db.Known) : db'.Known := by
  constructor
  · rw [pays.made, List.map_cons, List.nodup_cons]
    refine ⟨fun mem => ?_, known.once⟩
    obtain ⟨m, mem, same⟩ := List.mem_map.mp mem
    obtain ⟨p, found⟩ := known.made m mem
    rw [same, pays.fresh] at found
    cases found
  · intro t' row other found linked
    rw [pays.transactions] at found
    obtain ⟨p, there⟩ := known.linked t' row other found linked
    exact ⟨p, pays.stays there⟩
  · intro m mem
    rw [pays.made] at mem
    rcases List.mem_cons.mp mem with rfl | mem
    · have live := pays.live
      rw [BankDb.live, Option.map_eq_some_iff] at live
      obtain ⟨p, held, -⟩ := live
      exact ⟨p, (Option.filter_eq_some_iff.mp held).1⟩
    · obtain ⟨p, found⟩ := known.made m mem
      exact ⟨p, pays.stays found⟩
  · intro m mem
    rw [pays.reverted] at mem
    obtain ⟨p, found, failed⟩ := known.failed m mem
    exact ⟨p, pays.stays found, failed⟩

end Pays

section Reverts

variable {refs : List PaymentRef}

variable (reverts : Reverts db refs db')
include reverts

theorem Reverts.live (other : PaymentRef) : db'.live other = if other ∈ refs then none else db.live other := by
  split
  · rename_i mem
    obtain ⟨p, found, failed⟩ := reverts.failed other mem
    simp [BankDb.live, found, failed]
  · rename_i out
    rw [BankDb.live, BankDb.live, reverts.others other out]

theorem Reverts.standing (spared : ∀ ref ∈ refs, (t, ref) ∉ db.made) : db'.standing t = db.standing t := by
  refine standing_congr reverts.made fun m mem own => ?_
  rw [reverts.live, if_neg]
  intro chosen
  subst own
  exact spared m.2 chosen mem

theorem Reverts.stays (found : db.payment other = some p) :
    ∃ p', db'.payment other = some p' ∧ (p.status = .failed → p'.status = .failed) := by
  by_cases mem : other ∈ refs
  · obtain ⟨p', found', failed⟩ := reverts.failed other mem
    exact ⟨p', found', fun _ => failed⟩
  · exact ⟨p, (reverts.others other mem).trans found, fun failed => failed⟩

theorem Reverts.known (known : db.Known) : db'.Known := by
  constructor
  · rw [reverts.made]
    exact known.once
  · intro t row ref found linked
    rw [reverts.transactions] at found
    obtain ⟨p, there⟩ := known.linked t row ref found linked
    obtain ⟨p', there', -⟩ := reverts.stays there
    exact ⟨p', there'⟩
  · intro m mem
    rw [reverts.made] at mem
    obtain ⟨p, found⟩ := known.made m mem
    obtain ⟨p', found', -⟩ := reverts.stays found
    exact ⟨p', found'⟩
  · intro m mem
    rw [reverts.reverted] at mem
    obtain ⟨p, found, failed⟩ := known.failed m mem
    obtain ⟨p', found', failed'⟩ := reverts.stays found
    exact ⟨p', found', failed' failed⟩

end Reverts

/-! ### Runs in order -/

def BankDb.takes (db : BankDb) (t : MovementId) (input : BankInput) : Bool :=
  !input.fails && db.status t = some .pending

def NotedAccount.chosen (a : NotedAccount) (invoiceId : InvoiceId) (cents : ℤ) : List PaymentRef :=
  (revertedPayments ⟨euros cents, none, false⟩ a.account.livePayments).map fun q => ⟨invoiceId, q.1⟩

/-- A match has something to pay and takes a movement without payments; an undo finds the payment it
has read; a return reverts some payment, and none made from a movement; and neither a release nor
what follows an automatic payment fails. -/
def bankInOrder (db : BankDb) (call : BankCall) (input : BankInput) : Bool :=
  match call with
  | .claiming t _ plan => !db.takes t input || (!plan.isEmpty && (db.standing t).isEmpty)
  | .autoMatching ⟨(t, row) :: _, candidates, used⟩ =>
    !db.takes t input || (autoHits row candidates used).length ≠ 1 || (db.standing t).isEmpty
  | .claimingUndo t u =>
    input.fails || (db.transactions.find t).all fun row =>
      !(row.status = .matched && row.autoMatched) ||
        (row.matchedPaymentId = some u.payment && u.payment ∈ (db.standing t).map Prod.fst)
  | .reverting _ invoiceId cents =>
    input.fails || (db.accounts.find invoiceId).all fun a =>
      a.invoice.amountPaid ≤ 0 || (!(a.chosen invoiceId cents).isEmpty &&
        (a.chosen invoiceId cents).all fun ref => !(ref ∈ db.made.map Prod.snd))
  | .releasing _ _ | .autoFinding _ _ _ | .autoLinking _ _ _ | .autoReleasing _ _ | .restoring _ _ =>
    !input.fails
  | _ => true

/-! ### What a request knows -/

def BankDb.hasAmount (db : BankDb) (t : MovementId) (amount : ℤ) : Prop :=
  ∀ row, db.transactions.find t = some row → row.amount = amount

def AutoQueue.Sound (db : BankDb) (rows : List (MovementId × BankTransaction)) : Prop :=
  ∀ q ∈ rows, db.hasAmount q.1 q.2.amount

def BankCall.Sound (db : BankDb) : BankCall → Prop
  | .planning t amount _ => db.hasAmount t amount
  | .claiming t _ plan => ∀ row, db.transactions.find t = some row →
    (plan.map MatchPart.cents).sum ≤ max 0 row.amount
  | .readingPaid t amount _ => db.hasAmount t amount ∧ amount < 0
  | .claimingReturn t _ _ => ∀ row, db.transactions.find t = some row → row.amount < 0
  | .loadingCandidates rows => AutoQueue.Sound db rows
  | .autoMatching queue | .autoPaying _ _ queue | .autoFinding _ _ queue | .autoReleasing _ queue =>
    AutoQueue.Sound db queue.rows
  | .autoLinking _ payment queue => AutoQueue.Sound db queue.rows ∧
    ∀ ref, payment = some ref → ∃ p, db.payment ref = some p
  | .revertingUndo t u => (t, u.payment) ∈ db.made
  | _ => True

/-- The movements are the same ones, of the same amounts, and no payment disappears. -/
structure BankDb.Follows (db db' : BankDb) : Prop where
  amounts : ∀ t row', db'.transactions.find t = some row' →
    ∃ row, db.transactions.find t = some row ∧ row.amount = row'.amount
  payments : ∀ ref p, db.payment ref = some p → ∃ p', db'.payment ref = some p'
  made : ∀ m ∈ db.made, m ∈ db'.made

/-! ### Writes -/

/-- What a transaction writes. -/
inductive BankWrite (db : BankDb) : BankDb → Prop
  | nothing : BankWrite db db
  | updates (t : MovementId) (f : BankTransaction → BankTransaction)
      (kept : ∀ row, (f row).amount = row.amount)
      (linked : ∀ row ref, (f row).matchedPaymentId = some ref →
        row.matchedPaymentId = some ref ∨ ∃ p, db.payment ref = some p) :
    BankWrite db (db.update t f)
  | pays {t : MovementId} {part : MatchPart} {db' : BankDb} {ref : PaymentRef}
      (pays : Pays db t part db' ref) : BankWrite db db'
  | undoes {refs : List PaymentRef} {db' : BankDb} (reverts : Reverts db refs db') : BankWrite db db'
  | returns {refs : List PaymentRef} {db' : BankDb} (t : MovementId)
      (reverts : Reverts db refs db') :
    BankWrite db { db' with reverted := refs.map (fun ref => (t, ref)) ++ db'.reverted }

variable {call : BankCall} {input : BankInput} {rest : Option BankCall} {running : List BankCall}

theorem nextBank_write (sound : call.Sound db) : BankWrite db (nextBank db call input).1 := by
  rw [nextBank]
  split
  · exact .nothing
  cases call with
  | matching t invoiceIds =>
    simp only [commitBank]
    split
    · exact .nothing
    · split <;> exact .nothing
  | planning t amount invoiceIds =>
    simp only [commitBank]
    split <;> exact .nothing
  | claiming t invoiceId plan =>
    simp only [commitBank]
    split
    · exact .updates t _ (fun _ => rfl) fun _ _ => .inl
    · exact .nothing
  | paying t part plan applied =>
    simp only [commitBank]
    split
    · exact .nothing
    · rename_i paid
      obtain ⟨ref, pays⟩ := pay_pays paid
      exact .pays pays
  | releasing t status =>
    simp only [commitBank]
    split
    · exact .updates t _ (fun _ => rfl) fun _ _ => .inl
    · exact .nothing
  | returning t invoiceId =>
    simp only [commitBank]
    split
    · exact .nothing
    · split <;> exact .nothing
  | readingPaid t amount invoiceId =>
    simp only [commitBank]
    split <;> exact .nothing
  | claimingReturn t invoiceId cents =>
    simp only [commitBank]
    split
    · exact .updates t _ (fun _ => rfl) fun _ _ => .inl
    · exact .nothing
  | reverting t invoiceId cents =>
    simp only [commitBank]
    split
    · exact .nothing
    · rename_i reopened
      exact .returns t (revert_reverts reopened).1
  | ignoring t =>
    simp only [commitBank]
    split
    · exact .updates t _ (fun _ => rfl) fun _ _ => .inl
    · exact .nothing
  | collecting statementIds =>
    simp only [commitBank]
    split <;> exact .nothing
  | loadingCandidates rows => exact .nothing
  | autoMatching queue =>
    obtain ⟨rows, candidates, used⟩ := queue
    cases rows with
    | nil => exact .nothing
    | cons head rows =>
      simp only [commitBank]
      split
      · split
        · split
          · exact .updates head.1 _ (fun _ => rfl) fun _ _ => .inl
          · exact .nothing
        · exact .nothing
      · exact .nothing
  | autoPaying t part queue =>
    simp only [commitBank]
    split
    · exact .nothing
    · rename_i paid
      obtain ⟨ref, pays⟩ := pay_pays paid
      exact .pays pays
  | autoFinding t invoiceId queue => exact .nothing
  | autoLinking t payment queue =>
    exact .updates t _ (fun _ => rfl) fun _ ref linked => .inr (sound.2 ref linked)
  | autoReleasing t queue =>
    simp only [commitBank]
    split
    · exact .updates t _ (fun _ => rfl) fun _ _ => .inl
    · exact .nothing
  | undoing t =>
    simp only [commitBank]
    split
    · exact .nothing
    · split
      · split <;> exact .nothing
      · exact .nothing
  | claimingUndo t u =>
    simp only [commitBank]
    split
    · exact .updates t _ (fun _ => rfl) fun _ _ => .inl
    · exact .nothing
  | revertingUndo t u =>
    simp only [commitBank]
    split
    · exact .nothing
    · split
      · exact .nothing
      · rename_i reopened
        exact .undoes (revert_reverts reopened).1
  | restoring t u => exact .updates t _ (fun _ => rfl) fun _ _ => .inl
  | clearing t => exact .updates t _ (fun _ => rfl) fun _ ref linked => by cases linked

theorem BankWrite.known (write : BankWrite db db') (known : db.Known) : db'.Known := by
  cases write with
  | nothing => exact known
  | updates t f kept linked =>
    refine ⟨known.once, fun t' row' ref found holds => ?_, known.made, known.failed⟩
    rcases Table.find_modify_cases found with ⟨-, same⟩ | ⟨rfl, row, same, rfl⟩
    · exact known.linked t' row' ref same holds
    · rcases linked row ref holds with holds | there
      · exact known.linked _ row ref same holds
      · exact there
  | pays pays => exact pays.known known
  | undoes reverts => exact reverts.known known
  | @returns refs reopened t reverts =>
    have known' := reverts.known known
    refine ⟨known'.once, known'.linked, known'.made, fun m mem => ?_⟩
    rcases List.mem_append.mp mem with mem | mem
    · obtain ⟨ref, chosen, rfl⟩ := List.mem_map.mp mem
      exact reverts.failed ref chosen
    · exact known'.failed m mem

theorem BankWrite.follows (write : BankWrite db db') : db.Follows db' := by
  cases write with
  | nothing =>
    exact ⟨fun _ row found => ⟨row, found, rfl⟩, fun _ p found => ⟨p, found⟩, fun _ mem => mem⟩
  | updates t f kept =>
    refine ⟨fun t' row' found => ?_, fun _ p found => ⟨p, found⟩, fun _ mem => mem⟩
    rcases Table.find_modify_cases found with ⟨-, same⟩ | ⟨rfl, row, same, rfl⟩
    · exact ⟨row', same, rfl⟩
    · exact ⟨row, same, (kept row).symm⟩
  | pays pays =>
    refine ⟨fun t' row' found => ?_, fun _ p found => ⟨p, pays.stays found⟩, fun m mem => ?_⟩
    · rw [pays.transactions] at found
      exact ⟨row', found, rfl⟩
    · rw [pays.made]
      exact List.mem_cons_of_mem _ mem
  | undoes reverts =>
    refine ⟨fun t' row' found => ?_, fun _ p found => ?_, fun m mem => by rwa [reverts.made]⟩
    · rw [reverts.transactions] at found
      exact ⟨row', found, rfl⟩
    · obtain ⟨p', found', -⟩ := reverts.stays found
      exact ⟨p', found'⟩
  | returns _ reverts =>
    refine ⟨fun t' row' found => ?_, fun _ p found => ?_, fun m mem => by rwa [reverts.made]⟩
    · dsimp only at found
      rw [reverts.transactions] at found
      exact ⟨row', found, rfl⟩
    · obtain ⟨p', found', -⟩ := reverts.stays found
      exact ⟨p', found'⟩

theorem BankDb.hasAmount.follow (follows : db.Follows db') {amount : ℤ}
    (has : db.hasAmount t amount) : db'.hasAmount t amount := by
  intro row' found
  obtain ⟨row, before, amount⟩ := follows.amounts t row' found
  rw [← amount]
  exact has row before

theorem BankCall.Sound.follow (follows : db.Follows db') (sound : call.Sound db) :
    call.Sound db' := by
  cases call with
  | revertingUndo t u => exact follows.made _ sound
  | planning => exact BankDb.hasAmount.follow follows sound
  | claiming t invoiceId plan =>
    intro row' found
    obtain ⟨row, before, amount⟩ := follows.amounts t row' found
    rw [← amount]
    exact sound row before
  | readingPaid => exact ⟨sound.1.follow follows, sound.2⟩
  | claimingReturn t invoiceId cents =>
    intro row' found
    obtain ⟨row, before, amount⟩ := follows.amounts t row' found
    rw [← amount]
    exact sound row before
  | loadingCandidates | autoMatching | autoPaying | autoFinding | autoReleasing =>
    exact fun q mem => (sound q mem).follow follows
  | autoLinking t payment queue =>
    refine ⟨fun q mem => (sound.1 q mem).follow follows, fun ref same => ?_⟩
    obtain ⟨p, there⟩ := sound.2 ref same
    exact follows.payments ref p there
  | _ => trivial

theorem matchPlan_sum (remaining : ℤ) (pending : List (InvoiceId × ℤ)) :
    ((matchPlan remaining pending).map MatchPart.cents).sum ≤ max 0 remaining := by
  induction pending generalizing remaining with
  | nil => simp [matchPlan]
  | cons head rest ih =>
    rw [matchPlan]
    split
    · have after := ih (remaining - min remaining head.2)
      simp only [List.map_cons, List.sum_cons]
      lia
    · exact ih remaining

theorem BankCall.caught_sound (sound : call.Sound db) (r : BankCall)
    (left : call.caught = some r) : r.Sound db := by
  cases call with
  | paying t part plan applied =>
    rw [BankCall.caught] at left
    split at left
    · cases left
    · cases left
      trivial
  | reverting | revertingUndo =>
    cases left
    trivial
  | autoPaying | autoFinding =>
    cases left
    exact sound
  | autoLinking =>
    cases left
    exact sound.1
  | _ => cases left

theorem nextBank_rest (sound : call.Sound db) (order : bankInOrder db call input = true)
    (r : BankCall) (left : (nextBank db call input).2 = some r) : r.Sound (nextBank db call input).1 := by
  refine BankCall.Sound.follow (nextBank_write sound).follows ?_
  rw [nextBank] at left
  split at left
  · exact BankCall.caught_sound sound r left
  rename_i lasts
  cases call with
  | matching t invoiceIds =>
    simp only [commitBank] at left
    split at left
    · cases left
    · rename_i row found
      split at left
      · cases left
      · cases left
        intro row' found'
        rw [found] at found'
        cases found'
        rfl
  | planning t amount invoiceIds =>
    simp only [commitBank] at left
    split at left
    · cases left
    · cases left
      intro row found
      rw [show row.amount = amount from sound row found]
      exact matchPlan_sum amount _
  | claiming t invoiceId plan =>
    simp only [commitBank] at left
    split at left
    · cases plan with
      | nil => cases left
      | cons part plan =>
        cases left
        trivial
    · cases left
  | paying t part plan applied =>
    simp only [commitBank] at left
    split at left
    · exact BankCall.caught_sound sound r left
    · cases plan with
      | nil => cases left
      | cons part plan =>
        cases left
        trivial
  | returning t invoiceId =>
    simp only [commitBank] at left
    split at left
    · cases left
    · rename_i row found
      split at left
      · cases left
      · rename_i debit
        simp only [ne_eq, Bool.or_eq_true, decide_eq_true_eq, not_or, not_le] at debit
        cases left
        refine ⟨fun row' found' => ?_, debit.2⟩
        rw [found] at found'
        cases found'
        rfl
  | readingPaid t amount invoiceId =>
    simp only [commitBank] at left
    split at left
    · cases left
    · cases left
      intro row found
      rw [show row.amount = amount from sound.1 row found]
      exact sound.2
  | claimingReturn t invoiceId cents =>
    simp only [commitBank] at left
    split at left
    · cases left
      trivial
    · cases left
  | reverting t invoiceId cents =>
    simp only [commitBank] at left
    split at left
    · exact BankCall.caught_sound sound r left
    · cases left
  | collecting statementIds =>
    simp only [commitBank] at left
    split at left
    · cases left
    · cases left
      intro q mem row found
      have stored := (List.mem_insertionSort _).mp mem
      rw [Table.find_eq_some.mpr (List.mem_filter.mp stored).1] at found
      cases found
      rfl
  | loadingCandidates rows =>
    cases left
    exact sound
  | autoMatching queue =>
    obtain ⟨rows, candidates, used⟩ := queue
    cases rows with
    | nil => cases left
    | cons head rows =>
      have after : AutoQueue.Sound db rows := fun q mem => sound q (List.mem_cons_of_mem _ mem)
      simp only [commitBank] at left
      split at left
      · split at left
        · split at left <;>
          · cases left
            exact after
        · cases left
          exact after
      · cases left
        exact after
  | autoPaying t part queue =>
    simp only [commitBank] at left
    split at left
    · exact BankCall.caught_sound sound r left
    · cases left
      exact sound
  | autoFinding t invoiceId queue =>
    cases left
    exact ⟨sound, fun ref same => lastAutomatic_known same⟩
  | autoLinking t payment queue =>
    cases left
    exact sound.1
  | autoReleasing t queue =>
    cases left
    exact sound
  | undoing t =>
    simp only [commitBank] at left
    split at left
    · cases left
    · split at left
      · split at left
        · cases left
          trivial
        · cases left
      · cases left
  | claimingUndo t u =>
    simp only [commitBank] at left
    split at left
    · rename_i takes
      cases left
      obtain ⟨row, stored, taken⟩ := (Option.any_eq_true _ _).mp takes
      simp only [Bool.and_eq_true, decide_eq_true_eq] at taken
      have paid : row.matchedPaymentId = some u.payment ∧
          u.payment ∈ (db.standing t).map Prod.fst := by
        simpa [bankInOrder, lasts, stored, taken.1, taken.2] using order
      obtain ⟨⟨ref, cents⟩, mem, same⟩ := List.mem_map.mp paid.2
      cases same
      exact (mem_standing.mp mem).1
    · cases left
  | revertingUndo t u =>
    simp only [commitBank] at left
    split at left
    · exact BankCall.caught_sound sound r left
    · split at left
      · exact BankCall.caught_sound sound r left
      · cases left
        trivial
  | releasing t status | ignoring t =>
    simp only [commitBank] at left
    split at left <;> cases left
  | restoring t u | clearing t => cases left

end StorageOS
