import StorageOS.Payments.ReportsConserve

/-! Runs of the book of payments, period after period. -/

namespace StorageOS

open Transition

variable {r : MoneyReport} {s s' t : ReportedBook}

/-- The reports of the periods before and what is pending are the money moved. -/
structure ReportedBook.Conserves (r : MoneyReport) (s : ReportedBook) : Prop where
  sum : s.reported + s.book.total (fun b => r.inScope b) (r.pending s.start) = s.moved
  started : s.start ≤ s.clock
  dated : ∀ b ∈ s.book.values, r.inScope b = true →
    Ledger.Dated r s.start s.clock b.ledger.payments

theorem total_congr {book : PaymentBook} {inScope : BookedInvoice → Bool} {w w' : Payment → ℤ}
    (same : ∀ b ∈ book.values, inScope b = true → ∀ p ∈ b.ledger.payments.values, w p = w' p) :
    book.total inScope w = book.total inScope w' := by
  refine Table.sum_congr fun k b found => ?_
  split
  · rename_i selected
    refine Table.sum_congr fun k' p there => ?_
    exact same b (Table.mem_values_of_find found) selected p (Table.mem_values_of_find there)
  · rfl

theorem opening_conserves (start : Instant) : (ReportedBook.opening start).Conserves r :=
  ⟨rfl, le_rfl, fun b mem => by cases mem⟩

variable (conserves : s.Conserves r)
include conserves

theorem issue_conserves {b : BookedInvoice} (done : bookStep r s (.issue b) = some s') : s'.Conserves r := by
  rw [bookStep] at done
  split at done
  · rename_i untouched
    cases done
    have fresh : ∀ p ∈ b.ledger.payments.values,
        DatedPayment r s.start s.clock p ∧ r.pending s.start p = 0 :=
      fun p mem => dated_of_untouched (List.all_eq_true.mp untouched p mem)
    refine ⟨?_, conserves.started, fun b' mem => ?_⟩
    · have nothing : b.ledger.payments.sum (r.pending s.start) = 0 :=
        Table.sum_eq_zero fun p mem => (fresh p mem).2
      have before := conserves.sum
      rw [PaymentBook.total] at before ⊢
      dsimp only
      rw [Table.sum_push, nothing, ite_self, add_zero, before]
    · rw [Table.values_push, List.mem_append, List.mem_singleton] at mem
      rcases mem with mem | rfl
      · exact conserves.dated b' mem
      · exact fun _ p mem _ => (fresh p mem).1
  · cases done

theorem modify_conserves {id : InvoiceId} {b b' : BookedInvoice} {clock : Instant} {d : ℤ}
    (found : s.book.find id = some b) (scope : r.inScope b' = r.inScope b) (order : s.clock ≤ clock)
    (moves : r.inScope b = true → Ledger.Moves r s.start clock b.ledger b'.ledger d) :
    ReportedBook.Conserves r
      { s with
        book := s.book.modify id fun _ => b'
        clock
        moved := s.moved + if r.inScope b then d else 0 } := by
  refine ⟨?_, conserves.started.trans order, fun b₁ mem inScope => ?_⟩
  · have before := conserves.sum
    rw [PaymentBook.total] at before ⊢
    dsimp only
    rw [Table.sum_modify found, scope, ← before]
    by_cases inScope : r.inScope b = true
    · rw [if_pos inScope, if_pos inScope, if_pos inScope, (moves inScope).sum]
      ring
    · rw [if_neg inScope, if_neg inScope, if_neg inScope]
      ring
  · obtain ⟨k, there⟩ := Table.find_of_mem_values mem
    rcases Table.find_modify_cases there with ⟨-, same⟩ | ⟨-, -, -, rfl⟩
    · exact (conserves.dated b₁ (Table.mem_values_of_find same) inScope).later order
    · exact (moves (scope ▸ inScope)).dated

theorem charge_conserves {id : InvoiceId} {p : Payment} (done : bookStep r s (.charge id p) = some s') :
    s'.Conserves r := by
  rw [bookStep] at done
  split at done
  · rename_i untouched
    cases done
    obtain ⟨dated, nothing⟩ : DatedPayment r s.start s.clock p ∧ r.pending s.start p = 0 :=
      dated_of_untouched untouched
    cases found : s.book.find id with
    | none =>
      rw [Table.modify_of_find_none found]
      exact conserves
    | some b =>
      let b' := { b with ledger := { b.ledger with payments := b.ledger.payments.push p } }
      rw [Table.modify_found found]
      have moves : r.inScope b = true → Ledger.Moves r s.start s.clock b.ledger b'.ledger 0 :=
        fun inScope => by
          refine ⟨(conserves.dated b (Table.mem_values_of_find found) inScope).push fun _ => dated, ?_⟩
          rw [Table.sum_push, nothing]
      have changed := modify_conserves conserves found (by cases r <;> rfl) le_rfl moves
      rw [ite_self, add_zero] at changed
      exact changed
  · cases done

theorem ledger_conserves {id : InvoiceId} {action : LedgerAction} (fits : r.fits s (.ledger id action) = true)
    (done : bookStep r s (.ledger id action) = some s') : s'.Conserves r := by
  rw [bookStep] at done
  split at done
  · rename_i order
    obtain ⟨b, found, made⟩ := Option.bind_eq_some_iff.mp done
    obtain ⟨l, step, same⟩ := Option.map_eq_some_iff.mp made
    cases same
    rw [MoneyReport.fits, found, Option.all_some] at fits
    rw [Table.modify_found found]
    refine modify_conserves conserves found (by cases r <;> rfl) order fun inScope => ?_
    rw [inScope, Bool.not_true, Bool.false_or] at fits
    exact ledgerStep_moves (conserves.dated b (Table.mem_values_of_find found) inScope)
      conserves.started order fits step
  · cases done

theorem close_conserves {finish : Instant} (done : bookStep r s (.close finish) = some s') :
    s'.Conserves r ∧ s'.reported = s'.moved := by
  rw [bookStep] at done
  split at done
  · rename_i later
    cases done
    have counted : ∀ b ∈ s.book.values, r.inScope b = true → ∀ p ∈ b.ledger.payments.values,
        r.weight ⟨s.start, finish⟩ p = r.pending s.start p ∧ r.pending finish p = 0 ∧
          (r.counts p.methodType = true → DatedPayment r finish finish p) := fun b mem inScope p there => by
      cases counts : r.counts p.methodType
      · simp [MoneyReport.weight, MoneyReport.pending, counts]
      · have dated := conserves.dated b mem inScope p there counts
        exact ⟨dated.weight later, (dated.close later).2, fun _ => (dated.close later).1⟩
    have report : r.net s.book ⟨s.start, finish⟩ =
        s.book.total (fun b => r.inScope b) (r.pending s.start) := by
      rw [net_eq_total]
      exact total_congr fun b mem inScope p there => (counted b mem inScope p there).1
    have nothing : s.book.total (fun b => r.inScope b) (r.pending finish) = 0 := by
      rw [total_congr fun b mem inScope p there => (counted b mem inScope p there).2.1]
      refine Table.sum_eq_zero fun b _ => ?_
      rw [Table.sum_eq_zero fun _ _ => rfl, ite_self]
    have reported : s.reported + r.net s.book ⟨s.start, finish⟩ = s.moved := by
      rw [report, conserves.sum]
    refine ⟨⟨?_, le_rfl, fun b mem inScope p there => (counted b mem inScope p there).2.2⟩, reported⟩
    dsimp only
    rw [reported, nothing, add_zero]
  · cases done

theorem bookStep_conserves {a : BookAction} (fits : r.fits s a = true) (done : bookStep r s a = some s') :
    s'.Conserves r := by
  cases a with
  | issue => exact issue_conserves conserves done
  | charge => exact charge_conserves conserves done
  | ledger => exact ledger_conserves conserves fits done
  | close => exact (close_conserves conserves done).1

omit conserves

/-- Period after period, the reports add up to the money collected minus the money given back. -/
theorem reports_conserve {start finish : Instant}
    (run : Run (bookStep r) (fun s a => r.fits s a = true) (.opening start) s)
    (closed : bookStep r s (.close finish) = some s') : s'.reported = s'.moved := by
  have conserves : s.Conserves r :=
    run.invariant (opening_conserves start) fun before fits done => bookStep_conserves before fits done
  exact (close_conserves conserves closed).2

/-! ### Runs -/

def bookedInvoice : BookedInvoice where
  facilities := [1]
  ownerId := some 1
  ledger := { issuedLedger with payments := .empty }

def midnight (today : Date) : Instant := today * 86400000

theorem sixty_pos : (0 : ℚ) < 60 := by norm_num

theorem forty_pos : (0 : ℚ) < 40 := by norm_num

def paidInCash : List BookAction :=
  [.issue bookedInvoice,
    .ledger 0 (.markPaidManually (noon 20001) true none (cashOf 60 sixty_pos)),
    .ledger 0 (.markPaidManually (noon 20002) true none (cashOf 40 forty_pos))]

def giveBack (today : Date) : BookAction :=
  .ledger 0 (.refund (noon today) true true true ⟨5, by norm_num, true⟩)

/-- Two collections, one of them refunded twice in the month, and the other returned in the next. -/
theorem reports_conserve_month : ∃ s s' : ReportedBook,
    bookStep (.owner 1) s (.close (midnight 20060)) = some s' ∧ s'.moved = 3000 ∧
      s'.reported = s'.moved := by
  obtain ⟨s, run, closed⟩ := Run.exists_of_exec (bookStep (.owner 1))
    (fun s a => (MoneyReport.owner 1).fits s a = true) (.opening (midnight 20000))
    (paidInCash ++ [giveBack 20003, giveBack 20004, .close (midnight 20030),
      .ledger 0 (.revertPayment (noon 20031) ⟨60, none, false⟩)])
    (fun s => (bookStep (.owner 1) s (.close (midnight 20060))).any fun s' => s'.moved = 3000)
    (by decide +kernel)
  obtain ⟨s', step, moved⟩ := (Option.any_eq_true _ _).mp closed
  exact ⟨s, s', step, of_decide_eq_true moved, reports_conserve run step⟩

/-- Of a payment refunded in two periods the first refund is subtracted twice, and the cash of a day misses
a return of a payment of an earlier day. -/
theorem reports_astray :
    ¬(∀ s s' : ReportedBook, Reaches (bookStep (.owner 1)) (.opening (midnight 20000)) s →
      bookStep (.owner 1) s (.close (midnight 20060)) = some s' → s'.reported = s'.moved) ∧
    ¬(∀ s s' : ReportedBook, Reaches (bookStep (.cash none .cash)) (.opening (midnight 20001)) s →
      bookStep (.cash none .cash) s (.close (midnight 20004)) = some s' → s'.reported = s'.moved) := by
  constructor
  · intro conserve
    obtain ⟨s, run, closed⟩ := Run.exists_of_exec (bookStep (.owner 1)) (fun _ _ => True)
      (.opening (midnight 20000))
      (paidInCash ++ [giveBack 20003, .close (midnight 20030), giveBack 20031])
      (fun s => (bookStep (.owner 1) s (.close (midnight 20060))).any fun s' => s'.reported ≠ s'.moved)
      (by decide +kernel)
    obtain ⟨s', step, differ⟩ := (Option.any_eq_true _ _).mp closed
    exact of_decide_eq_true differ (conserve s s' run step)
  · intro conserve
    obtain ⟨s, run, closed⟩ := Run.exists_of_exec (bookStep (.cash none .cash)) (fun _ _ => True)
      (.opening (midnight 20001))
      (paidInCash ++ [.close (midnight 20003),
        .ledger 0 (.revertPayment (noon 20003) ⟨60, none, false⟩)])
      (fun s => (bookStep (.cash none .cash) s (.close (midnight 20004))).any fun s' =>
        s'.reported ≠ s'.moved) (by decide +kernel)
    obtain ⟨s', step, differ⟩ := (Option.any_eq_true _ _).mp closed
    exact of_decide_eq_true differ (conserve s s' run step)

end StorageOS
