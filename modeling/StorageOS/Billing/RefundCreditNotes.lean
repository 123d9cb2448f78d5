import StorageOS.Billing.CreditedGross
import StorageOS.Billing.Rectifications

/-! The credit notes of the refunds of an invoice. Each is drafted for what was refunded and no credit covers yet,
shared among the rates of the invoice, and issued at once or, when that fails, later by hand. -/

namespace StorageOS

open Transition

/-! ### The lines of a note -/

structure RateGroup where
  taxRate : ℚ
  taxCategory : String
  gross : ℤ
  deriving DecidableEq

def RateGroup.holds (g : RateGroup) (it : InvoiceItem) : Bool :=
  g.taxRate = it.taxRate && g.taxCategory = it.taxCategory

/-- The group of a line grows by its total; a line of no group yet has one of its own after the others. -/
def addGross (it : InvoiceItem) : List RateGroup → List RateGroup
  | [] => [⟨it.taxRate, it.taxCategory, it.total⟩]
  | g :: rest => if g.holds it then { g with gross := g.gross + it.total } :: rest else g :: addGross it rest

def grossByRate (items : List InvoiceItem) : List RateGroup :=
  items.foldl (fun groups it => addGross it groups) []

def creditedGroups (items : List InvoiceItem) : List RateGroup :=
  ((grossByRate items).filter fun g => 0 < g.gross).insertionSort fun a b => b.taxRate ≤ a.taxRate

/-- The share of each group in a refund; the last one takes what is left. -/
def refundShares (refundCents totalCents : ℤ) : ℤ → List RateGroup → List (RateGroup × ℤ)
  | _, [] => []
  | assigned, [g] => [(g, refundCents - assigned)]
  | assigned, g :: rest =>
    let share := mathRound (refundCents * g.gross / totalCents)
    (g, share) :: refundShares refundCents totalCents (assigned + share) rest

def creditLine (invoiceNumber : String) (g : RateGroup) (share : ℤ) : InvoiceItemInput where
  description := "Abono por reembolso de la factura " ++ invoiceNumber
  quantity := 1
  unitPrice := euros (-creditNet g.taxRate share)
  taxRate := g.taxRate
  taxCategory := some g.taxCategory
  relatedContractId := none

/-! ### The notes of an invoice -/

inductive CreditNoteStatus
  | draft
  | issued
  | cancelled
  deriving DecidableEq

/-- A rectification by differences of the invoice. `automatic` are those whose reason is a refund, and `numbered` those
with a number of the application. -/
structure CreditNote where
  total : ℤ
  status : CreditNoteStatus
  automatic : Bool
  numbered : Bool
  deriving DecidableEq

/-- An issued invoice that was paid, with its rectifications and what credits have compensated of it. -/
structure RefundedInvoice where
  invoiceNumber : String
  items : List InvoiceItem
  total : ℤ
  amountRefunded : ℤ
  compensated : ℤ
  notes : List CreditNote

namespace RefundedInvoice

def credited (s : RefundedInvoice) (counts : CreditNote → Bool) : ℤ :=
  ((s.notes.filter fun n => n.status = .issued && counts n).map fun n => -min 0 n.total).sum

def covered (s : RefundedInvoice) (counts : CreditNote → Bool) : ℤ := max 0 (s.credited counts - s.compensated)

def refundCents (s : RefundedInvoice) : ℤ := min s.amountRefunded s.total - s.covered CreditNote.numbered

def shares (s : RefundedInvoice) : List (RateGroup × ℤ) :=
  refundShares s.refundCents s.total 0 (creditedGroups s.items)

def creditItems (s : RefundedInvoice) : List InvoiceItemInput :=
  s.shares.map fun (g, share) => creditLine s.invoiceNumber g share

def live (s : RefundedInvoice) : ℤ :=
  ((s.notes.filter fun n => n.status ≠ .cancelled).map CreditNote.total).sum

def assertLimit (s : RefundedInvoice) (total : ℤ) : Outcome Unit :=
  refuseIf (s.total + s.live + total < 0)
    (badRequest "rectification_exceeds_original" "Los abonos no pueden superar el total de la factura")

def cancelDrafts (s : RefundedInvoice) : RefundedInvoice :=
  { s with notes := s.notes.map fun n =>
      if n.status = .draft ∧ n.automatic then { n with status := .cancelled } else n }

/-- `rectify` with the lines of the refund: the total of the draft. -/
def draftTotal (s : RefundedInvoice) : Outcome ℤ := do
  let totals ← computeTotalsRectify s.creditItems
  s.cancelDrafts.assertLimit totals.total
  let _ ← s.creditItems.zipIdx.mapM fun (item, position) => toRectifyItemCreateData item position
  return totals.total

def drafted (s : RefundedInvoice) (total : ℤ) : RefundedInvoice :=
  { s.cancelDrafts with notes := s.cancelDrafts.notes ++ [⟨total, .draft, true, false⟩] }

/-- The issue of a rectification in draft, with a number of the application or of Holded. -/
def issueNote (s : RefundedInvoice) (position : ℕ) (numbered : Bool) : Option RefundedInvoice :=
  s.notes[position]?.bind fun n =>
    if n.status = .draft ∧ 0 ≤ s.total + s.live then
      some { s with notes := s.notes.set position { n with status := .issued, numbered } }
    else none

def credits (s : RefundedInvoice) : Bool := 0 < s.refundCents && 0 < s.total

/-- `issueRefundCreditNote`: without a draft, the team is told, and a draft that is not issued stays. -/
def issueRefundCreditNote (s : RefundedInvoice) (issues : Bool) : RefundedInvoice :=
  if s.credits then
    match s.draftTotal with
    | .error _ => s.cancelDrafts
    | .ok total =>
      if issues then ((s.drafted total).issueNote s.notes.length true).getD (s.drafted total) else s.drafted total
  else s

end RefundedInvoice

/-- A refund, the handling of one, or the issue by hand of a rectification in draft. -/
inductive RefundNoteAction
  | refund (cents : ℤ)
  | handle (issues : Bool)
  | issue (position : ℕ) (numbered : Bool)
  deriving DecidableEq

def RefundNoteAction.handles : RefundNoteAction → Bool
  | .handle _ => true
  | _ => false

namespace RefundedInvoice

def step (s : RefundedInvoice) : RefundNoteAction → Option RefundedInvoice
  | .refund cents =>
    if 0 < cents ∧ s.amountRefunded + cents ≤ s.total then some { s with amountRefunded := s.amountRefunded + cents }
    else none
  | .handle issues => some (s.issueRefundCreditNote issues)
  | .issue position numbered => s.issueNote position numbered

/-! ### Notes to the cent -/

def due (s : RefundedInvoice) : ℤ := min s.amountRefunded s.total - s.covered fun _ => true

/-- A note that is drafted credits what is due, and the limit of rectifications admits it. -/
def Exact (s : RefundedInvoice) : Prop := s.credits = true → 0 < s.due ∧ s.draftTotal = .ok (-s.due)

/-- The cents that the lines of a note have beyond their shares, all together. -/
def missed (s : RefundedInvoice) : ℤ := (s.shares.map fun (g, share) => missedCents g.taxRate share).sum

def uncounted (s : RefundedInvoice) : ℤ := s.refundCents - s.due

/-- The condition on a handling: the cents that the shares miss cancel out, no credit that covers refunds is left
uncounted, and the rectifications there are leave what is due. -/
def fits (s : RefundedInvoice) : Bool :=
  !s.credits || (0 < s.due && s.missed + s.uncounted = 0 && s.due ≤ s.total + s.cancelDrafts.live)

def NotesExact : RefundedInvoice → List RefundNoteAction → Prop
  | _, [] => True
  | s, a :: rest => (a.handles = true → s.Exact) ∧ ∀ t, s.step a = some t → NotesExact t rest

def notesFit : RefundedInvoice → List RefundNoteAction → Bool
  | _, [] => true
  | s, a :: rest => (!a.handles || s.fits) && (s.step a).all (notesFit · rest)

end RefundedInvoice

namespace RefundedInvoice

def issuedTotal (s : RefundedInvoice) : ℤ :=
  ((s.notes.filter fun n => n.status = .issued).map CreditNote.total).sum

structure Fresh (s : RefundedInvoice) : Prop where
  amountRefunded : s.amountRefunded = 0
  compensated : s.compensated = 0
  notes : s.notes = []
  positive : 0 < s.total

end RefundedInvoice

/-- The rows of an issued invoice: rates as their column has them, a rate only on lines that carry VAT, and the total of
the lines, within its limit. -/
structure RefundedInvoice.Proper (s : RefundedInvoice) : Prop where
  rates : ∀ it ∈ s.items, ColumnRate it.taxRate
  categories : ∀ it ∈ s.items, it.taxCategory = "S1" ∨ it.taxRate = 0
  total : s.total = (s.items.map InvoiceItem.total).sum
  limit : s.total ≤ maxInvoiceTotalCents

/-! ### The groups and their shares -/

theorem sum_addGross (it : InvoiceItem) (groups : List RateGroup) :
    ((addGross it groups).map RateGroup.gross).sum = (groups.map RateGroup.gross).sum + it.total := by
  induction groups with
  | nil => simp [addGross]
  | cons g rest ih =>
    rw [addGross]
    split
    · simp only [List.map_cons, List.sum_cons]
      ring
    · simp only [List.map_cons, List.sum_cons, ih]
      ring

theorem sum_grossByRate (items : List InvoiceItem) :
    ((grossByRate items).map RateGroup.gross).sum = (items.map InvoiceItem.total).sum := by
  have general : ∀ groups : List RateGroup,
      ((items.foldl (fun groups it => addGross it groups) groups).map RateGroup.gross).sum =
        (groups.map RateGroup.gross).sum + (items.map InvoiceItem.total).sum := by
    induction items with
    | nil => simp
    | cons it rest ih =>
      intro groups
      rw [List.foldl_cons, ih, sum_addGross, List.map_cons, List.sum_cons, add_assoc]
  rw [grossByRate, general, List.map_nil, List.sum_nil, zero_add]

variable {groups : List RateGroup} {items : List InvoiceItem} {g : RateGroup} {x : RateGroup × ℤ} {position : ℕ}
  {numbered : Bool} {a : RefundNoteAction}

variable {P : ℚ → String → Prop} {netCents taxCents : ℤ}

theorem addGross_all {it : InvoiceItem} (line : P it.taxRate it.taxCategory)
    (all : ∀ g ∈ groups, P g.taxRate g.taxCategory) :
    ∀ g ∈ addGross it groups, P g.taxRate g.taxCategory := by
  induction groups with
  | nil => simpa [addGross] using line
  | cons g rest ih =>
    obtain ⟨first, others⟩ := List.forall_mem_cons.mp all
    rw [addGross]
    split
    · exact List.forall_mem_cons.mpr ⟨first, others⟩
    · exact List.forall_mem_cons.mpr ⟨first, ih others⟩

theorem grossByRate_all (lines : ∀ it ∈ items, P it.taxRate it.taxCategory) :
    ∀ g ∈ grossByRate items, P g.taxRate g.taxCategory := by
  have general : ∀ groups : List RateGroup, (∀ g ∈ groups, P g.taxRate g.taxCategory) →
      ∀ g ∈ items.foldl (fun groups it => addGross it groups) groups, P g.taxRate g.taxCategory := by
    induction items with
    | nil => exact fun _ all => all
    | cons it rest ih =>
      obtain ⟨first, others⟩ := List.forall_mem_cons.mp lines
      exact fun groups all => ih others _ (addGross_all first all)
  exact general [] (by simp)

theorem mem_creditedGroups :
    g ∈ creditedGroups items ↔ g ∈ grossByRate items ∧ 0 < g.gross := by
  rw [creditedGroups, List.mem_insertionSort, List.mem_filter, decide_eq_true_eq]

theorem creditedGroups_ne_nil (positive : 0 < (items.map InvoiceItem.total).sum) :
    creditedGroups items ≠ [] := by
  intro none_
  rw [← sum_grossByRate] at positive
  have below : ∀ g ∈ grossByRate items, g.gross ≤ 0 := by
    intro g mem
    by_contra more
    have credited := mem_creditedGroups.mpr ⟨mem, not_le.mp more⟩
    rw [none_] at credited
    cases credited
  have nothing : ((grossByRate items).map fun _ => (0 : ℤ)).sum = 0 := by simp
  have := List.sum_le_sum below
  omega

theorem sum_refundShares {refundCents totalCents : ℤ} (some_ : groups ≠ []) (assigned : ℤ) :
    ((refundShares refundCents totalCents assigned groups).map Prod.snd).sum = refundCents - assigned := by
  fun_induction refundShares refundCents totalCents assigned groups with
  | case1 => exact (some_ rfl).elim
  | case2 => simp
  | case3 assigned g rest more share ih =>
    rw [List.map_cons, List.sum_cons, ih more]
    ring

theorem mem_refundShares {refundCents totalCents assigned : ℤ}
    (mem : x ∈ refundShares refundCents totalCents assigned groups) : x.1 ∈ groups := by
  fun_induction refundShares refundCents totalCents assigned groups with
  | case1 => cases mem
  | case2 assigned g => simp_all
  | case3 assigned g rest more share ih =>
    rcases List.mem_cons.mp mem with rfl | later
    · exact List.mem_cons_self
    · exact List.mem_cons_of_mem _ (ih later)

/-! ### The total of a note -/

theorem creditLine_total (rate : ColumnRate g.taxRate) (share : ℤ) :
    (lineCents 1 (euros (-creditNet g.taxRate share)) g.taxRate).totalCents =
      -(share + missedCents g.taxRate share) := by
  rw [lineCents_euros, ← rate.creditNet_gross, grossOf, Int.cast_neg, neg_mul, neg_div, roundHalfAway_neg, neg_add]

theorem toRectifyItemCreateData_ok {item : InvoiceItemInput} {category : String}
    (kept : lineTaxCategory item.taxRate item.taxCategory = .ok category) (position : ℕ) :
    ∃ row, toRectifyItemCreateData item position = .ok row := by
  rw [toRectifyItemCreateData, toItemCreateData, kept]
  exact ⟨_, rfl⟩

theorem creditLine_row (category : g.taxCategory = "S1" ∨ g.taxRate = 0) (invoiceNumber : String) (share : ℤ)
    (position : ℕ) :
    ∃ row, toRectifyItemCreateData (creditLine invoiceNumber g share) position = .ok row := by
  have kept : lineTaxCategory g.taxRate (some g.taxCategory) = .ok g.taxCategory := by
    rw [lineTaxCategory, Option.getD_some, if_pos]
    simpa using category
  exact toRectifyItemCreateData_ok kept position

theorem mapM_ok {α β : Type} {f : α → Outcome β} {xs : List α} (each : ∀ x ∈ xs, ∃ y, f x = .ok y) :
    ∃ ys, xs.mapM f = .ok ys := by
  induction xs with
  | nil => exact ⟨[], rfl⟩
  | cons x rest ih =>
    obtain ⟨first, others⟩ := List.forall_mem_cons.mp each
    obtain ⟨y, made⟩ := first
    obtain ⟨ys, later⟩ := ih others
    exact ⟨y :: ys, by rw [List.mapM_cons, made, later]; rfl⟩

theorem computeTotals_of_le {items : List InvoiceItemInput}
    (bound : |(items.map fun it => (lineCents it.quantity it.unitPrice it.taxRate).totalCents).sum| ≤
      maxInvoiceTotalCents) :
    ∃ totals, computeTotals items = .ok totals ∧
      totals.total = (items.map fun it => (lineCents it.quantity it.unitPrice it.taxRate).totalCents).sum := by
  cases computed : computeTotals items with
  | ok totals => exact ⟨totals, rfl, computeTotals_total computed⟩
  | error e =>
    rw [computeTotals] at computed
    split at computed
    · rename_i exceeds
      rw [List.map_map] at exceeds
      exact (not_lt.mpr bound exceeds).elim
    · cases computed

namespace RefundedInvoice

variable {s t : RefundedInvoice} {actions : List RefundNoteAction}

variable (proper : s.Proper)
include proper

theorem Proper.share_rate (mem : x ∈ s.shares) : ColumnRate x.1.taxRate :=
  grossByRate_all (P := fun rate _ => ColumnRate rate) proper.rates _
    (mem_creditedGroups.mp (mem_refundShares mem)).1

theorem Proper.share_category (mem : x ∈ s.shares) : x.1.taxCategory = "S1" ∨ x.1.taxRate = 0 :=
  grossByRate_all (P := fun rate category => category = "S1" ∨ rate = 0) proper.categories _
    (mem_creditedGroups.mp (mem_refundShares mem)).1

theorem sum_shares (positive : 0 < s.total) : (s.shares.map Prod.snd).sum = s.refundCents := by
  rw [proper.total] at positive
  rw [shares, sum_refundShares (creditedGroups_ne_nil positive), sub_zero]

theorem Proper.sum_lines (positive : 0 < s.total) :
    (s.creditItems.map fun it => (lineCents it.quantity it.unitPrice it.taxRate).totalCents).sum =
      -(s.refundCents + s.missed) := by
  have each : (s.creditItems.map fun it => (lineCents it.quantity it.unitPrice it.taxRate).totalCents) =
      s.shares.map fun x => -(x.2 + missedCents x.1.taxRate x.2) := by
    rw [creditItems, List.map_map]
    exact List.map_congr_left fun x mem => creditLine_total (proper.share_rate mem) x.2
  have whole := sum_shares proper positive
  rw [each, missed, ← whole, ← List.sum_map_add]
  generalize s.shares = shares
  induction shares with
  | nil => rfl
  | cons x rest ih =>
    simp only [List.map_cons, List.sum_cons, ih]
    ring

theorem Proper.creditItems_rows :
    ∃ rows, (s.creditItems.zipIdx.mapM fun (item, position) => toRectifyItemCreateData item position) = .ok rows := by
  apply mapM_ok
  rintro ⟨item, position⟩ mem
  obtain ⟨x, share, rfl⟩ := List.mem_map.mp (List.fst_mem_of_mem_zipIdx mem)
  exact creditLine_row (proper.share_category share) s.invoiceNumber x.2 position

omit proper

theorem due_le_total (s : RefundedInvoice) : s.due ≤ s.total := by
  have covered : 0 ≤ s.covered fun _ => true := le_max_left _ _
  have refunded := min_le_right s.amountRefunded s.total
  rw [due]
  omega

/-- The draft credits what is due exactly when the cents cancel out and the other rectifications leave it. -/
theorem Proper.draftTotal_iff (proper : s.Proper) (positive : 0 < s.total) (owed : 0 < s.due) :
    s.draftTotal = .ok (-s.due) ↔ s.missed + s.uncounted = 0 ∧ s.due ≤ s.total + s.cancelDrafts.live := by
  have sum := proper.sum_lines positive
  have most := s.due_le_total.trans proper.limit
  constructor
  · intro made
    obtain ⟨totals, computed, made⟩ := Outcome.bind_ok made
    obtain ⟨u, admitted, made⟩ := Outcome.bind_ok made
    obtain ⟨rows, -, made⟩ := Outcome.bind_ok made
    have total : totals.total = -s.due := Except.ok.inj made
    have whole := computeTotals_total computed
    have left := refuseIf_ok admitted
    rw [sum, total] at whole
    rw [total] at left
    have same : s.cancelDrafts.total = s.total := rfl
    rw [uncounted]
    omega
  · rintro ⟨cents, left⟩
    rw [uncounted] at cents
    have value : -(s.refundCents + s.missed) = -s.due := by omega
    rw [value] at sum
    have bound : |-s.due| ≤ maxInvoiceTotalCents := by
      rw [abs_neg, abs_of_pos owed]
      exact most
    obtain ⟨totals, computed, total⟩ := computeTotals_of_le (sum ▸ bound)
    obtain ⟨rows, made⟩ := proper.creditItems_rows
    have admitted : s.cancelDrafts.assertLimit totals.total = .ok () := by
      have same : s.cancelDrafts.total = s.total := rfl
      rw [assertLimit, refuseIf, if_neg (by omega)]
    rw [draftTotal, computeTotalsRectify, computed]
    simp only [Bind.bind, Except.bind, admitted, made]
    rw [total, sum]
    rfl

/-! ### Runs -/

theorem Proper.exact_iff (proper : s.Proper) : s.Exact ↔ s.fits = true := by
  rw [Exact, fits]
  by_cases credits : s.credits = true
  · have positive : 0 < s.total := by
      rw [RefundedInvoice.credits, Bool.and_eq_true, decide_eq_true_eq, decide_eq_true_eq] at credits
      exact credits.2
    simp only [credits, true_imp_iff, Bool.not_true, Bool.false_or, Bool.and_eq_true, decide_eq_true_eq, and_assoc]
    exact and_congr_right fun owed => proper.draftTotal_iff positive owed
  · simp [credits]

theorem issueNote_some (issued : s.issueNote position numbered = some t) :
    ∃ n, s.notes[position]? = some n ∧ n.status = .draft ∧
      t = { s with notes := s.notes.set position { n with status := .issued, numbered } } := by
  obtain ⟨n, found, done⟩ := Option.bind_eq_some_iff.mp issued
  split at done
  · rename_i checked
    exact ⟨n, found, checked.1, (Option.some.inj done).symm⟩
  · cases done

theorem handle_cases (s : RefundedInvoice) (issues : Bool) :
    (s.credits = false ∧ s.issueRefundCreditNote issues = s) ∨
      s.credits = true ∧ (s.issueRefundCreditNote issues = s.cancelDrafts ∧ (∃ e, s.draftTotal = .error e) ∨
        ∃ total, s.draftTotal = .ok total ∧ s.issueRefundCreditNote issues =
          if issues then ((s.drafted total).issueNote s.notes.length true).getD (s.drafted total)
          else s.drafted total) := by
  rw [issueRefundCreditNote]
  by_cases credits : s.credits = true
  · rw [if_pos credits]
    refine .inr ⟨credits, ?_⟩
    cases made : s.draftTotal with
    | error e => exact .inl ⟨rfl, e, rfl⟩
    | ok total => exact .inr ⟨total, rfl, rfl⟩
  · rw [if_neg credits]
    exact .inl ⟨by simpa using credits, rfl⟩

theorem handle_keeps (s : RefundedInvoice) (issues : Bool) :
    ∃ notes, s.issueRefundCreditNote issues = { s with notes } := by
  obtain ⟨-, same⟩ | ⟨-, ⟨same, -⟩ | ⟨total, -, same⟩⟩ := s.handle_cases issues
  · exact ⟨s.notes, same⟩
  · exact ⟨_, same⟩
  · cases issues
    · exact ⟨_, same⟩
    · rw [if_pos rfl] at same
      cases issued : (s.drafted total).issueNote s.notes.length true with
      | none =>
        rw [issued] at same
        exact ⟨_, same⟩
      | some u =>
        obtain ⟨n, -, -, rfl⟩ := issueNote_some issued
        rw [issued] at same
        exact ⟨_, same⟩

theorem step_keeps (taken : s.step a = some t) :
    ∃ amountRefunded notes, t = { s with amountRefunded, notes } := by
  cases a with
  | refund cents =>
    simp only [step] at taken
    split at taken
    · exact ⟨_, _, (Option.some.inj taken).symm⟩
    · cases taken
  | issue position numbered =>
    obtain ⟨n, -, -, rfl⟩ := issueNote_some taken
    exact ⟨_, _, rfl⟩
  | handle issues =>
    obtain ⟨notes, same⟩ := s.handle_keeps issues
    exact ⟨_, notes, (Option.some.inj taken).symm.trans same⟩

theorem Proper.step (proper : s.Proper) (taken : s.step a = some t) : t.Proper := by
  obtain ⟨amountRefunded, notes, rfl⟩ := step_keeps taken
  exact ⟨proper.rates, proper.categories, proper.total, proper.limit⟩

theorem Proper.notesExact_iff (proper : s.Proper) : s.NotesExact actions ↔ s.notesFit actions = true := by
  induction actions generalizing s with
  | nil => exact iff_of_true trivial rfl
  | cons a rest ih =>
    have now : (a.handles = true → s.Exact) ↔ (!a.handles || s.fits) = true := by
      rw [proper.exact_iff]
      cases a.handles <;> simp
    rw [NotesExact, notesFit, Bool.and_eq_true, now]
    refine and_congr_right fun _ => ?_
    cases taken : s.step a with
    | none => simp
    | some t =>
      simp only [Option.some.injEq, forall_eq', Option.all_some]
      exact ih (proper.step taken)

/-! ### The whole refunded -/

/-- What the notes of refunds keep: they credit, and those in draft or issued credit no more than was refunded. -/
structure Credited (s : RefundedInvoice) : Prop where
  compensated : s.compensated = 0
  positive : 0 < s.total
  automatic : ∀ n ∈ s.notes, n.automatic = true
  nonpos : ∀ n ∈ s.notes, n.total ≤ 0
  room : -s.live ≤ min s.amountRefunded s.total

theorem Fresh.credited (fresh : s.Fresh) : s.Credited where
  compensated := fresh.compensated
  positive := fresh.positive
  automatic := by simp [fresh.notes]
  nonpos := by simp [fresh.notes]
  room := by
    have := fresh.positive
    simp [live, fresh.notes, fresh.amountRefunded, this.le]

theorem Credited.live_le (credited : s.Credited) : s.live ≤ s.issuedTotal := by
  rw [live, issuedTotal, Table.sum_filter, Table.sum_filter]
  refine List.sum_le_sum fun n mem => ?_
  have := credited.nonpos n mem
  cases n.status <;> simp [this]

theorem Credited.credited_all (credited : s.Credited) : (s.credited fun _ => true) = -s.issuedTotal := by
  rw [RefundedInvoice.credited, issuedTotal, Table.sum_filter, Table.sum_filter, List.sum_neg, List.map_map]
  congr 1
  refine List.map_congr_left fun n mem => ?_
  have := credited.nonpos n mem
  simp only [Function.comp_apply, Bool.and_true, decide_eq_true_eq]
  split <;> simp [this]

theorem Credited.issued_nonpos (credited : s.Credited) : s.issuedTotal ≤ 0 := by
  rw [issuedTotal, Table.sum_filter]
  refine (List.sum_le_sum (g := fun _ => (0 : ℤ)) fun n mem => ?_).trans_eq (by simp)
  split
  · exact credited.nonpos n mem
  · exact le_rfl

theorem Credited.due_eq (credited : s.Credited) : s.due = min s.amountRefunded s.total + s.issuedTotal := by
  have nonpos := credited.issued_nonpos
  rw [due, covered, credited.credited_all, credited.compensated, max_eq_right (by omega)]
  ring

theorem due_le_refundCents (s : RefundedInvoice) : s.due ≤ s.refundCents := by
  have fewer : s.credited CreditNote.numbered ≤ s.credited fun _ => true := by
    rw [RefundedInvoice.credited, RefundedInvoice.credited, Table.sum_filter, Table.sum_filter]
    refine List.sum_le_sum fun n _ => ?_
    have := min_le_left 0 n.total
    cases n.status <;> cases n.numbered <;> simp
  have := max_le_max_left 0 (sub_le_sub_right fewer s.compensated)
  rw [due, refundCents, covered, covered]
  omega

theorem cancelDrafts_issued (s : RefundedInvoice) : s.cancelDrafts.issuedTotal = s.issuedTotal := by
  rw [issuedTotal, issuedTotal, Table.sum_filter, Table.sum_filter, cancelDrafts, List.map_map]
  congr 1
  refine List.map_congr_left fun n _ => ?_
  simp only [Function.comp_apply]
  split
  · rename_i draft
    simp [draft.1]
  · rfl

theorem Credited.cancelDrafts_live (credited : s.Credited) : s.cancelDrafts.live = s.issuedTotal := by
  rw [live, issuedTotal, Table.sum_filter, Table.sum_filter, cancelDrafts, List.map_map]
  congr 1
  refine List.map_congr_left fun n mem => ?_
  have automatic := credited.automatic n mem
  simp only [Function.comp_apply, automatic, and_true]
  cases status : n.status <;> simp [status]

theorem issueNote_live (issued : s.issueNote position numbered = some t) :
    t.live = s.live := by
  obtain ⟨n, found, draft, rfl⟩ := issueNote_some issued
  obtain ⟨inside, rfl⟩ := List.getElem?_eq_some_iff.mp found
  rw [live, live, Table.sum_filter, Table.sum_filter, List.map_set]
  congr 1
  apply List.ext_getElem (by simp)
  intro i _ _
  rw [List.getElem_set]
  split
  · rename_i same
    subst same
    simp [draft]
  · rfl

variable (credited : s.Credited)
include credited

theorem Credited.issueNote (issued : s.issueNote position numbered = some t) : t.Credited := by
  have room := credited.room
  rw [← issueNote_live issued] at room
  obtain ⟨n, found, -, rfl⟩ := issueNote_some issued
  have mem : n ∈ s.notes := List.mem_of_getElem? found
  refine ⟨credited.compensated, credited.positive, fun m at_ => ?_, fun m at_ => ?_, room⟩
  · rcases List.mem_or_eq_of_mem_set at_ with old | rfl
    · exact credited.automatic m old
    · exact credited.automatic n mem
  · rcases List.mem_or_eq_of_mem_set at_ with old | rfl
    · exact credited.nonpos m old
    · exact credited.nonpos n mem

theorem Credited.drafted_live : (s.drafted (-s.due)).live = -min s.amountRefunded s.total := by
  have before := credited.cancelDrafts_live
  rw [live] at before
  rw [drafted, live, List.filter_append, List.map_append, List.sum_append, before, credited.due_eq]
  simp

theorem Credited.drafted (owed : 0 < s.due) : (s.drafted (-s.due)).Credited := by
  refine ⟨credited.compensated, credited.positive, fun m mem => ?_, fun m mem => ?_, ?_⟩
  · rcases List.mem_append.mp mem with old | new
    · obtain ⟨n, kept, rfl⟩ := List.mem_map.mp old
      have := credited.automatic n kept
      split <;> exact this
    · rw [List.mem_singleton.mp new]
  · rcases List.mem_append.mp mem with old | new
    · obtain ⟨n, kept, rfl⟩ := List.mem_map.mp old
      have := credited.nonpos n kept
      split <;> exact this
    · rw [List.mem_singleton.mp new]
      exact neg_nonpos.mpr owed.le
  · rw [credited.drafted_live, neg_neg]
    exact le_rfl

theorem Credited.step (exact_ : a.handles = true → s.Exact) (taken : s.step a = some t) : t.Credited := by
  cases a with
  | refund cents =>
    simp only [RefundedInvoice.step] at taken
    split at taken
    · rename_i more
      obtain rfl := Option.some.inj taken
      have grows : min s.amountRefunded s.total ≤ min (s.amountRefunded + cents) s.total :=
        min_le_min_right _ (by omega)
      exact ⟨credited.compensated, credited.positive, credited.automatic, credited.nonpos,
        credited.room.trans grows⟩
    · cases taken
  | issue position numbered => exact credited.issueNote taken
  | handle issues =>
    obtain rfl := Option.some.inj taken
    obtain ⟨-, same⟩ | ⟨credits, ⟨-, e, refused⟩ | ⟨total, made, same⟩⟩ := s.handle_cases issues
    · rw [same]
      exact credited
    · have drafts := (exact_ rfl credits).2
      rw [refused] at drafts
      cases drafts
    · obtain ⟨owed, drafts⟩ := exact_ rfl credits
      obtain rfl : -s.due = total := Except.ok.inj (drafts.symm.trans made)
      rw [same]
      cases issues
      · exact credited.drafted owed
      · rw [if_pos rfl]
        cases issued : (s.drafted (-s.due)).issueNote s.notes.length true with
        | none => exact credited.drafted owed
        | some u => exact (credited.drafted owed).issueNote issued

theorem Credited.issued_eq (exact_ : s.Exact) :
    (s.issueRefundCreditNote true).issuedTotal = -min s.amountRefunded s.total := by
  obtain ⟨nothing, same⟩ | ⟨credits, ⟨-, e, refused⟩ | ⟨total, made, same⟩⟩ := s.handle_cases true
  · have covers := s.due_le_refundCents
    have positive := credited.positive
    rw [RefundedInvoice.credits, Bool.and_eq_false_iff, decide_eq_false_iff_not, decide_eq_false_iff_not] at nothing
    rw [credited.due_eq] at covers
    have room := credited.room
    have live := credited.live_le
    rw [same]
    omega
  · have drafts := (exact_ credits).2
    rw [refused] at drafts
    cases drafts
  · obtain ⟨owed, drafts⟩ := exact_ credits
    obtain rfl : -s.due = total := Except.ok.inj (drafts.symm.trans made)
    have admitted : 0 ≤ (s.drafted (-s.due)).total + (s.drafted (-s.due)).live := by
      have whole : (s.drafted (-s.due)).total = s.total := rfl
      have refunded := min_le_right s.amountRefunded s.total
      rw [credited.drafted_live, whole]
      omega
    have last : s.notes.length = s.cancelDrafts.notes.length := by simp [cancelDrafts]
    have found : (s.drafted (-s.due)).notes[s.notes.length]? = some ⟨-s.due, .draft, true, false⟩ := by
      rw [RefundedInvoice.drafted, last]
      exact List.getElem?_concat_length
    have issued : (s.drafted (-s.due)).issueNote s.notes.length true =
        some { s.cancelDrafts with notes := s.cancelDrafts.notes ++ [⟨-s.due, .issued, true, true⟩] } := by
      rw [RefundedInvoice.issueNote, found, Option.bind_some, if_pos ⟨rfl, admitted⟩, RefundedInvoice.drafted, last]
      simp
    have before := s.cancelDrafts_issued
    rw [issuedTotal] at before
    rw [same, if_pos rfl, issued, Option.getD_some, issuedTotal, List.filter_append, List.map_append, List.sum_append,
      before, credited.due_eq]
    simp

theorem Credited.run (exact_ : s.NotesExact (actions ++ [.handle true]))
    (ran : exec RefundedInvoice.step s (actions ++ [.handle true]) = some t) :
    t.issuedTotal = -min t.amountRefunded t.total := by
  induction actions generalizing s with
  | nil =>
    obtain rfl : s.issueRefundCreditNote true = t := Option.some.inj ran
    rw [credited.issued_eq (exact_.1 rfl)]
    obtain ⟨notes, same⟩ := s.handle_keeps true
    rw [same]
  | cons a rest ih =>
    obtain ⟨u, taken, later⟩ := Option.bind_eq_some_iff.mp ran
    exact ih (credited.step exact_.1 taken) (exact_.2 u taken) later

omit credited

/-! ### Rates one by one -/

end RefundedInvoice

open RefundedInvoice

def oneLineAt21 (netCents taxCents : ℤ) : RefundedInvoice where
  invoiceNumber := "FA-1"
  items := [⟨"Trastero", 1, euros netCents, 21, "S1", taxCents, netCents + taxCents, none, 0⟩]
  total := netCents + taxCents
  amountRefunded := 0
  compensated := 0
  notes := []

theorem oneLineAt21_proper (limit : netCents + taxCents ≤ maxInvoiceTotalCents) :
    (oneLineAt21 netCents taxCents).Proper where
  rates := by
    intro it mem
    rw [List.mem_singleton.mp mem]
    exact ⟨by norm_num, by norm_num, 2100, by norm_num⟩
  categories := by simp [oneLineAt21]
  total := by simp [oneLineAt21]
  limit := limit

theorem oneLineAt21_fresh (positive : 0 < netCents + taxCents) :
    (oneLineAt21 netCents taxCents).Fresh :=
  ⟨rfl, rfl, rfl, positive⟩

end StorageOS
