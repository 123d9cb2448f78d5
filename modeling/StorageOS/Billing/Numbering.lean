import StorageOS.Lib.Linked
import StorageOS.Billing.FiscalSteps

/-! The numbers of a series. The numbered records of a series are an append-only sequence in the order of issue; the
counter of the series stands after the last one. An edit checks that no number has been issued in a transaction of its
own and writes in another. -/

namespace StorageOS

open Transition

def FiscalRecord.year (r : FiscalRecord) : Option ℤ := r.issueDate.map Gregorian.year

/-- A numbered record follows the one before it: the next number or, in a series by year, 1 in a
new year; a date that is not earlier; and the format of the series. -/
structure NumberLink (start : ℤ) (series : InvoiceSeries)
    (previous : Option (InvoiceId × FiscalRecord)) (x : InvoiceId × FiscalRecord) : Prop where
  number : x.2.sequenceNumber =
    match previous with
    | none => if series.yearScope then 1 else start
    | some p =>
      if series.yearScope ∧ x.2.year ≠ p.2.year then 1 else p.2.sequenceNumber + 1
  inOrder : ∀ p ∈ previous, ∃ d₀ d, p.2.issueDate = some d₀ ∧ x.2.issueDate = some d ∧ d₀ ≤ d
  format : ∃ d, x.2.issueDate = some d ∧
    x.2.invoiceNumber = formatInvoiceNumber series x.2.sequenceNumber d

/-- The counter of a series after the last record of its sequence. -/
structure CounterAfter (start : ℤ) (series : InvoiceSeries)
    (last : Option (InvoiceId × FiscalRecord)) : Prop where
  next : series.nextNumber = (last.map fun p => p.2.sequenceNumber + 1).getD start
  year : series.yearScope ∨ last = none → series.numberingYear = last.bind fun p => p.2.year

structure SameNumbering (series series' : InvoiceSeries) : Prop where
  tenantId : series'.tenantId = series.tenantId
  seriesPrefix : series'.seriesPrefix = series.seriesPrefix
  yearScope : series'.yearScope = series.yearScope

variable {series : InvoiceSeries}

theorem formatInvoiceNumber_congr {series' : InvoiceSeries} (same : SameNumbering series series') (n : ℤ) (d : Date) :
    formatInvoiceNumber series' n d = formatInvoiceNumber series n d := by
  simp only [formatInvoiceNumber, same.seriesPrefix, same.yearScope]

variable {x : InvoiceId × FiscalRecord} {db : Db} {tenantId : TenantId} {id : SeriesId} {s : BillingState} {start : ℤ}

theorem NumberLink.congr {series' : InvoiceSeries} (same : SameNumbering series series')
    {previous : Option (InvoiceId × FiscalRecord)} (link : NumberLink start series previous x) :
    NumberLink start series' previous x where
  number := by simpa only [same.yearScope] using link.number
  inOrder := link.inOrder
  format := by simpa only [formatInvoiceNumber_congr same] using link.format

/-- The series of a tenant: its numbered records in the order of issue, and its counter. -/
structure Numbers (start : ℤ) (db : Db) (tenantId : TenantId) (id : SeriesId)
    (series : InvoiceSeries) (order : List (InvoiceId × FiscalRecord)) : Prop where
  found : db.series.find id = some series
  tenant : series.tenantId = tenantId
  perm : order.Perm (db.fiscal.numbered tenantId id)
  linked : Linked (NumberLink start series) order
  counter : CounterAfter start series order.getLast?

/-! ### A new number -/

variable {order : List (InvoiceId × FiscalRecord)}

theorem Numbers.sequence_pos (numbers : Numbers start db tenantId id series order) (mem : x ∈ order) :
    0 < x.2.sequenceNumber := by
  have := numbers.perm.mem_iff.mp mem
  simp only [FiscalBook.numbered, List.mem_filter, Bool.and_eq_true, decide_eq_true_eq] at this
  exact this.2.2

variable {book : FiscalBook} {issueDate : Date} {k : InvoiceId} {f : FiscalRecord → FiscalRecord} {r : ℕ}
  {clock : Clock} {db' : Db} {reg : Registry} {sha : Sha256}

theorem last_le_of_inOrder {issueDate d : Date} (mem : x ∈ book.numbered tenantId id) (dated : x.2.issueDate = some d)
    (inOrder : ∀ last ∈ book.lastInSeries tenantId id, last.1 ≤ issueDate) :
    d ≤ issueDate := by
  have entry : (d, x.2.invoiceNumber) ∈ (book.numbered tenantId id).filterMap fun p =>
      p.2.issueDate.map fun d => (d, p.2.invoiceNumber) :=
    List.mem_filterMap.mpr ⟨x, mem, by simp [dated]⟩
  cases last : book.lastInSeries tenantId id with
  | none =>
    rw [FiscalBook.lastInSeries, List.argmax_eq_none] at last
    rw [last] at entry
    simp at entry
  | some m =>
    exact (List.le_of_mem_argmax entry last).trans (inOrder m last)

theorem Numbers.next (numbers : Numbers start db tenantId id series order)
    (inOrder : ∀ last ∈ db.fiscal.lastInSeries tenantId id, last.1 ≤ issueDate) {after : InvoiceSeries}
    (reserved : after = series.reserve (Gregorian.year issueDate))
    (number : x.2.sequenceNumber = after.nextNumber - 1) (dated : x.2.issueDate = some issueDate)
    (format : x.2.invoiceNumber = formatInvoiceNumber after (after.nextNumber - 1) issueDate) :
    NumberLink start after order.getLast? x ∧ CounterAfter start after (some x) := by
  obtain ⟨next, year⟩ := numbers.counter
  have xyear : x.2.year = some (Gregorian.year issueDate) := by simp [FiscalRecord.year, dated]
  refine ⟨⟨?_, ?_, issueDate, dated, by rw [number, format]⟩, ⟨by simp [number], ?_⟩⟩
  · rw [number, reserved, xyear]
    simp only [InvoiceSeries.reserve]
    cases last : order.getLast? with
    | none =>
      have started : series.numberingYear = none := by simpa [last] using year (.inr last)
      by_cases scope : series.yearScope = true <;> simp [started, next, last, scope]
    | some p =>
      by_cases scope : series.yearScope = true
      · have same : series.numberingYear = p.2.year := by simpa [last] using year (.inl scope)
        by_cases hyear : p.2.year = some (Gregorian.year issueDate)
        · simp [same, hyear, next, last]
        · simp [same, hyear, Ne.symm hyear, scope]
      · simp [next, last, scope]
  · intro p hp
    have mem := numbers.perm.mem_iff.mp (List.mem_of_getLast? hp)
    obtain ⟨d₀, hd₀, _⟩ : ∃ d, p.2.issueDate = some d ∧
        p.2.invoiceNumber = formatInvoiceNumber series p.2.sequenceNumber d :=
      numbers.linked.forall_mem (fun _ _ _ link => link.format) p (List.mem_of_getLast? hp)
    exact ⟨d₀, issueDate, hd₀, dated, last_le_of_inOrder mem hd₀ inOrder⟩
  · intro scope
    have : series.yearScope = true := by simpa [reserved, InvoiceSeries.reserve] using scope
    simp [reserved, InvoiceSeries.reserve, this, xyear]

/-! ### Steps -/

theorem numbered_modify_same (tenantId : TenantId) (id : SeriesId)
    (h : ∀ r, book.find k = some r → r.sequenceNumber ≤ 0 ∧ (f r).sequenceNumber ≤ 0) :
    FiscalBook.numbered (book.modify k f) tenantId id = book.numbered tenantId id := by
  refine Table.filter_modify_same fun r found => ?_
  obtain ⟨before, after⟩ := h r found
  simp [not_lt.mpr before, not_lt.mpr after]

def FiscalRecord.numberFields (r : FiscalRecord) :=
  (r.tenantId, r.seriesId, r.sequenceNumber, r.issueDate, r.invoiceNumber)

theorem numbers_modify {db db' : Db} (keeps : ∀ r, (f r).numberFields = r.numberFields)
    (book : db'.fiscal = db.fiscal.modify k f) (hseries : db'.series = db.series)
    (numbers : Numbers start db tenantId id series order) :
    ∃ order', Numbers start db' tenantId id series order' := by
  simp only [FiscalRecord.numberFields, Prod.mk.injEq] at keeps
  have sequence : ∀ q : InvoiceId × FiscalRecord,
      (if q.1 = k then (q.1, f q.2) else q).2.sequenceNumber = q.2.sequenceNumber := by
    intro q
    split <;> simp [keeps]
  have date : ∀ q : InvoiceId × FiscalRecord,
      (if q.1 = k then (q.1, f q.2) else q).2.issueDate = q.2.issueDate := by
    intro q
    split <;> simp [keeps]
  have year : ∀ q : InvoiceId × FiscalRecord,
      (if q.1 = k then (q.1, f q.2) else q).2.year = q.2.year := by
    intro q
    simp only [FiscalRecord.year, date]
  have number : ∀ q : InvoiceId × FiscalRecord,
      (if q.1 = k then (q.1, f q.2) else q).2.invoiceNumber = q.2.invoiceNumber := by
    intro q
    split <;> simp [keeps]
  refine ⟨order.map fun q => if q.1 = k then (q.1, f q.2) else q, ?_, numbers.tenant, ?_,
    numbers.linked.map ?_, ?_⟩
  · rw [hseries]
    exact numbers.found
  · rw [book, FiscalBook.numbered, Table.filter_modify_map fun r => by simp [keeps r]]
    exact numbers.perm.map _
  · intro previous x link
    refine ⟨?_, ?_, ?_⟩
    · have := link.number
      cases previous <;> simpa [sequence, year] using this
    · intro q hq
      obtain ⟨p, hp, rfl⟩ := Option.map_eq_some_iff.mp hq
      simpa only [date] using link.inOrder p hp
    · simpa only [date, number, sequence] using link.format
  · rw [List.getLast?_map]
    obtain ⟨next, counted⟩ := numbers.counter
    refine ⟨?_, fun h => ?_⟩
    · rw [next]
      cases order.getLast? <;> simp [sequence]
    · have := counted (h.imp_right Option.map_eq_none_iff.mp)
      rw [this]
      cases order.getLast? <;> simp [year]

/-- The commit of an edit of a series finds that it does not change the numbering, or that no
number of the series has been issued. -/
def numberingFrozen (s : BillingState) : BillingAction → Bool
  | .commit r _ =>
    match s.requests r with
    | some (.seriesWrite args _) =>
      (s.db.series.find args.seriesId).all fun series =>
        ((series.edit args.input).seriesPrefix = series.seriesPrefix &&
          (series.edit args.input).yearScope = series.yearScope) ||
        (s.db.fiscal.numbered series.tenantId args.seriesId).length = 0
    | _ => true
  | _ => true

/-- No request is under way, drafts carry no number, and the series is as it was created, with
no number issued. -/
structure NewSeries (s : BillingState) (id : SeriesId) (series : InvoiceSeries) : Prop where
  idle : ∀ r, s.requests r = none
  drafts : ∀ j a, s.db.accounts.find j = some a → a.invoice.status = .draft →
    a.invoice.sequenceNumber ≤ 0
  found : s.db.series.find id = some series
  unused : s.db.fiscal.numbered series.tenantId id = []
  started : 0 < series.nextNumber
  noYear : series.numberingYear = none

/-- The invariant: requests agree with the rows they read, drafts carry no number, and the series
has its sequence and its counter. -/
structure NumberInvariant (start : ℤ) (tenantId : TenantId) (id : SeriesId) (s : BillingState) :
    Prop where
  coherent : s.Coherent
  drafts : ∀ j r, s.db.fiscal.find j = some r → r.draft = true → r.sequenceNumber ≤ 0
  numbers : ∃ series order, Numbers start s.db tenantId id series order

theorem NewSeries.invariant (new : NewSeries s id series) :
    NumberInvariant series.nextNumber series.tenantId id s where
  coherent r req h := by simp [new.idle r] at h
  drafts j r h draft := by
    rw [Db.fiscal, Table.find_view, Option.map_eq_some_iff] at h
    obtain ⟨a, found, rfl⟩ := h
    exact new.drafts j a found (by simpa [Account.fiscal] using draft)
  numbers := ⟨series, [], new.found, rfl, by rw [new.unused], .nil, rfl, fun _ => new.noYear⟩

theorem numbers_seriesEdited {args : UpdateSeriesArgs} {existing : InvoiceSeries}
    (found : s.requests r = some (.seriesWrite args existing)) (frozen : numberingFrozen s (.commit r clock) = true)
    (book : db'.fiscal = s.db.fiscal)
    (hseries : db'.series =
      (s.db.series.view (unmarkDefault args.tenantId existing args.input)).modify args.seriesId
        (·.edit args.input)) (numbers : Numbers start s.db tenantId id series order) :
    ∃ series', Numbers start db' tenantId id series' order := by
  -- Taking the default mark away changes nothing that the numbering reads.
  have unmarked : ∀ x : InvoiceSeries,
      SameNumbering x (unmarkDefault args.tenantId existing args.input x) ∧
        (unmarkDefault args.tenantId existing args.input x).nextNumber = x.nextNumber ∧
        (unmarkDefault args.tenantId existing args.input x).numberingYear = x.numberingYear := by
    intro x
    unfold unmarkDefault
    split <;> exact ⟨⟨rfl, rfl, rfl⟩, rfl, rfl⟩
  have moved : ∀ series', db'.series.find id = some series' →
      series'.tenantId = series.tenantId → series'.nextNumber = series.nextNumber →
      series'.numberingYear = series.numberingYear →
      (SameNumbering series series' ∨ order = []) → Numbers start db' tenantId id series' order := by
    intro series' found' tenant next year same
    obtain ⟨counted, counterYear⟩ := numbers.counter
    refine ⟨found', tenant.trans numbers.tenant, by rw [book]; exact numbers.perm, ?_, ?_, ?_⟩
    · rcases same with same | rfl
      · exact numbers.linked.mono fun _ _ link => link.congr same
      · exact .nil
    · rw [next, counted]
    · rw [year]
      rcases same with same | rfl
      · rw [same.yearScope]
        exact counterYear
      · exact fun _ => counterYear (.inr rfl)
  obtain ⟨same, next, year⟩ := unmarked series
  by_cases edited : id = args.seriesId
  · refine ⟨(unmarkDefault args.tenantId existing args.input series).edit args.input,
      moved _ ?_ same.tenantId next year ?_⟩
    · rw [hseries, edited, Table.find_modify_self, Table.find_view, ← edited, numbers.found]
      rfl
    · have condition : ((series.edit args.input).seriesPrefix = series.seriesPrefix ∧
          (series.edit args.input).yearScope = series.yearScope) ∨
          s.db.fiscal.numbered series.tenantId id = [] := by
        have := frozen
        rw [edited] at numbers ⊢
        simpa [numberingFrozen, found, numbers.found] using this
      rcases condition with ⟨samePrefix, hscope⟩ | unused
      · refine .inl ⟨same.tenantId, ?_, ?_⟩
        · rw [← samePrefix]
          simp only [InvoiceSeries.edit, same.seriesPrefix]
        · rw [← hscope]
          simp only [InvoiceSeries.edit, same.yearScope]
      · have perm := numbers.perm
        rw [← numbers.tenant, unused, List.perm_nil] at perm
        exact .inr perm
  · refine ⟨unmarkDefault args.tenantId existing args.input series,
      moved _ ?_ same.tenantId next year (.inl same)⟩
    rw [hseries, Table.find_modify_ne _ edited, Table.find_view, numbers.found]
    rfl

/-- The commit of an issue appends its number to the sequence of its series, and leaves the others
alone. -/
theorem numbers_stamped {db db' : Db} {args : IssueArgs} {existing : Invoice} {after before : InvoiceSeries}
    {stamp : Stamp} {x : FiscalRecord} (startPos : 0 < start) (hx : db.fiscal.find args.invoiceId = some x)
    (unnumbered : x.sequenceNumber ≤ 0) (tenant : x.tenantId = args.tenantId)
    (inSeries : x.seriesId = existing.seriesId)
    (reserved : Reserved db args.tenantId existing.seriesId issueDate after before)
    (number : stamp.sequenceNumber = after.nextNumber - 1) (dated : stamp.issueDate = issueDate)
    (format : stamp.invoiceNumber = formatInvoiceNumber after (after.nextNumber - 1) issueDate)
    (book : db'.fiscal = db.fiscal.modify args.invoiceId (·.stamp stamp))
    (hseries : db'.series = db.series.modify existing.seriesId fun _ => after)
    (numbers : Numbers start db tenantId id series order) :
    ∃ series' order', Numbers start db' tenantId id series' order' := by
  obtain ⟨found, beforeTenant⟩ : db.series.find existing.seriesId = some before ∧
      before.tenantId = args.tenantId := by
    simpa [Db.findSeries, Option.filter_eq_some_iff] using reserved.found
  by_cases ours : existing.seriesId = id
  · subst ours
    have same : before = series := by
      rw [numbers.found, Option.some.injEq] at found
      exact found.symm
    subst same
    have htenant : args.tenantId = tenantId := beforeTenant.symm.trans numbers.tenant
    subst htenant
    obtain ⟨link, counter⟩ := numbers.next (x := (args.invoiceId, x.stamp stamp)) reserved.inOrder
      reserved.after number (congrArg some dated) format
    have config : SameNumbering before after := by
      rw [reserved.after]
      exact ⟨rfl, rfl, rfl⟩
    have positive : 0 < stamp.sequenceNumber := by
      have hnumber : stamp.sequenceNumber = _ := link.number
      cases last : order.getLast? with
      | none =>
        simp only [last] at hnumber
        split at hnumber <;> omega
      | some p =>
        have := numbers.sequence_pos (List.mem_of_getLast? last)
        simp only [last] at hnumber
        split at hnumber <;> omega
    refine ⟨after, order ++ [(args.invoiceId, x.stamp stamp)], ?_,
      config.tenantId.trans numbers.tenant, ?_, ?_, ?_⟩
    · rw [hseries, Table.find_modify_self, found]
      rfl
    · have joins := Table.filter_modify_perm hx (f := fun r => r.stamp stamp)
        (p := fun p => p.2.tenantId = args.tenantId && p.2.seriesId = existing.seriesId &&
          decide (0 < p.2.sequenceNumber))
        (by simp [not_lt.mpr unnumbered]) (by simp [FiscalRecord.stamp, tenant, inSeries, positive])
      rw [book]
      exact (numbers.perm.append_right _).trans joins.symm
    · exact (numbers.linked.mono fun _ _ link => link.congr config).snoc link
    · rwa [List.getLast?_concat]
  · refine ⟨series, order, ?_, numbers.tenant, ?_, numbers.linked, numbers.counter⟩
    · rw [hseries, Table.find_modify_ne _ (Ne.symm ours)]
      exact numbers.found
    · rw [book, FiscalBook.numbered, Table.filter_modify_same]
      · exact numbers.perm
      · intro r hr
        rw [hx, Option.some.injEq] at hr
        subst hr
        simp [FiscalRecord.stamp, inSeries, ours]

theorem numberInvariant_commit {req : Request} (startPos : 0 < start) (inv : NumberInvariant start tenantId id s)
    (found : s.requests r = some req) (frozen : numberingFrozen s (.commit r clock) = true)
    (commit : FiscalCommit reg sha clock s.db db' req) :
    (∀ j r, db'.fiscal.find j = some r → r.draft = true → r.sequenceNumber ≤ 0) ∧
      ∃ series order, Numbers start db' tenantId id series order := by
  have coherent := inv.coherent r req found
  obtain ⟨series, order, numbers⟩ := inv.numbers
  have drafts : ∀ {k : InvoiceId} {f : FiscalRecord → FiscalRecord},
      (∀ x, (f x).draft = true → x.draft = true ∧ (f x).sequenceNumber = x.sequenceNumber) →
      ∀ j x, (s.db.fiscal.modify k f).find j = some x → x.draft = true →
        x.sequenceNumber ≤ 0 := by
    intro k f hf j x hx draft
    rcases Table.find_modify_cases hx with ⟨_, hx⟩ | ⟨rfl, y, hy, rfl⟩
    · exact inv.drafts j x hx draft
    · obtain ⟨hdraft, hnumber⟩ := hf y draft
      rw [hnumber]
      exact inv.drafts j y hy hdraft
  have draftRow : ∀ {tenant k x}, s.db.fiscal.IsDraft tenant k → s.db.fiscal.find k = some x →
      x.draft = true ∧ x.tenantId = tenant ∧ x.sequenceNumber ≤ 0 := by
    rintro tenant k x ⟨y, hy, htenant, hdraft⟩ hx
    rw [hy, Option.some.injEq] at hx
    subst hx
    exact ⟨hdraft, htenant, inv.drafts _ _ hy hdraft⟩
  -- A change of a draft keeps every sequence, as drafts carry no number.
  have ofDraft : ∀ {tenant k} {f : FiscalRecord → FiscalRecord}, s.db.fiscal.IsDraft tenant k →
      db'.fiscal = s.db.fiscal.modify k f → db'.series = s.db.series →
      (∀ x, (f x).sequenceNumber = x.sequenceNumber) →
      ∃ series order, Numbers start db' tenantId id series order := by
    intro tenant k f draft book hseries hf
    refine ⟨series, order, by rw [hseries]; exact numbers.found, numbers.tenant, ?_,
      numbers.linked, numbers.counter⟩
    rw [book, numbered_modify_same tenantId id fun x hx => ?_]
    · exact numbers.perm
    · rw [hf x]
      exact ⟨(draftRow draft hx).2.2, (draftRow draft hx).2.2⟩
  cases commit with
  | same book hseries =>
    refine ⟨by rw [book]; exact inv.drafts, series, order, ?_, numbers.tenant, ?_,
      numbers.linked, numbers.counter⟩
    · rw [hseries]
      exact numbers.found
    · rw [book]
      exact numbers.perm
  | seriesEdited book hseries =>
    obtain ⟨series', numbers'⟩ := numbers_seriesEdited found frozen book hseries numbers
    exact ⟨by rw [book]; exact inv.drafts, series', order, numbers'⟩
  | dated issueDate draft book hseries =>
    refine ⟨?_, ofDraft draft book hseries fun _ => rfl⟩
    rw [book]
    exact drafts fun _ h => ⟨h, rfl⟩
  | numbered issueDate draft book hseries =>
    refine ⟨?_, ofDraft draft book hseries fun _ => rfl⟩
    rw [book]
    exact drafts fun _ h => absurd h Bool.false_ne_true
  | edited keep lines computed book hseries =>
    obtain ⟨order', numbers'⟩ :=
      numbers_modify (fun x => by cases lines <;> rfl) book hseries numbers
    refine ⟨?_, series, order', numbers'⟩
    rw [book]
    exact drafts fun x h => ⟨(Bool.and_eq_true_iff.mp h).1, by cases lines <;> rfl⟩
  | @stamped args existing after before draft reserved book hseries =>
    have ⟨x, hx, _⟩ := draft
    obtain ⟨_, htenant, unnumbered⟩ := draftRow draft hx
    have header : x.header =
        ⟨args.tenantId, existing.ownerId, existing.seriesId, existing.invoiceType⟩ := by
      have := coherent
      rw [Request.Coherent, FiscalBook.Keeps, Table.find_view, hx] at this
      exact Option.some.inj this
    refine ⟨?_, numbers_stamped startPos hx unnumbered htenant
      (congrArg Header.seriesId header) reserved rfl rfl rfl book hseries numbers⟩
    rw [book]
    exact drafts fun _ h => absurd h Bool.false_ne_true

theorem numberInvariant_step {s s' : BillingState} {a : BillingAction} (startPos : 0 < start)
    (inv : NumberInvariant start tenantId id s) (frozen : numberingFrozen s a = true)
    (h : billingStep reg sha s a = some s') : NumberInvariant start tenantId id s' := by
  have coherent := coherent_step inv.coherent h
  rcases billingStep_db h with same | ⟨r, clock, req, next, rfl, found, committed⟩
  · exact ⟨coherent, by rw [same]; exact inv.drafts, by rw [same]; exact inv.numbers⟩
  · obtain ⟨drafts, numbers⟩ :=
      numberInvariant_commit startPos inv found frozen (commitRequest_commit committed)
    exact ⟨coherent, drafts, numbers⟩

/-! ### Consecutive numbers -/

section

variable {start : ℤ} {series : InvoiceSeries} {order : List (InvoiceId × FiscalRecord)}

variable (linked : Linked (NumberLink start series) order)
include linked

theorem numberLink_succ {i : ℕ} (hi : i + 1 < order.length) :
    NumberLink start series (some order[i]) order[i + 1] := by
  have link := linked.getElem (i + 1) hi
  rwa [if_neg (by omega), Nat.add_sub_cancel, List.getElem?_eq_getElem (by omega)] at link

theorem numbers_sorted {i j : ℕ} (hij : i ≤ j) (hj : j < order.length) :
    ∃ d d', order[i].2.issueDate = some d ∧ order[j].2.issueDate = some d' ∧ d ≤ d' := by
  induction j with
  | zero =>
    obtain ⟨d, hd, _⟩ := (linked.getElem 0 hj).format
    obtain rfl : i = 0 := by omega
    exact ⟨d, d, hd, hd, le_rfl⟩
  | succ j ih =>
    by_cases last : i = j + 1
    · subst last
      obtain ⟨d, hd, _⟩ := (linked.getElem (j + 1) hj).format
      exact ⟨d, d, hd, hd, le_rfl⟩
    · obtain ⟨d, d₁, hd, hd₁, hle⟩ := ih (by omega) (by omega)
      obtain ⟨d₂, d', hd₂, hd', hle'⟩ := (numberLink_succ linked hj).inOrder _ rfl
      rw [hd₁, Option.some.injEq] at hd₂
      exact ⟨d, d', hd, hd', hle.trans (hd₂ ▸ hle')⟩

theorem numbers_single (single : series.yearScope = false) (i : ℕ) (hi : i < order.length) :
    order[i].2.sequenceNumber = start + i := by
  induction i with
  | zero => simpa [single] using (linked.getElem 0 hi).number
  | succ i ih =>
    have number := (numberLink_succ linked hi).number
    simp only [single, Bool.false_eq_true, false_and, if_false] at number
    rw [number, ih (by omega)]
    push_cast
    ring

theorem numbers_yearly (yearly : series.yearScope = true) (i : ℕ) (hi : i < order.length) :
    order[i].2.sequenceNumber =
      ((order.take (i + 1)).countP fun p => p.2.year = order[i].2.year : ℕ) := by
  induction i with
  | zero =>
    have number := (linked.getElem 0 hi).number
    rw [← List.take_append_getElem hi]
    simpa [yearly] using number
  | succ i ih =>
    have number := (numberLink_succ linked hi).number
    rw [← List.take_append_getElem hi, List.countP_append]
    by_cases same : order[i + 1].2.year = order[i].2.year
    · simp only [same, ne_eq, not_true_eq_false, and_false, if_false, ih (by omega)] at number
      simpa [same] using number
    · simp only [yearly, ne_eq, same, not_false_eq_true, and_self, if_true] at number
      -- Dates do not go back, so no earlier record is of the new year.
      have none : (order.take (i + 1)).countP (fun p => p.2.year = order[i + 1].2.year) = 0 := by
        rw [List.countP_eq_zero]
        intro p hp
        obtain ⟨j, hj, rfl⟩ := List.mem_take_iff_getElem.mp hp
        obtain ⟨d, d₁, hd, hd₁, hle⟩ := numbers_sorted linked (i := j) (j := i) (by omega) (by omega)
        obtain ⟨d₂, d', hd₂, hd', hle'⟩ := (numberLink_succ linked hi).inOrder _ rfl
        rw [hd₁, Option.some.injEq] at hd₂
        subst hd₂
        have y₁ := Gregorian.year_mono hle
        have y₂ := Gregorian.year_mono hle'
        simp only [FiscalRecord.year, hd₁, hd', Option.map_some, Option.some.injEq] at same
        simp only [FiscalRecord.year, hd, hd', Option.map_some, Option.some.injEq,
          decide_eq_true_eq]
        omega
      rw [number, none]
      simp

end

/-- The numbered records of a series in the order of issue: consecutive numbers, by year when the
series restarts, dates that do not go back, and numbers in the format the series has; the next
number follows the last. -/
structure Consecutive (start : ℤ) (series : InvoiceSeries)
    (order : List (InvoiceId × FiscalRecord)) : Prop where
  number : ∀ i (hi : i < order.length), order[i].2.sequenceNumber =
    if series.yearScope then
      (((order.take (i + 1)).countP fun p => p.2.year = order[i].2.year : ℕ) : ℤ)
    else start + i
  sorted : ∀ i j (_ : i ≤ j) (hj : j < order.length),
    ∃ d d', order[i].2.issueDate = some d ∧ order[j].2.issueDate = some d' ∧ d ≤ d'
  format : ∀ x ∈ order, ∃ d, x.2.issueDate = some d ∧
    x.2.invoiceNumber = formatInvoiceNumber series x.2.sequenceNumber d
  next : series.nextNumber = (order.getLast?.map fun p => p.2.sequenceNumber + 1).getD start

/-- The records that a series has numbered, all of them, are consecutive. -/
def SeriesConsecutive (start : ℤ) (db : Db) (tenantId : TenantId) (id : SeriesId) : Prop :=
  ∃ series order, db.series.find id = some series ∧
    order.Perm (db.fiscal.numbered tenantId id) ∧ Consecutive start series order

theorem Numbers.consecutive (numbers : Numbers start db tenantId id series order) :
    Consecutive start series order where
  number i hi := by
    cases scope : series.yearScope with
    | false => simpa using numbers_single numbers.linked scope i hi
    | true => simpa using numbers_yearly numbers.linked scope i hi
  sorted _ _ hij hj := numbers_sorted numbers.linked hij hj
  format := numbers.linked.forall_mem fun _ _ _ link => link.format
  next := numbers.counter.next

/-- In every run of issue requests and series edits in which no edit that changes the numbering is
written once a number has been issued, the series numbers consecutively. -/
theorem series_consecutive {reg : Registry} {sha : Sha256} {s t : BillingState} {id : SeriesId}
    {series : InvoiceSeries} (new : NewSeries s id series)
    (run : Run (billingStep reg sha) (fun s a => numberingFrozen s a = true) s t) :
    SeriesConsecutive series.nextNumber t.db series.tenantId id := by
  have inv := run.invariant new.invariant fun inv frozen taken =>
    numberInvariant_step new.started inv frozen taken
  obtain ⟨series', order, numbers⟩ := inv.numbers
  exact ⟨series', order, numbers.found, numbers.perm, numbers.consecutive⟩

theorem twoDrafts_newSeries : NewSeries twoDrafts 0 (newSeries 1 "FA" true) where
  idle _ := rfl
  drafts j a found _ := by
    rw [twoDrafts_draft found]
    decide
  found := rfl
  unused := by decide +kernel
  started := by decide
  noYear := rfl

def prefixEdit (text : String) : UpdateSeriesArgs := ⟨1, 0, ⟨none, some text, none, none, none⟩⟩

/-- The prefix is changed before the first number, and two drafts are then issued. -/
theorem series_consecutive_two_drafts :
    ∃ t : BillingState, (t.db.fiscal.numbered 1 0).length = 2 ∧ SeriesConsecutive 1 t.db 1 0 := by
  obtain ⟨t, run, two⟩ := Run.exists_of_exec (billingStep oneTenant .bytes)
    (fun s a => numberingFrozen s a = true) twoDrafts
    [.updateSeries 0 (prefixEdit "FB"), .commit 0 (noon 20000),
      .commit 0 (noon 20000), .issue 0 (issueOf 1) .app, .commit 0 (noon 20000),
      .issue 0 (issueOf 0) .app, .commit 0 (noon 20001)]
    (fun t : BillingState => (t.db.fiscal.numbered 1 0).length = 2) (by decide +kernel)
  exact ⟨t, by simpa using two, series_consecutive twoDrafts_newSeries run⟩

/-- An edit counted no numbers, an invoice was then issued, and the edit then wrote the new prefix:
the number has the old one. -/
theorem series_consecutive_fails :
    ¬∀ (reg : Registry) (sha : Sha256) (s t : BillingState) (id : SeriesId)
      (series : InvoiceSeries), NewSeries s id series → Reaches (billingStep reg sha) s t →
      SeriesConsecutive series.nextNumber t.db series.tenantId id := by
  intro always
  obtain ⟨t, run, last⟩ := Run.exists_of_exec (billingStep oneTenant .bytes)
    (fun _ _ => True) twoDrafts
    [.updateSeries 0 (prefixEdit "FB"), .commit 0 (noon 20000),
      .issue 1 (issueOf 1) .app, .commit 1 (noon 20000), .commit 0 (noon 20000)]
    (fun t : BillingState =>
      (t.db.series.find 0).any (fun s => s.seriesPrefix = "FB" && s.yearScope) &&
      (t.db.fiscal.numbered 1 0).any fun p => p.2.sequenceNumber = 1 &&
        p.2.issueDate = some 20000 && p.2.invoiceNumber = "FA/2024/00001") (by decide +kernel)
  simp only [Bool.and_eq_true, Option.any_eq_true, List.any_eq_true, decide_eq_true_eq] at last
  obtain ⟨⟨series, found, samePrefix, scope⟩, x, mem, ⟨number, date⟩, text⟩ := last
  obtain ⟨series', order, found', perm, consecutive⟩ :=
    always oneTenant .bytes twoDrafts t 0 _ twoDrafts_newSeries run
  obtain rfl : series = series' := Option.some.inj (found.symm.trans found')
  obtain ⟨d, hd, format⟩ := consecutive.format x (perm.mem_iff.mpr mem)
  obtain rfl : 20000 = d := Option.some.inj (date.symm.trans hd)
  rw [text, number] at format
  simp only [formatInvoiceNumber, scope, samePrefix, if_true] at format
  exact absurd format (by decide +kernel)

end StorageOS
