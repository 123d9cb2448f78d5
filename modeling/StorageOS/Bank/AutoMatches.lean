import StorageOS.Bank.Reconciliation

/-! What an automatic match may pay: the invoice whose number the text of the movement quotes. A number
is looked for between characters that are not letters or digits, and those also occur in numbers. -/

namespace StorageOS

/-- The number is in the text with such characters, or none, before and after it. -/
def standsBetween (edge : Option Char → Bool) (text number : String) : Prop :=
  ∃ before after, text.toUpper.toList = before ++ number.toUpper.toList ++ after ∧
    edge before.getLast? = true ∧ edge after.head? = true

/-- The number is in the text between characters that are no letters or digits. -/
def standsIn (text number : String) : Prop := standsBetween atEdge text number

def quotedIn (text number : String) : Prop := standsBetween (fun c => c.all fun c => c = ' ') text number

variable {edge : Option Char → Bool} {text number : String} {c : CandidateInvoice}

theorem any_place_iff {line word : List Char} :
    ((List.range (line.length + 1)).any fun k => word.isPrefixOf (line.drop k) &&
      edge (line.take k).getLast? && edge (line.drop (k + word.length)).head?) = true ↔
    ∃ before after, line = before ++ word ++ after ∧ edge before.getLast? = true ∧
      edge after.head? = true := by
  simp only [List.any_eq_true, List.mem_range, Bool.and_eq_true, List.isPrefixOf_iff_prefix]
  constructor
  · rintro ⟨k, -, ⟨⟨after, found⟩, before⟩, last⟩
    refine ⟨line.take k, after, ?_, before, ?_⟩
    · rw [List.append_assoc, found, List.take_append_drop]
    · rwa [← List.drop_drop, ← found, List.drop_left] at last
  · rintro ⟨before, after, rfl, first, last⟩
    refine ⟨before.length, ?_, ⟨⟨after, ?_⟩, ?_⟩, ?_⟩
    · simp only [List.length_append]
      omega
    · rw [List.append_assoc, List.drop_left]
    · rwa [List.append_assoc, List.take_left]
    · rwa [← List.drop_drop, List.append_assoc, List.drop_left, List.drop_left]

theorem containsInvoiceNumber_iff :
    containsInvoiceNumber text number = true ↔ standsIn text number := any_place_iff

theorem toList_toUpper (s : String) : s.toUpper.toList = s.toList.map Char.toUpper := by
  rw [String.toUpper, String.toList_map]

theorem standsBetween_iff :
    standsBetween edge text number ↔ ∃ k < (text.toList.map Char.toUpper).length + 1,
      ((number.toList.map Char.toUpper).isPrefixOf ((text.toList.map Char.toUpper).drop k) &&
        edge ((text.toList.map Char.toUpper).take k).getLast? &&
        edge ((text.toList.map Char.toUpper).drop (k + (number.toList.map Char.toUpper).length)).head?) = true := by
  rw [standsBetween, ← any_place_iff, List.any_eq_true, toList_toUpper, toList_toUpper]
  simp only [List.mem_range]

instance (edge : Option Char → Bool) (text number : String) : Decidable (standsBetween edge text number) :=
  decidable_of_iff _ standsBetween_iff.symm

instance (text number : String) : Decidable (standsIn text number) :=
  inferInstanceAs (Decidable (standsBetween _ text number))

instance (text number : String) : Decidable (quotedIn text number) :=
  inferInstanceAs (Decidable (standsBetween _ text number))

theorem atEdge_of_space {c : Option Char} (space : (c.all fun c => c = ' ') = true) : atEdge c = true := by
  cases c with
  | none => rfl
  | some d =>
    rw [Option.all_some, decide_eq_true_eq] at space
    rw [space]
    decide

theorem quotedIn.standsIn (quoted : quotedIn text number) : standsIn text number := by
  obtain ⟨before, after, split, first, last⟩ := quoted
  exact ⟨before, after, split, atEdge_of_space first, atEdge_of_space last⟩

/-! ### The invoice that is paid -/

section

variable {db : BankDb} {t : MovementId} {row : BankTransaction} {rows : List (MovementId × BankTransaction)}
  {candidates : List CandidateInvoice} {used : List InvoiceId} {input : BankInput} {i j : InvoiceId}
  {numbers : InvoiceId → Option String}

/-- The automatic match goes on to pay an invoice with the movement. -/
def paysInvoice (db : BankDb) (t : MovementId) (row : BankTransaction)
    (rows : List (MovementId × BankTransaction)) (candidates : List CandidateInvoice)
    (used : List InvoiceId) (input : BankInput) (j : InvoiceId) : Prop :=
  ∃ part queue, (commitBank db (.autoMatching ⟨(t, row) :: rows, candidates, used⟩) input).2 =
    some (.autoPaying t part queue) ∧ part.invoiceId = j

theorem paysInvoice_iff (pending : db.status t = some .pending) (credit : 0 < row.amount) :
    paysInvoice db t row rows candidates used input j ↔
      ∃ c, autoHits row candidates used = [c] ∧ c.id = j := by
  unfold paysInvoice commitBank
  dsimp only
  constructor
  · rintro ⟨part, queue, step, own⟩
    split at step
    · rename_i c hits
      rw [dif_pos credit, if_pos pending] at step
      cases step
      exact ⟨c, hits, own⟩
    · cases step
  · rintro ⟨c, hits, own⟩
    rw [hits]
    dsimp only
    rw [dif_pos credit, if_pos pending]
    exact ⟨_, _, rfl, own⟩

theorem mem_autoHits : c ∈ autoHits row candidates used ↔
    c ∈ candidates ∧ c.amountPendingCents = row.amount ∧ standsIn row.haystack c.invoiceNumber ∧
      c.id ∉ used := by
  simp only [autoHits, uniqueAutoMatch, List.mem_filter, Bool.and_eq_true, decide_eq_true_eq,
    containsInvoiceNumber_iff, Bool.not_eq_true', decide_eq_false_iff_not]
  tauto

structure QuotesOnly (numbers : InvoiceId → Option String) (row : BankTransaction) (i : InvoiceId) : Prop where
  quoted : ∃ number, numbers i = some number ∧ quotedIn row.haystack number
  only : ∀ j number, numbers j = some number → quotedIn row.haystack number → j = i

/-- Other invoices open for exactly the amount whose number is in the text between characters that
are no letters or digits. -/
def otherHits (row : BankTransaction) (candidates : List CandidateInvoice) (used : List InvoiceId)
    (i : InvoiceId) : List CandidateInvoice :=
  candidates.filter fun c => c.amountPendingCents = row.amount && !(c.id ∈ used) && c.id ≠ i &&
    containsInvoiceNumber row.haystack c.invoiceNumber

def quotedOpen (row : BankTransaction) (candidates : List CandidateInvoice) (used : List InvoiceId)
    (i : InvoiceId) : Prop :=
  ∃ c ∈ candidates, c.id = i ∧ c.amountPendingCents = row.amount ∧ i ∉ used

theorem mem_autoHits_of_quoted (once : QuotesOnly numbers row i)
    (known : ∀ c ∈ candidates, numbers c.id = some c.invoiceNumber) (mem : c ∈ candidates) (own : c.id = i)
    (amount : c.amountPendingCents = row.amount) (free : i ∉ used) : c ∈ autoHits row candidates used := by
  obtain ⟨number, its, quoted⟩ := once.quoted
  have same := known c mem
  rw [own, its, Option.some.injEq] at same
  exact mem_autoHits.mpr ⟨mem, amount, same ▸ quoted.standsIn, own ▸ free⟩

theorem autoHits_eq_otherHits (closed : ¬quotedOpen row candidates used i) :
    autoHits row candidates used = otherHits row candidates used i := by
  rw [autoHits, uniqueAutoMatch, otherHits, List.filter_filter]
  refine List.filter_congr fun c mem => ?_
  by_cases amount : c.amountPendingCents = row.amount
  · by_cases free : c.id ∈ used
    · simp [free]
    · have other : c.id ≠ i := fun own => closed ⟨c, mem, own, amount, own ▸ free⟩
      simp [amount, free, other]
  · simp [amount]

/-- Whatever is paid is the quoted invoice, unless it is not open for the amount and exactly one other
is whose number is in the text. -/
theorem paysQuoted_iff (once : QuotesOnly numbers row i)
    (known : ∀ c ∈ candidates, numbers c.id = some c.invoiceNumber) (pending : db.status t = some .pending)
    (credit : 0 < row.amount) :
    (∀ j, paysInvoice db t row rows candidates used input j → j = i) ↔
      quotedOpen row candidates used i ∨ (otherHits row candidates used i).length ≠ 1 := by
  simp only [paysInvoice_iff pending credit]
  by_cases closed : quotedOpen row candidates used i
  · refine iff_of_true ?_ (.inl closed)
    obtain ⟨c, mem, own, amount, free⟩ := closed
    rintro j ⟨c', hits, rfl⟩
    have hit := mem_autoHits_of_quoted once known mem own amount free
    rw [hits, List.mem_singleton] at hit
    rw [← hit, own]
  · rw [autoHits_eq_otherHits closed]
    constructor
    · intro all
      right
      intro one
      obtain ⟨c, hits⟩ := List.length_eq_one_iff.mp one
      have mem : c ∈ otherHits row candidates used i := by
        rw [hits]
        exact List.mem_singleton_self c
      have other := (List.mem_filter.mp mem).2
      simp only [Bool.and_eq_true, decide_eq_true_eq] at other
      exact other.1.2 (all c.id ⟨c, hits, rfl⟩)
    · rintro (open_ | several) j ⟨c, hits, -⟩
      · exact (closed open_).elim
      · rw [hits] at several
        exact (several rfl).elim

end

/-! ### A number inside another -/

/-- A transfer that quotes an invoice of a series `T-FA`. -/
def quotingTransfer : BankTransaction where
  statementId := 0
  operationDate := none
  amount := 12100
  reference1 := none
  reference2 := none
  documentNumber := none
  description := some "PAGO T-FA/2026/0001"
  status := .pending
  matchedInvoiceId := none
  matchedAt := none
  autoMatched := false
  matchedPaymentId := none

def twoSeries (id : InvoiceId) : Option String :=
  if id = 0 then some "T-FA/2026/0001" else if id = 1 then some "FA/2026/0001" else none

/-- The invoice it quotes is paid, and the other is open for as much. -/
def quotingDb : BankDb := ⟨Table.empty.push quotingTransfer, Table.empty, [], []⟩

def otherOpen : List CandidateInvoice := [⟨1, "FA/2026/0001", 12100⟩]

def quotingInput : BankInput := ⟨⟨0, 0, "2026-10-23T09:00:00", by decide⟩, false, fun _ => false⟩

theorem quotesOnly_twoSeries : QuotesOnly twoSeries quotingTransfer 0 where
  quoted := ⟨"T-FA/2026/0001", rfl, by decide⟩
  only j number found quoted := by
    unfold twoSeries at found
    split_ifs at found with zero one
    · exact zero
    · cases found
      exact absurd quoted (by decide)

theorem known_otherOpen : ∀ c ∈ otherOpen, twoSeries c.id = some c.invoiceNumber := by
  intro c mem
  rw [otherOpen, List.mem_singleton] at mem
  subst mem
  rfl

theorem autoHits_otherOpen : autoHits quotingTransfer otherOpen [] = otherOpen := by
  have stands : containsInvoiceNumber quotingTransfer.haystack "FA/2026/0001" = true :=
    containsInvoiceNumber_iff.mpr (by decide)
  have amount : quotingTransfer.amount = 12100 := rfl
  simp [autoHits, uniqueAutoMatch, otherOpen, stands, amount]

end StorageOS
