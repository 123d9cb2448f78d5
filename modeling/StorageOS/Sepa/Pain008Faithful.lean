import StorageOS.Sepa.Pain008Text
import StorageOS.Common.Written

/-! A SEPA file is a well-formed document that has each debit once, in the block of its type, with the
totals of the debits, and identifiers and texts that SEPA takes. -/

namespace StorageOS

open Xml Xml.Content FixedWidth Squeeze

open scoped MemberByMember

variable {nfd : Nfd}

/-! ### The characters of a file -/

theorem isXmlChar_of_sepa {max : ℕ} {s : List Char} (sepa : IsSepaText max s) :
    ∀ c ∈ s, isXmlChar c = true := fun c mem => isXmlChar_of_range (isSepaChar_range (sepa.chars c mem))

theorem isSepaText_sepaName (s : String) : IsSepaText 70 (sepaName nfd s) := by
  rw [sepaName]
  split
  · exact ⟨by decide +kernel, by decide +kernel⟩
  · exact isSepaText_sepaText

theorem sepaName_ne_nil (s : String) : sepaName nfd s ≠ [] := by
  rw [sepaName]
  split
  · decide
  next some_ => exact some_

def Pain008Creditor.codes (c : Pain008Creditor) : List String := [c.iban, c.bic.getD ""]

def Pain008Transaction.codes (t : Pain008Transaction) : List String := [t.debtorIban, t.debtorBic.getD ""]

def Alphanumeric (codes : List String) : Prop := ∀ s ∈ codes, ∀ c ∈ s.toList, c.isAlphanum = true

theorem Alphanumeric.isXmlChar {codes : List String} {s : String} (all : Alphanumeric codes) (mem : s ∈ codes) :
    ∀ c ∈ s.toList, isXmlChar c = true := fun c has => isXmlChar_of_range (alphanum_range (all s mem c has))

theorem clean_finInstn {bic : Option String} (clean : ∀ c ∈ (bic.getD "").toList, isXmlChar c = true) :
    (finInstn bic).Clean := by
  rw [finInstn]
  split
  · simpa using clean
  · have notProvided : ∀ c ∈ "NOTPROVIDED".toList, isXmlChar c = true := by decide +kernel
    simpa using notProvided

theorem isXmlChar_isoSeconds (t : Instant) : ∀ c ∈ isoSeconds t, isXmlChar c = true := by
  have mark : isXmlChar 'T' = true ∧ isXmlChar ':' = true := by decide
  simp only [isoSeconds, List.forall_mem_append, List.forall_mem_cons]
  exact ⟨⟨⟨isXmlChar_isoDay _, mark.1, isXmlChar_decimal _ _⟩, mark.2, isXmlChar_decimal _ _⟩, mark.2,
    isXmlChar_decimal _ _⟩

theorem isXmlChar_sepaIdentifier (s : String) : ∀ c ∈ sepaIdentifier nfd s, isXmlChar c = true :=
  isXmlChar_of_sepa isSepaId_sepaId.toIsSepaText

theorem isXmlChar_sepaName (s : String) : ∀ c ∈ sepaName nfd s, isXmlChar c = true :=
  isXmlChar_of_sepa (isSepaText_sepaName s)

theorem clean_transaction {t : Pain008Transaction} (codes : Alphanumeric t.codes) : (t.content nfd).Clean := by
  simp only [Pain008Transaction.content, clean_append, clean_line, clean_el, clean_elWith, clean_ofText,
    true_and, and_true, and_assoc]
  exact ⟨isXmlChar_sepaIdentifier _, xmlText_toFixed2 _, isXmlChar_sepaIdentifier _, isXmlChar_isoDay _,
    clean_finInstn (codes.isXmlChar (by simp [Pain008Transaction.codes])), isXmlChar_sepaName _,
    codes.isXmlChar (by simp [Pain008Transaction.codes]), isXmlChar_of_sepa isSepaText_sepaText⟩

theorem clean_content {f : Pain008} (creditor : Alphanumeric f.creditor.codes)
    (debtors : ∀ b ∈ f.pmtInf, ∀ t ∈ b.transactions, Alphanumeric t.codes) (now : Instant) :
    (f.content nfd now).Clean := by
  have blocks : ∀ x ∈ f.pmtInf.map (fun b => b.content nfd f), x.Clean := by
    intro x mem
    obtain ⟨b, hb, rfl⟩ := List.mem_map.mp mem
    have debits : ∀ x ∈ b.transactions.map (fun t => t.content nfd), x.Clean := by
      intro x mem
      obtain ⟨t, ht, rfl⟩ := List.mem_map.mp mem
      exact clean_transaction (debtors b hb t ht)
    have type : ∀ c ∈ b.sequenceType.name.toList, isXmlChar c = true := by
      cases b.sequenceType <;> decide +kernel
    simp only [PmtInf.content, clean_append, clean_line, clean_el, clean_ofText, clean_concat, true_and, and_true,
      and_assoc]
    exact ⟨isXmlChar_of_sepa isSepaId_sepaId.toIsSepaText, by decide +kernel, isXmlChar_toString _, xmlText_toFixed2 _,
      by decide +kernel, by decide +kernel, type, isXmlChar_isoDay _, isXmlChar_sepaName _,
      creditor.isXmlChar (by simp [Pain008Creditor.codes]),
      clean_finInstn (creditor.isXmlChar (by simp [Pain008Creditor.codes])), by decide +kernel,
      isXmlChar_sepaIdentifier _, by decide +kernel, debits⟩
  simp only [Pain008.content, clean_append, clean_line, clean_el, clean_elWith, clean_ofText, clean_concat,
    true_and, and_true, and_assoc]
  exact ⟨isXmlChar_sepaIdentifier _, isXmlChar_isoSeconds now, isXmlChar_toString _, xmlText_toFixed2 _,
    isXmlChar_sepaName _, isXmlChar_sepaIdentifier _, blocks⟩

/-- A file of such codes is a well-formed document, and it says what was written. -/
theorem document_text {f : Pain008} (creditor : Alphanumeric f.creditor.codes)
    (debtors : ∀ b ∈ f.pmtInf, ∀ t ∈ b.transactions, Alphanumeric t.codes) (now : Instant) {p : FileTexts → Prop}
    (holds : p (f.texts nfd)) : ∃ x, Document (f.text nfd now) x ∧ p (readFile x) := by
  have root : (f.content nfd now).IsRoot := ⟨_, _, _, rfl⟩
  refine (document_render_iff root (named_content nfd f now)).mpr ⟨clean_content creditor debtors now, ?_⟩
  rw [readFile_content]
  exact holds

/-! ### The blocks of a file -/

section

variable {messageId : String} {creditor : Pain008Creditor} {collectionDate : Date}
  {transactions : List Pain008Transaction}

theorem block_of_mem {b : PmtInf} (mem : b ∈ (buildPain008 messageId creditor collectionDate transactions).pmtInf) :
    b.transactions = transactions.filter (fun t => t.sequenceType = b.sequenceType) ∧
      b.nbOfTxs = b.transactions.length ∧ b.ctrlSum = totalCents b.transactions := by
  obtain ⟨seq, -, made⟩ := List.mem_filterMap.mp mem
  dsimp only at made
  split at made
  · cases made
  · obtain rfl := Option.some.inj made
    exact ⟨rfl, rfl, rfl⟩

theorem blocks_perm :
    ((buildPain008 messageId creditor collectionDate transactions).pmtInf.map PmtInf.sequenceType).Nodup ∧
      ((buildPain008 messageId creditor collectionDate transactions).pmtInf.flatMap
        PmtInf.transactions).Perm transactions := by
  have parts : (transactions.filter (fun t => t.sequenceType = .FRST) ++
      transactions.filter fun t => t.sequenceType = .RCUR).Perm transactions := by
    have other : ∀ t ∈ transactions, decide (t.sequenceType = .RCUR) = !decide (t.sequenceType = .FRST) := by
      intro t _
      cases t.sequenceType <;> rfl
    rw [List.filter_congr other]
    exact List.filter_append_perm _ _
  simp only [buildPain008, List.filterMap_cons, List.filterMap_nil]
  cases first : transactions.filter (fun t => t.sequenceType = .FRST) with
  | nil =>
    cases second : transactions.filter (fun t => t.sequenceType = .RCUR) with
    | nil => simpa [first, second] using parts
    | cons u us => simpa [first, second] using parts
  | cons t ts =>
    cases second : transactions.filter (fun t => t.sequenceType = .RCUR) with
    | nil => simpa [first, second] using parts
    | cons u us => simpa [first, second] using parts

end

/-! ### What a file says -/

def FileTexts.identifiers (file : FileTexts) : List (List Char) :=
  file.messageId ++ file.creditorId ++ file.blocks.flatMap fun b =>
    b.id ++ b.creditorId ++ b.debits.flatMap fun d => d.endToEndId ++ d.mandateReference

def FileTexts.names (file : FileTexts) : List (List Char) :=
  file.creditorName ++ file.blocks.flatMap fun b => b.creditorName ++ b.debits.flatMap DebitTexts.name

def FileTexts.remittanceInfos (file : FileTexts) : List (List Char) :=
  file.blocks.flatMap fun b => b.debits.flatMap DebitTexts.remittanceInfo

/-- The file has each debit once, in the block of its type and with its own texts, and right totals. -/
structure SaysDebits (nfd : Nfd) (transactions : List Pain008Transaction) (file : FileTexts) : Prop where
  placed : (file.blocks.flatMap fun b => b.debits.map fun d => (b.sequenceType, d)).Perm
    (transactions.map fun t => ([t.sequenceType.name.toList], t.texts nfd))
  apart : (file.blocks.map BlockTexts.sequenceType).Nodup
  headerTotals : ∃ figures : List (ℕ × ℤ),
    file.blocks.map (fun b => (b.nbOfTxs, b.ctrlSum)) =
      figures.map (fun g => ([(toString g.1).toList], [amountText g.2])) ∧
    file.nbOfTxs = [(toString (figures.map Prod.fst).sum).toList] ∧
    file.ctrlSum = [amountText (figures.map Prod.snd).sum]
  blockTotals : ∀ b ∈ file.blocks, ∃ cents : List ℤ,
    b.debits.map DebitTexts.amount = cents.map (fun c => [amountText c]) ∧
    b.nbOfTxs = [(toString b.debits.length).toList] ∧ b.ctrlSum = [amountText cents.sum]

/-- The identifiers and texts of the file are ones that SEPA takes. -/
structure SaysTexts (file : FileTexts) : Prop where
  identifiers : ∀ s ∈ file.identifiers, IsSepaId 35 s
  names : ∀ s ∈ file.names, IsSepaText 70 s ∧ s ≠ []
  remittanceInfos : ∀ s ∈ file.remittanceInfos, IsSepaText 140 s

section

variable (messageId : String) (creditor : Pain008Creditor) (collectionDate : Date)
  (transactions : List Pain008Transaction)

theorem says_debits :
    SaysDebits nfd transactions ((buildPain008 messageId creditor collectionDate transactions).texts nfd) := by
  have blocks := @block_of_mem messageId creditor collectionDate transactions
  obtain ⟨apart, perm⟩ := @blocks_perm messageId creditor collectionDate transactions
  have counted : transactions.length = (buildPain008 messageId creditor collectionDate transactions).nbOfTxs := rfl
  have summed : totalCents transactions =
    (buildPain008 messageId creditor collectionDate transactions).ctrlSum := rfl
  generalize buildPain008 messageId creditor collectionDate transactions = f at *
  constructor
  case placed =>
    have own : (f.texts nfd).blocks.flatMap (fun b => b.debits.map fun d => (b.sequenceType, d)) =
        (f.pmtInf.flatMap PmtInf.transactions).map fun t => ([t.sequenceType.name.toList], t.texts nfd) := by
      rw [List.map_flatMap, Pain008.texts, List.flatMap_map]
      refine List.flatMap_congr fun b mem => ?_
      rw [PmtInf.texts, List.map_map]
      refine List.map_congr_left fun t has => ?_
      rw [(blocks mem).1] at has
      rw [of_decide_eq_true (List.mem_filter.mp has).2]
      rfl
    rw [own]
    exact perm.map _
  case apart =>
    have names : (f.texts nfd).blocks.map BlockTexts.sequenceType =
        (f.pmtInf.map PmtInf.sequenceType).map fun seq => [seq.name.toList] := by
      rw [Pain008.texts, List.map_map, List.map_map]
      rfl
    rw [names]
    refine apart.map fun seq other same => ?_
    cases seq <;> cases other <;> first | rfl | exact absurd same (by decide)
  case headerTotals =>
    refine ⟨f.pmtInf.map fun b => (b.nbOfTxs, b.ctrlSum), ?_, ?_, ?_⟩
    · rw [Pain008.texts, List.map_map, List.map_map]
      rfl
    · have sizes : ((f.pmtInf.map fun b => (b.nbOfTxs, b.ctrlSum)).map Prod.fst).sum = transactions.length := by
        rw [List.map_map, ← perm.length_eq, List.length_flatMap]
        exact congrArg List.sum (List.map_congr_left fun b mem => (blocks mem).2.1)
      rw [sizes, counted]
      rfl
    · have sums : ((f.pmtInf.map fun b => (b.nbOfTxs, b.ctrlSum)).map Prod.snd).sum = totalCents transactions := by
        rw [List.map_map, totalCents, ← (perm.map Pain008Transaction.amountCents).sum_eq, List.map_flatMap,
          List.flatMap_def, List.sum_flatten, List.map_map]
        exact congrArg List.sum (List.map_congr_left fun b mem => (blocks mem).2.2)
      rw [sums, summed]
      rfl
  case blockTotals =>
    intro b mem
    obtain ⟨block, has, rfl⟩ := List.mem_map.mp mem
    obtain ⟨-, count, sum⟩ := blocks has
    refine ⟨block.transactions.map Pain008Transaction.amountCents, ?_, ?_, ?_⟩
    · rw [PmtInf.texts, List.map_map, List.map_map]
      rfl
    · rw [PmtInf.texts, List.length_map, count]
    · rw [PmtInf.texts, sum]
      rfl

theorem identifiers_texts (f : Pain008) : ∀ s ∈ (f.texts nfd).identifiers, IsSepaId 35 s := by
  intro s mem
  simp only [FileTexts.identifiers, Pain008.texts, PmtInf.texts, Pain008Transaction.texts, List.flatMap_map,
    List.mem_append, List.mem_singleton, List.mem_flatMap] at mem
  rcases mem with (file | creditor) | ⟨b, -, (block | creditor) | ⟨t, -, debit | mandate⟩⟩
  · exact file ▸ isSepaId_sepaId
  · exact creditor ▸ isSepaId_sepaId
  · exact block ▸ isSepaId_sepaId
  · exact creditor ▸ isSepaId_sepaId
  · exact debit ▸ isSepaId_sepaId
  · exact mandate ▸ isSepaId_sepaId

theorem names_texts (f : Pain008) : ∀ s ∈ (f.texts nfd).names, IsSepaText 70 s ∧ s ≠ [] := by
  intro s mem
  simp only [FileTexts.names, Pain008.texts, PmtInf.texts, Pain008Transaction.texts, List.flatMap_map,
    List.mem_append, List.mem_singleton, List.mem_flatMap] at mem
  rcases mem with rfl | ⟨b, -, rfl | ⟨t, -, rfl⟩⟩
  all_goals exact ⟨isSepaText_sepaName _, sepaName_ne_nil _⟩

theorem remittanceInfos_texts (f : Pain008) : ∀ s ∈ (f.texts nfd).remittanceInfos, IsSepaText 140 s := by
  intro s mem
  simp only [FileTexts.remittanceInfos, Pain008.texts, PmtInf.texts, Pain008Transaction.texts, List.flatMap_map,
    List.mem_singleton, List.mem_flatMap] at mem
  obtain ⟨b, -, t, -, rfl⟩ := mem
  exact isSepaText_sepaText

theorem says_texts (f : Pain008) : SaysTexts (f.texts nfd) where
  identifiers := identifiers_texts f
  names := names_texts f
  remittanceInfos := remittanceInfos_texts f

theorem pmtInfId_ne_nil (seq : SequenceType) : pmtInfId nfd messageId seq ≠ [] := by
  have id : IsSepaId 30 (sepaId nfd messageId.toList 30) := isSepaId_sepaId
  have type : (∀ c ∈ '-' :: seq.name.toList, isSepaChar c = true) ∧ ' ' ∉ '-' :: seq.name.toList ∧
      ('-' :: seq.name.toList).length = 5 := by
    cases seq <;> decide +kernel
  have text : sepaText nfd (sepaId nfd messageId.toList 30 ++ '-' :: seq.name.toList) 200 =
      sepaId nfd messageId.toList 30 ++ '-' :: seq.name.toList := by
    refine sepaText_of_sepa (List.forall_mem_append.mpr ⟨id.chars, type.1⟩) ?_ ?_
    · rw [List.mem_append, not_or]
      exact ⟨id.noSpace, type.2.1⟩
    · have short := id.length
      rw [List.length_append, type.2.2]
      omega
  rw [pmtInfId, ne_eq, sepaId_eq_nil (by decide), text]
  intro all
  exact absurd (all '-' (List.mem_append_right _ List.mem_cons_self)) (by decide)

/-- What has a character for it is not left empty, and what is an identifier already stays as it is. -/
structure KeepsTexts (nfd : Nfd) (transactions : List Pain008Transaction) (file : FileTexts) : Prop where
  blockIds : ∀ b ∈ file.blocks, [] ∉ b.id
  filledIds : ∀ s : String, (∃ c ∈ sepaText nfd s.toList 200, c ≠ ' ' ∧ c ≠ '/') → sepaIdentifier nfd s ≠ []
  filledTexts : ∀ s : String, (∃ c ∈ plainText nfd s.toList, c ≠ ' ') → sepaText nfd s.toList 140 ≠ []
  keptIds : ∀ s : String, IsSepaId 35 s.toList → sepaIdentifier nfd s = s.toList
  mandates : ∀ t ∈ transactions, ∀ u ∈ transactions, IsSepaId 35 t.mandateReference.toList →
    IsSepaId 35 u.mandateReference.toList → t.mandateReference ≠ u.mandateReference →
    (t.texts nfd).mandateReference ≠ (u.texts nfd).mandateReference
  debits : ∀ t ∈ transactions, ∀ u ∈ transactions, IsSepaId 35 t.endToEndId.toList →
    IsSepaId 35 u.endToEndId.toList → t.endToEndId ≠ u.endToEndId →
    (t.texts nfd).endToEndId ≠ (u.texts nfd).endToEndId

theorem keeps_texts :
    KeepsTexts nfd transactions ((buildPain008 messageId creditor collectionDate transactions).texts nfd) := by
  have kept : ∀ s : String, IsSepaId 35 s.toList → sepaIdentifier nfd s = s.toList := fun s id =>
    sepaId_of_id id (by decide)
  have apart : ∀ s u : String, IsSepaId 35 s.toList → IsSepaId 35 u.toList → s ≠ u →
      [sepaIdentifier nfd s] ≠ [sepaIdentifier nfd u] := by
    intro s u left right differ same
    rw [kept s left, kept u right, List.singleton_inj] at same
    exact differ (String.toList_injective same)
  constructor
  case blockIds =>
    intro b mem empty
    obtain ⟨block, -, rfl⟩ := List.mem_map.mp mem
    exact pmtInfId_ne_nil messageId block.sequenceType (List.mem_singleton.mp empty).symm
  case filledIds =>
    intro s proper empty
    obtain ⟨c, mem, noSpace, noSlash⟩ := proper
    exact ((sepaId_eq_nil (by decide)).mp empty c mem).elim noSpace noSlash
  case filledTexts =>
    intro s proper empty
    obtain ⟨c, mem, noSpace⟩ := proper
    exact noSpace ((sepaText_eq_nil (by decide)).mp empty c mem)
  case keptIds => exact kept
  case mandates => exact fun t _ u _ => apart t.mandateReference u.mandateReference
  case debits => exact fun t _ u _ => apart t.endToEndId u.endToEndId

/-- The file of any debits is a well-formed document in which each debit is once, in the block of its
type, with the totals of the debits and with identifiers and texts that SEPA takes. -/
theorem pain008_faithful (nfd : Nfd) (now : Instant) (creditorCodes : Alphanumeric creditor.codes)
    (debtorCodes : ∀ t ∈ transactions, Alphanumeric t.codes) :
    ∃ x, Document ((buildPain008 messageId creditor collectionDate transactions).text nfd now) x ∧
      SaysDebits nfd transactions (readFile x) ∧ SaysTexts (readFile x) ∧
      KeepsTexts nfd transactions (readFile x) := by
  have debtors : ∀ b ∈ (buildPain008 messageId creditor collectionDate transactions).pmtInf,
      ∀ t ∈ b.transactions, Alphanumeric t.codes := by
    intro b mem t has
    rw [(block_of_mem mem).1] at has
    exact debtorCodes t (List.mem_of_mem_filter has)
  exact document_text creditorCodes debtors now
    (p := fun file => SaysDebits nfd transactions file ∧ SaysTexts file ∧ KeepsTexts nfd transactions file)
    ⟨says_debits _ _ _ _, says_texts _, keeps_texts _ _ _ _⟩

end

def Nfd.none : Nfd := ⟨id, fun _ _ => rfl⟩

def sampleCreditor : Pain008Creditor := ⟨"Trasteros", "ES11000B12345674", "ES9121000418450200051332", none⟩

def sampleDebit (mandateReference : String) : Pain008Transaction :=
  ⟨"E2E-F-2026-1", 12100, mandateReference, 20468, .FRST, "Ana", "ES6621000418401234567891", none, "Factura F-2026-1"⟩

theorem pain008_faithful_one : ∃ x,
    Document ((buildPain008 "REM-ABC" sampleCreditor 20759 [sampleDebit "MND-1"]).text Nfd.none 0) x ∧
      SaysDebits Nfd.none [sampleDebit "MND-1"] (readFile x) ∧ SaysTexts (readFile x) ∧
      KeepsTexts Nfd.none [sampleDebit "MND-1"] (readFile x) :=
  pain008_faithful _ _ _ _ _ _ (by unfold Alphanumeric; decide +kernel) (by unfold Alphanumeric; decide +kernel)

/-- Two mandates whose references differ by a space are collected under one. -/
theorem references_merge : "MND 1" ≠ "MND1" ∧ ∃ x,
    Document ((buildPain008 "REM-ABC" sampleCreditor 20759 [sampleDebit "MND 1", sampleDebit "MND1"]).text
      Nfd.none 0) x ∧
    (readFile x).blocks.map (fun b => b.debits.map DebitTexts.mandateReference) =
      [[["MND1".toList], ["MND1".toList]]] := by
  refine ⟨by decide, ?_⟩
  refine document_text (by unfold Alphanumeric; decide +kernel) (by unfold Alphanumeric; decide +kernel) 0
    (p := fun file => file.blocks.map (fun b => b.debits.map DebitTexts.mandateReference) =
      [[["MND1".toList], ["MND1".toList]]]) ?_
  decide

end StorageOS
