import StorageOS.Lib.Xml
import StorageOS.Sepa.Remittances
import StorageOS.Saas.EndToEndIds

/-! Texts and identifiers in the characters of SEPA, over any canonical decomposition that, like
Unicode's, leaves ASCII as it is. -/

namespace StorageOS

open Squeeze

open scoped MemberByMember

/-- `normalize('NFD')`. -/
structure Nfd where
  decompose : List Char → List Char
  ascii : ∀ text, (∀ c ∈ text, c.toNat < 128) → decompose text = text

/-- `SEPA_CHAR_MAP`. -/
def sepaChar (c : Char) : List Char :=
  match c with
  | 'ñ' => ['n']
  | 'Ñ' => ['N']
  | 'ç' => ['c']
  | 'Ç' => ['C']
  | '&' => ['+']
  | '€' => ['E', 'U', 'R']
  | 'ª' => ['a']
  | 'º' => ['o']
  | '"' => ['\'']
  | c => [c]

/-- The accents and other marks that the decomposition separates from their letter. -/
def isCombining (c : Char) : Bool := 0x300 ≤ c.toNat && c.toNat ≤ 0x36F

def isSepaChar (c : Char) : Bool := c.isAlphanum || "/-?:().,'+ ".toList.contains c

/-- The text with a space for each character that SEPA does not have. -/
def plainText (nfd : Nfd) (value : List Char) : List Char :=
  ((nfd.decompose (value.flatMap sepaChar)).filter fun c => !isCombining c).map fun c =>
    if isSepaChar c then c else ' '

def sepaText (nfd : Nfd) (value : List Char) (max : ℕ) : List Char :=
  let clean := strip ' ' (squeeze ' ' (plainText nfd value))
  strip ' ' (clean.take max)

/-- An identifier: at most `max` characters (35 by default in the source) without spaces, with no slash at
an end and no two in a row. -/
def sepaId (nfd : Nfd) (value : List Char) (max : ℕ) : List Char :=
  let s := squeeze '/' ((sepaText nfd value 200).filter fun c => c ≠ ' ')
  strip '/' (s.take max)

/-! ### What SEPA takes -/

structure IsSepaText (max : ℕ) (s : List Char) : Prop where
  chars : ∀ c ∈ s, isSepaChar c = true
  length : s.length ≤ max

structure IsSepaId (max : ℕ) (s : List Char) : Prop extends IsSepaText max s where
  noSpace : ' ' ∉ s
  first : s.head? ≠ some '/'
  last : s.getLast? ≠ some '/'
  single : Single '/' s

variable {nfd : Nfd} {value s : List Char} {max : ℕ}

theorem isSepaText_sepaText : IsSepaText max (sepaText nfd value max) where
  chars := by
    intro c mem
    have mem := List.mem_of_mem_take ((strip_part _).subset mem)
    have mem := mem_squeeze.mp ((strip_part _).subset mem)
    obtain ⟨d, -, rfl⟩ := List.mem_map.mp mem
    split
    next sepa => exact sepa
    next => decide
  length := (strip_part _).length_le.trans (List.length_take_le _ _)

theorem isSepaId_sepaId : IsSepaId max (sepaId nfd value max) where
  chars := by
    intro c mem
    have mem := mem_squeeze.mp (List.mem_of_mem_take ((strip_part _).subset mem))
    exact isSepaText_sepaText.chars c (List.mem_of_mem_filter mem)
  length := (strip_part _).length_le.trans (List.length_take_le _ _)
  noSpace := by
    intro mem
    have mem := mem_squeeze.mp (List.mem_of_mem_take ((strip_part _).subset mem))
    simpa using (List.mem_filter.mp mem).2
  first := strip_head _
  last := strip_last _
  single := (single_squeeze _).of_part ((strip_part _).trans (List.take_prefix _ _).isInfix)

/-! ### When something is left -/

theorem sepaText_eq_nil (room : 0 < max) :
    sepaText nfd value max = [] ↔ ∀ c ∈ plainText nfd value, c = ' ' := by
  have clean : strip ' ' (squeeze ' ' (plainText nfd value)) = [] ↔ ∀ c ∈ plainText nfd value, c = ' ' := by
    simp only [strip_eq_nil, mem_squeeze]
  rw [← clean, sepaText, strip_eq_nil]
  refine ⟨fun all => ?_, fun none => by rw [none]; simp⟩
  by_contra some_
  obtain ⟨c, rest, whole⟩ := List.exists_cons_of_ne_nil some_
  have first := strip_head (a := ' ') (squeeze ' ' (plainText nfd value))
  rw [whole] at all first
  obtain ⟨n, rfl⟩ := Nat.exists_eq_add_of_lt room
  exact first (congrArg some (all c (by simp)))

theorem sepaId_eq_nil (room : 2 ≤ max) :
    sepaId nfd value max = [] ↔ ∀ c ∈ sepaText nfd value 200, c = ' ' ∨ c = '/' := by
  rw [sepaId, strip_eq_nil]
  constructor
  · intro all c mem
    by_contra other
    rw [not_or] at other
    have kept : c ∈ squeeze '/' ((sepaText nfd value 200).filter fun c => c ≠ ' ') :=
      mem_squeeze.mpr (List.mem_filter.mpr ⟨mem, decide_eq_true other.1⟩)
    obtain ⟨d, early, differs⟩ := (single_squeeze _).other kept other.2
    exact differs (all d ((List.take_subset_take_left _ room) early))
  · intro all c mem
    obtain ⟨mem, other⟩ := List.mem_filter.mp (mem_squeeze.mp (List.mem_of_mem_take mem))
    exact (all c mem).resolve_left (of_decide_eq_true other)

/-! ### Identifiers stay as they are -/

theorem isSepaChar_range {c : Char} (sepa : isSepaChar c = true) : 32 ≤ c.toNat ∧ c.toNat < 128 := by
  have others : ∀ c ∈ "/-?:().,'+ ".toList, 32 ≤ c.toNat ∧ c.toNat < 128 := by decide +kernel
  rw [isSepaChar, Bool.or_eq_true] at sepa
  rcases sepa with alphanum | other
  · exact Xml.alphanum_range alphanum
  · exact others c (List.contains_iff_mem.mp other)

theorem sepaChar_of_sepa {c : Char} (sepa : isSepaChar c = true) : sepaChar c = [c] := by
  unfold sepaChar
  split <;> first | rfl | exact absurd sepa (by decide)

theorem plainText_of_sepa (sepa : ∀ c ∈ s, isSepaChar c = true) : plainText nfd s = s := by
  have mapped : s.flatMap sepaChar = s := by
    rw [List.flatMap_congr fun c mem => sepaChar_of_sepa (sepa c mem)]
    exact List.flatMap_singleton' s
  have kept : (s.filter fun c => !isCombining c) = s := by
    refine List.filter_eq_self.mpr fun c mem => ?_
    have early := (isSepaChar_range (sepa c mem)).2
    have below : ¬768 ≤ c.toNat := by omega
    simp [isCombining, below]
  have same : s.map (fun c => if isSepaChar c then c else ' ') = s.map id :=
    List.map_congr_left fun c mem => if_pos (sepa c mem)
  rw [plainText, mapped, nfd.ascii s fun c mem => (isSepaChar_range (sepa c mem)).2, kept, same, List.map_id]

theorem sepaText_of_sepa (sepa : ∀ c ∈ s, isSepaChar c = true) (noSpace : ' ' ∉ s) (length : s.length ≤ max) :
    sepaText nfd s max = s := by
  have spaces : Single ' ' s := fun twice => noSpace (twice.subset List.mem_cons_self)
  have ends : strip ' ' s = s := strip_of_ends (fun first => noSpace (List.mem_of_mem_head? first))
    fun last => noSpace (List.mem_of_getLast? last)
  rw [sepaText, plainText_of_sepa sepa, squeeze_of_single spaces, ends, List.take_of_length_le length, ends]

theorem sepaId_of_id (id : IsSepaId max s) (room : max ≤ 200) : sepaId nfd s max = s := by
  have text : sepaText nfd s 200 = s := sepaText_of_sepa id.chars id.noSpace (id.length.trans room)
  have kept : s.filter (fun c => c ≠ ' ') = s := by
    refine List.filter_eq_self.mpr fun c mem => decide_eq_true ?_
    rintro rfl
    exact id.noSpace mem
  rw [sepaId, text, kept, squeeze_of_single id.single, List.take_of_length_le id.length,
    strip_of_ends id.first id.last]

end StorageOS

/-! The text of a SEPA file: the XML of its content, and what is read in that XML. -/

namespace StorageOS

open Xml Xml.Content FixedWidth

open scoped MemberByMember

def SequenceType.name : SequenceType → String
  | .FRST => "FRST"
  | .RCUR => "RCUR"

/-- `toISOString` up to the second. -/
def isoSeconds (t : Instant) : List Char :=
  let seconds := (t % 86400000 / 1000).toNat
  isoDay (t / 86400000) ++ 'T' :: decimal 2 (seconds / 3600) ++ ':' :: decimal 2 (seconds / 60 % 60) ++
    ':' :: decimal 2 (seconds % 60)

section

variable (nfd : Nfd)

/-- `nm`: a name of at most 70 characters. -/
def sepaName (s : String) : List Char :=
  let text := sepaText nfd s.toList 70
  if text = [] then "NOTPROVIDED".toList else text

/-- `id`: an identifier of at most 35 characters. -/
def sepaIdentifier (s : String) : List Char := sepaId nfd s.toList 35

def amountText (cents : ℤ) : List Char := (toFixed2 cents).toList

def finInstn (bic : Option String) : Content :=
  if bic.getD "" ≠ "" then el "FinInstnId" (el "BIC" (ofText (bic.getD "").toList))
  else el "FinInstnId" (el "Othr" (el "Id" (ofText "NOTPROVIDED".toList)))

def Pain008Transaction.content (t : Pain008Transaction) : Content :=
  line 6 ++ el "DrctDbtTxInf" (
    line 8 ++ el "PmtId" (el "EndToEndId" (ofText (sepaIdentifier nfd t.endToEndId))) ++
    line 8 ++ elWith "InstdAmt" [("Ccy", "EUR")] (ofText (amountText t.amountCents)) ++
    line 8 ++ el "DrctDbtTx" (el "MndtRltdInf" (
      el "MndtId" (ofText (sepaIdentifier nfd t.mandateReference)) ++
      el "DtOfSgntr" (ofText (isoDay t.mandateSignedDate)))) ++
    line 8 ++ el "DbtrAgt" (finInstn t.debtorBic) ++
    line 8 ++ el "Dbtr" (el "Nm" (ofText (sepaName nfd t.debtorName))) ++
    line 8 ++ el "DbtrAcct" (el "Id" (el "IBAN" (ofText t.debtorIban.toList))) ++
    line 8 ++ el "RmtInf" (el "Ustrd" (ofText (sepaText nfd t.remittanceInfo.toList 140))) ++
    line 6)

def pmtInfId (messageId : String) (seq : SequenceType) : List Char :=
  sepaId nfd (sepaId nfd messageId.toList 30 ++ '-' :: seq.name.toList) 35

def PmtInf.content (f : Pain008) (b : PmtInf) : Content :=
  line 4 ++ el "PmtInf" (
    line 6 ++ el "PmtInfId" (ofText (pmtInfId nfd f.messageId b.sequenceType)) ++
    line 6 ++ el "PmtMtd" (ofText "DD".toList) ++
    line 6 ++ el "NbOfTxs" (ofText (toString b.nbOfTxs).toList) ++
    line 6 ++ el "CtrlSum" (ofText (amountText b.ctrlSum)) ++
    line 6 ++ el "PmtTpInf" (
      el "SvcLvl" (el "Cd" (ofText "SEPA".toList)) ++ el "LclInstrm" (el "Cd" (ofText "CORE".toList)) ++
      el "SeqTp" (ofText b.sequenceType.name.toList)) ++
    line 6 ++ el "ReqdColltnDt" (ofText (isoDay f.collectionDate)) ++
    line 6 ++ el "Cdtr" (el "Nm" (ofText (sepaName nfd f.creditor.name))) ++
    line 6 ++ el "CdtrAcct" (el "Id" (el "IBAN" (ofText f.creditor.iban.toList))) ++
    line 6 ++ el "CdtrAgt" (finInstn f.creditor.bic) ++
    line 6 ++ el "ChrgBr" (ofText "SLEV".toList) ++
    line 6 ++ el "CdtrSchmeId" (el "Id" (el "PrvtId" (el "Othr" (
      el "Id" (ofText (sepaIdentifier nfd f.creditor.creditorId)) ++
      el "SchmeNm" (el "Prtry" (ofText "SEPA".toList)))))) ++
    concat (b.transactions.map fun t => t.content nfd) ++
    line 4)

def Pain008.content (now : Instant) (f : Pain008) : Content :=
  elWith "Document" [("xmlns", "urn:iso:std:iso:20022:tech:xsd:pain.008.001.02"),
      ("xmlns:xsi", "http://www.w3.org/2001/XMLSchema-instance")] (
    line 2 ++ el "CstmrDrctDbtInitn" (
      line 4 ++ el "GrpHdr" (
        line 6 ++ el "MsgId" (ofText (sepaIdentifier nfd f.messageId)) ++
        line 6 ++ el "CreDtTm" (ofText (isoSeconds now)) ++
        line 6 ++ el "NbOfTxs" (ofText (toString f.nbOfTxs).toList) ++
        line 6 ++ el "CtrlSum" (ofText (amountText f.ctrlSum)) ++
        line 6 ++ el "InitgPty" (
          el "Nm" (ofText (sepaName nfd f.creditor.name)) ++
          el "Id" (el "OrgId" (el "Othr" (el "Id"
            (ofText (sepaIdentifier nfd f.creditor.creditorId)))))) ++
        line 4) ++
      concat (f.pmtInf.map fun b => b.content nfd f) ++
      line 2) ++
    line 0)

def Pain008.text (now : Instant) (f : Pain008) : List Char := declaration ++ render (f.content nfd now)

end

/-! ### What is read -/

structure DebitTexts where
  endToEndId : List (List Char)
  amount : List (List Char)
  mandateReference : List (List Char)
  signedDate : List (List Char)
  name : List (List Char)
  iban : List (List Char)
  remittanceInfo : List (List Char)

structure BlockTexts where
  id : List (List Char)
  nbOfTxs : List (List Char)
  ctrlSum : List (List Char)
  sequenceType : List (List Char)
  collectionDate : List (List Char)
  creditorName : List (List Char)
  creditorId : List (List Char)
  debits : List DebitTexts

structure FileTexts where
  messageId : List (List Char)
  nbOfTxs : List (List Char)
  ctrlSum : List (List Char)
  creditorName : List (List Char)
  creditorId : List (List Char)
  blocks : List BlockTexts

def readDebit (x : Content) : DebitTexts where
  endToEndId := x.texts ["PmtId", "EndToEndId"]
  amount := x.texts ["InstdAmt"]
  mandateReference := x.texts ["DrctDbtTx", "MndtRltdInf", "MndtId"]
  signedDate := x.texts ["DrctDbtTx", "MndtRltdInf", "DtOfSgntr"]
  name := x.texts ["Dbtr", "Nm"]
  iban := x.texts ["DbtrAcct", "Id", "IBAN"]
  remittanceInfo := x.texts ["RmtInf", "Ustrd"]

def readBlock (x : Content) : BlockTexts where
  id := x.texts ["PmtInfId"]
  nbOfTxs := x.texts ["NbOfTxs"]
  ctrlSum := x.texts ["CtrlSum"]
  sequenceType := x.texts ["PmtTpInf", "SeqTp"]
  collectionDate := x.texts ["ReqdColltnDt"]
  creditorName := x.texts ["Cdtr", "Nm"]
  creditorId := x.texts ["CdtrSchmeId", "Id", "PrvtId", "Othr", "Id"]
  debits := (x.path ["DrctDbtTxInf"]).map readDebit

def readFile (x : Content) : FileTexts where
  messageId := x.texts ["Document", "CstmrDrctDbtInitn", "GrpHdr", "MsgId"]
  nbOfTxs := x.texts ["Document", "CstmrDrctDbtInitn", "GrpHdr", "NbOfTxs"]
  ctrlSum := x.texts ["Document", "CstmrDrctDbtInitn", "GrpHdr", "CtrlSum"]
  creditorName := x.texts ["Document", "CstmrDrctDbtInitn", "GrpHdr", "InitgPty", "Nm"]
  creditorId := x.texts ["Document", "CstmrDrctDbtInitn", "GrpHdr", "InitgPty", "Id", "OrgId", "Othr", "Id"]
  blocks := (x.path ["Document", "CstmrDrctDbtInitn", "PmtInf"]).map readBlock

section

variable (nfd : Nfd)

def Pain008Transaction.texts (t : Pain008Transaction) : DebitTexts where
  endToEndId := [sepaIdentifier nfd t.endToEndId]
  amount := [amountText t.amountCents]
  mandateReference := [sepaIdentifier nfd t.mandateReference]
  signedDate := [isoDay t.mandateSignedDate]
  name := [sepaName nfd t.debtorName]
  iban := [t.debtorIban.toList]
  remittanceInfo := [sepaText nfd t.remittanceInfo.toList 140]

def PmtInf.texts (f : Pain008) (b : PmtInf) : BlockTexts where
  id := [pmtInfId nfd f.messageId b.sequenceType]
  nbOfTxs := [(toString b.nbOfTxs).toList]
  ctrlSum := [amountText b.ctrlSum]
  sequenceType := [b.sequenceType.name.toList]
  collectionDate := [isoDay f.collectionDate]
  creditorName := [sepaName nfd f.creditor.name]
  creditorId := [sepaIdentifier nfd f.creditor.creditorId]
  debits := b.transactions.map fun t => t.texts nfd

def Pain008.texts (f : Pain008) : FileTexts where
  messageId := [sepaIdentifier nfd f.messageId]
  nbOfTxs := [(toString f.nbOfTxs).toList]
  ctrlSum := [amountText f.ctrlSum]
  creditorName := [sepaName nfd f.creditor.name]
  creditorId := [sepaIdentifier nfd f.creditor.creditorId]
  blocks := f.pmtInf.map fun b => b.texts nfd f

variable (t : Pain008Transaction) (f : Pain008) (b : PmtInf) (now : Instant)

theorem readDebit_content : ((t.content nfd).child "DrctDbtTxInf").map readDebit = [t.texts nfd] := by
  simp [Pain008Transaction.content, readDebit, Content.texts, Pain008Transaction.texts]

theorem child_transaction {name : String} (other : name ≠ "DrctDbtTxInf") : (t.content nfd).child name = [] := by
  simp [Pain008Transaction.content, Ne.symm other]

theorem readBlock_content : ((b.content nfd f).child "PmtInf").map readBlock = [b.texts nfd f] := by
  have debits : ((b.transactions.map fun t => t.content nfd).flatMap (child "DrctDbtTxInf")).map readDebit =
      b.transactions.map fun t => t.texts nfd := by
    rw [List.flatMap_map, List.map_flatMap, List.flatMap_congr fun t _ => readDebit_content nfd t]
    exact List.map_eq_flatMap.symm
  have others : ∀ name, name ≠ "DrctDbtTxInf" →
      (b.transactions.map fun t => t.content nfd).flatMap (child name) = [] := by
    intro name other
    rw [List.flatMap_map, List.flatMap_congr fun t _ => child_transaction nfd t other]
    simp
  simp [PmtInf.content, readBlock, Content.texts, PmtInf.texts, debits, others]

theorem child_block {name : String} (other : name ≠ "PmtInf") : (b.content nfd f).child name = [] := by
  simp [PmtInf.content, Ne.symm other]

theorem readFile_content : readFile (f.content nfd now) = f.texts nfd := by
  have blocks : ((f.pmtInf.map fun b => b.content nfd f).flatMap (child "PmtInf")).map readBlock =
      f.pmtInf.map fun b => b.texts nfd f := by
    rw [List.flatMap_map, List.map_flatMap, List.flatMap_congr fun b _ => readBlock_content nfd f b]
    exact List.map_eq_flatMap.symm
  have others : ∀ name, name ≠ "PmtInf" → (f.pmtInf.map fun b => b.content nfd f).flatMap (child name) = [] := by
    intro name other
    rw [List.flatMap_map, List.flatMap_congr fun b _ => child_block nfd f b other]
    simp
  simp [Pain008.content, readFile, Content.texts, Pain008.texts, blocks, others]

theorem named_finInstn (bic : Option String) : (finInstn bic).Named := by
  rw [finInstn]
  split <;> simp +decide

theorem named_transaction : (t.content nfd).Named := by
  simp +decide [Pain008Transaction.content, named_finInstn]

theorem named_block : (b.content nfd f).Named := by
  simp +decide [PmtInf.content, named_finInstn, named_transaction]

theorem named_content : (f.content nfd now).Named := by
  simp +decide [Pain008.content, named_block]

end

end StorageOS
