import StorageOS.Bank.Cuaderno43

/-! Statements written in Cuaderno 43 and read with the parser of Norma 43: what comes back for any
file, and for which files it is what was written. -/

namespace StorageOS

open FixedWidth

/-! ### The file -/

variable {width : ℕ} {tx : N43Transaction} {parts : List (List Char)} {type : List Char} {before : List N43Transaction}
  {c : Char}

theorem ColumnText.trim_columns (t : ColumnText width) :
    trim (String.ofList t.columns) = t.trimmed := trim_padEnd width t.chars

theorem describe_record (c : Complement) (trimmed : Trimmed tx.description) :
    tx.describe c.record.flatten =
      { tx with description := joinTexts tx.description c.text } := by
  have first := trimmed_trim (String.ofList c.first.chars)
  have second := trimmed_trim (String.ofList c.second.chars)
  rw [N43Transaction.describe,
    field_part 5 38 c.record 2 rfl rfl (by simp [Complement.record]) (by simp),
    field_part 43 38 c.record 3 rfl rfl (by simp [Complement.record]) (by simp),
    c.first.trim_columns, c.second.trim_columns]
  simp only [trim_join first second, ColumnText.trimmed, Complement.text,
    (trimmed.join (first.join second)).trim]

theorem slice_type (two : type.length = 2) :
    slice 0 2 (type :: parts).flatten = type := by
  simpa using slice_parts (type :: parts) 0 1 rfl rfl (by simpa using two)

variable {closed : List N43Account} {current : Option N43Account} {a : N43Account}

theorem readRecord_header (s : Statement) :
    readRecord ⟨closed, current⟩ s.header.flatten =
      ⟨closed ++ current.toList, some { s.misread with finalBalance := 0, transactions := [] }⟩ := by
  have full : padEnd 80 s.header.flatten = s.header.flatten :=
    padEnd_full (by simp [Statement.header])
  have type : slice 0 2 s.header.flatten = "11".toList := slice_type rfl
  simp only [readRecord, full, type, headerRecord_header]
  rfl

theorem readRecord_movement (m : Movement) :
    readRecord ⟨closed, some a⟩ m.record.flatten = ⟨closed, some { a with
      transactions := a.transactions ++ [{ m.misread with description := "" }] }⟩ := by
  have full : padEnd 80 m.record.flatten = m.record.flatten :=
    padEnd_full (by simp [Movement.record])
  have type : slice 0 2 m.record.flatten = "22".toList := slice_type rfl
  simp only [readRecord, full, type, movementRecord_record]
  rfl

theorem readRecord_complement (c : Complement) (trimmed : Trimmed tx.description) :
    readRecord ⟨closed, some { a with transactions := before ++ [tx] }⟩ c.record.flatten =
      ⟨closed, some { a with transactions := before ++
        [{ tx with description := joinTexts tx.description c.text }] }⟩ := by
  have full : padEnd 80 c.record.flatten = c.record.flatten :=
    padEnd_full (by simp [Complement.record])
  have type : slice 0 2 c.record.flatten = "23".toList := slice_type rfl
  have last : (before ++ [tx]).getLast? = some tx := List.getLast?_concat
  simp only [readRecord, full, type, N43Account.onLast, last, List.dropLast_concat,
    describe_record c trimmed]
  rfl

theorem readRecord_footer (s : Statement) :
    readRecord ⟨closed, some a⟩ s.footer.flatten =
      ⟨closed, some { a with finalBalance := s.misreadBalance }⟩ := by
  have full : padEnd 80 s.footer.flatten = s.footer.flatten :=
    padEnd_full (by simp [Statement.footer])
  have type : slice 0 2 s.footer.flatten = "33".toList := slice_type rfl
  simp only [readRecord, full, type, finalBalanceRecord_footer]
  rfl

theorem readRecord_endOfFile :
    readRecord ⟨closed, current⟩ endOfFile.flatten = ⟨closed, current⟩ := by
  have full : padEnd 80 endOfFile.flatten = endOfFile.flatten := padEnd_full (by simp [endOfFile])
  have type : slice 0 2 endOfFile.flatten = "88".toList := slice_type rfl
  cases current <;> simp only [readRecord, full, type] <;> rfl

theorem foldl_complements (complements : List Complement) (trimmed : Trimmed tx.description) :
    (complements.map fun c => c.record.flatten).foldl readRecord
        ⟨closed, some { a with transactions := before ++ [tx] }⟩ =
      ⟨closed, some { a with
        transactions := before ++ [{ tx with
          description := complements.foldl (fun text c => joinTexts text c.text) tx.description }] }⟩ := by
  induction complements generalizing tx with
  | nil => rfl
  | cons c rest ih =>
    have text : Trimmed c.text := (trimmed_trim _).join (trimmed_trim _)
    have joined : Trimmed ({ tx with description := joinTexts tx.description c.text }).description :=
      trimmed.join text
    rw [List.map_cons, List.foldl_cons, readRecord_complement c trimmed, ih joined,
      List.foldl_cons]

theorem foldl_movement (m : Movement) :
    m.lines.foldl readRecord ⟨closed, some a⟩ =
      ⟨closed, some { a with transactions := a.transactions ++ [m.misread] }⟩ := by
  have empty : Trimmed ({ m.misread with description := "" }).description :=
    ⟨fun _ mem => by simp at mem, fun _ mem => by simp at mem⟩
  rw [Movement.lines, List.foldl_cons, readRecord_movement, foldl_complements _ empty]
  simp only [Movement.misread, Movement.description]

theorem foldl_movements (movements : List Movement) :
    (movements.flatMap Movement.lines).foldl readRecord ⟨closed, some a⟩ =
      ⟨closed, some { a with
        transactions := a.transactions ++ movements.map Movement.misread }⟩ := by
  induction movements generalizing a with
  | nil => simp
  | cons m rest ih =>
    rw [List.flatMap_cons, List.foldl_append, foldl_movement, ih]
    simp

theorem foldl_statement (s : Statement) :
    s.lines.foldl readRecord ⟨closed, current⟩ =
      ⟨closed ++ current.toList, some s.misread⟩ := by
  rw [Statement.lines, List.foldl_cons, readRecord_header, List.foldl_append, foldl_movements,
    List.foldl_cons, List.foldl_nil, readRecord_footer]
  rfl

theorem foldl_statements (statements : List Statement) :
    ((statements.flatMap Statement.lines).foldl readRecord ⟨closed, current⟩).accounts =
      closed ++ current.toList ++ statements.map Statement.misread := by
  induction statements generalizing closed current with
  | nil => simp [N43State.accounts]
  | cons s rest ih =>
    rw [List.flatMap_cons, List.foldl_append, foldl_statement, ih]
    simp

/-- A line of records has no line breaks, and a digit in its first column. -/
structure RecordLine (line : List Char) : Prop where
  plain : ∀ c ∈ line, isBreak c = false
  solid : ∃ c rest, line = c :: rest ∧ isSpace c = false

theorem RecordLine.not_blank {line : List Char} (h : RecordLine line) :
    trim (String.ofList line) ≠ "" := by
  obtain ⟨c, rest, rfl, solid⟩ := h.solid
  intro blank
  have chars := congrArg String.toList blank
  rw [trim, String.toList_ofList, String.toList_ofList,
    List.dropWhile_cons_of_neg (by simp [solid])] at chars
  have none : (c :: rest).reverse.dropWhile isSpace = [] := List.reverse_eq_nil_iff.mp chars
  have spaces := List.dropWhile_eq_nil_iff.mp none c (by simp)
  rw [solid] at spaces
  cases spaces

theorem plain_of_isDigit (digit : c.isDigit = true) : isBreak c = false := by
  rw [isBreak, Bool.or_eq_false_iff, decide_eq_false_iff_not, decide_eq_false_iff_not]
  constructor
  · rintro rfl
    cases digit
  · rintro rfl
    cases digit

theorem plain_decimal (width n : ℕ) : ∀ c ∈ decimal width n, isBreak c = false :=
  fun _ mem => plain_of_isDigit (isDigit_of_mem_decimal mem)

theorem plain_blanks (width : ℕ) : ∀ c ∈ blanks width, isBreak c = false := by
  intro c mem
  rw [List.eq_of_mem_replicate mem]
  rfl

theorem ColumnText.plain_columns (t : ColumnText width) :
    ∀ c ∈ t.columns, isBreak c = false := by
  intro c mem
  rcases List.mem_append.mp mem with mem | mem
  · exact t.plain c mem
  · exact plain_blanks _ c mem

theorem recordLine_of_parts (head : type.head? = some c) (digits : ∀ d ∈ type, d.isDigit = true)
    (plain : ∀ part ∈ parts, ∀ d ∈ part, isBreak d = false) :
    RecordLine (type :: parts).flatten := by
  obtain ⟨rest, rfl⟩ := List.head?_eq_some_iff.mp head
  constructor
  · intro d mem
    obtain ⟨part, listed, mem⟩ := List.mem_flatten.mp mem
    rcases List.mem_cons.mp listed with rfl | listed
    · exact plain_of_isDigit (digits d mem)
    · exact plain part listed d mem
  · exact ⟨c, rest ++ parts.flatten, rfl, isSpace_of_isDigit (digits c List.mem_cons_self)⟩

theorem Statement.recordLine (s : Statement) : ∀ line ∈ s.lines, RecordLine line := by
  intro line mem
  rw [lines, List.mem_cons, List.mem_append, List.mem_flatMap, List.mem_singleton] at mem
  rcases mem with rfl | ⟨m, -, mem⟩ | rfl
  · refine recordLine_of_parts rfl (by simp) ?_
    simp only [List.forall_mem_cons]
    exact ⟨plain_decimal _ _, plain_decimal _ _, plain_decimal _ _, plain_decimal _ _,
      plain_decimal _ _, plain_decimal _ _, plain_decimal _ _, plain_decimal _ _, plain_blanks _,
      List.forall_mem_nil _⟩
  · rw [Movement.lines, List.mem_cons, List.mem_map] at mem
    rcases mem with rfl | ⟨c, -, rfl⟩
    · refine recordLine_of_parts rfl (by simp) ?_
      simp only [List.forall_mem_cons]
      exact ⟨plain_blanks _, plain_decimal _ _, plain_decimal _ _, plain_decimal _ _,
        plain_decimal _ _, plain_decimal _ _, plain_decimal _ _, plain_decimal _ _,
        m.documentNumber.plain_columns, m.reference1.plain_columns, m.reference2.plain_columns,
        List.forall_mem_nil _⟩
    · refine recordLine_of_parts rfl (by simp) ?_
      simp only [List.forall_mem_cons]
      exact ⟨plain_decimal _ _, c.first.plain_columns, c.second.plain_columns,
        List.forall_mem_nil _⟩
  · refine recordLine_of_parts rfl (by simp) ?_
    simp only [List.forall_mem_cons]
    exact ⟨plain_decimal _ _, plain_decimal _ _, plain_decimal _ _, plain_decimal _ _,
      plain_decimal _ _, plain_decimal _ _, plain_decimal _ _, plain_decimal _ _,
      plain_decimal _ _, plain_decimal _ _, plain_blanks _, List.forall_mem_nil _⟩

theorem recordLine_endOfFile : RecordLine endOfFile.flatten :=
  recordLine_of_parts rfl (by simp) (by simpa using plain_blanks 78)

theorem parseN43_encodeN43 (e : LineEnd) (statements : List Statement) :
    parseN43 (encodeN43 e statements) = statements.map Statement.misread := by
  have records : ∀ line ∈ statements.flatMap Statement.lines ++ [endOfFile.flatten],
      RecordLine line := by
    intro line mem
    rcases List.mem_append.mp mem with mem | mem
    · obtain ⟨s, -, mem⟩ := List.mem_flatMap.mp mem
      exact s.recordLine line mem
    · obtain rfl := List.mem_singleton.mp mem
      exact recordLine_endOfFile
  have kept : (statements.flatMap Statement.lines ++ [endOfFile.flatten] ++ [[]]).filter
      (fun l => trim (String.ofList l) ≠ "") =
      statements.flatMap Statement.lines ++ [endOfFile.flatten] := by
    rw [List.filter_append, List.filter_eq_self.mpr fun line mem => by
      simpa using (records line mem).not_blank]
    exact List.append_nil _
  simp only [parseN43, encodeN43, String.toList_ofList]
  rw [splitLines_joinLines e fun line mem => (records line mem).plain, kept, List.foldl_append,
    List.foldl_cons, List.foldl_nil]
  have read := @foldl_statements [] none statements
  generalize (statements.flatMap Statement.lines).foldl readRecord ⟨[], none⟩ = s at read
  obtain ⟨closed, current⟩ := s
  rw [readRecord_endOfFile, read]
  rfl

/-! ### When the statements are read back -/

/-- The fields of a movement are those that the parser reads four columns before them. -/
structure Movement.Coincides (m : Movement) : Prop where
  operationDate : m.office * 100 + m.operationDate.year = m.operationDate.number
  valueDate : m.operationDate.number % 10 ^ 4 * 100 + m.valueDate.year = m.valueDate.number
  conceptCommon : m.valueDate.month = m.conceptCommon
  conceptOwn : m.valueDate.day * 10 + m.conceptCommon / 10 = m.conceptOwn
  amount : m.misreadCents = m.amount.cents
  documentNumber : trim (String.ofList
    (decimal 4 m.amount.cents.natAbs ++ m.documentNumber.columns.take 6)) = m.documentNumber.trimmed
  reference1 : trim (String.ofList
    (m.documentNumber.columns.drop 6 ++ m.reference1.columns.take 8)) = m.reference1.trimmed
  reference2 : trim (String.ofList
    (m.reference1.columns.drop 8 ++ m.reference2.columns.take 12)) = m.reference2.trimmed

structure Statement.Coincides (s : Statement) : Prop where
  finalBalance : s.misreadBalance = s.finalBalance.cents
  movements : ∀ m ∈ s.movements, m.Coincides

theorem Movement.misread_eq_iff (m : Movement) : m.misread = m.transaction ↔ m.Coincides := by
  have office := m.office.isLt
  have own := m.conceptOwn.isLt
  have common := m.conceptCommon.isLt
  have := m.operationDate.inCentury
  have := m.valueDate.inCentury
  have := m.valueDate.inYear
  have := m.valueDate.inMonth
  have operationDate := toIsoDate_eq_iff m.operationDate
    (n := m.office * 100 + m.operationDate.year) (by omega)
  have valueDate := toIsoDate_eq_iff m.valueDate
    (n := m.operationDate.number % 10 ^ 4 * 100 + m.valueDate.year) (by omega)
  have conceptCommon : String.ofList (decimal 2 m.valueDate.month) = m.conceptCommon.text ↔
      m.valueDate.month = m.conceptCommon := by
    rw [Code.text, Code.columns, String.ofList_inj, decimal_inj, Nat.mod_eq_of_lt (by omega),
      Nat.mod_eq_of_lt common]
  have conceptOwn : String.ofList (decimal 3 (m.valueDate.day * 10 + m.conceptCommon / 10)) =
      m.conceptOwn.text ↔ m.valueDate.day * 10 + m.conceptCommon / 10 = m.conceptOwn := by
    rw [Code.text, Code.columns, String.ofList_inj, decimal_inj, Nat.mod_eq_of_lt (by omega),
      Nat.mod_eq_of_lt own]
  simp only [misread, transaction, N43Transaction.mk.injEq, operationDate, valueDate, conceptCommon,
    conceptOwn, and_true]
  constructor
  · rintro ⟨h1, h2, h3, h4, h5, h6, h7, h8⟩
    exact ⟨h1, h2, h4, h5, h3, h8, h6, h7⟩
  · intro h
    exact ⟨h.operationDate, h.valueDate, h.amount, h.conceptCommon, h.conceptOwn, h.reference1,
      h.reference2, h.documentNumber⟩

theorem Statement.misread_eq_iff (s : Statement) : s.misread = s.read ↔ s.Coincides := by
  simp only [misread, read, N43Account.mk.injEq, true_and, List.map_inj_left,
    Movement.misread_eq_iff]
  exact ⟨fun ⟨balance, movements⟩ => ⟨balance, movements⟩, fun h => ⟨h.finalBalance, h.movements⟩⟩

def Statement.Balanced (s : Statement) : Prop :=
  s.initialBalance.cents + (s.movements.map fun m => m.amount.cents).sum = s.finalBalance.cents

def N43Account.Balanced (a : N43Account) : Prop :=
  a.initialBalance + (a.transactions.map fun tx => tx.amount).sum = a.finalBalance

theorem Statement.read_balanced {s : Statement} : s.read.Balanced ↔ s.Balanced := by
  simp only [N43Account.Balanced, Balanced, read, List.map_map]
  rfl

/-- The accounts read from a file are those written in it, and they balance when those do. -/
structure ReadBack (e : LineEnd) (statements : List Statement) : Prop where
  same : parseN43 (encodeN43 e statements) = statements.map Statement.read
  balanced : (∀ s ∈ statements, s.Balanced) → ∀ a ∈ parseN43 (encodeN43 e statements), a.Balanced

/-- The statements of a file are read back exactly when the fields of each movement are those that
stand four columns before them, and the final balance is what stands in columns 49 to 63 of its
record. -/
theorem statements_read_back_iff (e : LineEnd) (statements : List Statement) :
    ReadBack e statements ↔ ∀ s ∈ statements, s.Coincides := by
  have same : parseN43 (encodeN43 e statements) = statements.map Statement.read ↔
      ∀ s ∈ statements, s.Coincides := by
    rw [parseN43_encodeN43, List.map_inj_left]
    exact forall₂_congr fun s _ => s.misread_eq_iff
  constructor
  · intro back
    exact same.mp back.same
  · intro coincide
    have read := same.mpr coincide
    refine ⟨read, fun balanced a mem => ?_⟩
    rw [read] at mem
    obtain ⟨s, listed, rfl⟩ := List.mem_map.mp mem
    exact Statement.read_balanced.mpr (balanced s listed)

def juneTransfer : Movement where
  office := ⟨418, by decide⟩
  operationDate := ⟨26, 6, 15, by decide, by decide, by decide⟩
  valueDate := ⟨26, 6, 15, by decide, by decide, by decide⟩
  conceptCommon := ⟨12, by decide⟩
  conceptOwn := ⟨1, by decide⟩
  amount := ⟨12100, by decide⟩
  documentNumber := ⟨"0000000001".toList, by decide, by simp [isBreak]⟩
  reference1 := ⟨"REM-ABC".toList, by decide, by simp [isBreak]⟩
  reference2 := ⟨"FA-2026-0001".toList, by decide, by simp [isBreak]⟩
  complements := []

def juneStatement : Statement where
  bank := ⟨2100, by decide⟩
  office := ⟨418, by decide⟩
  account := ⟨200051332, by decide⟩
  startDate := ⟨26, 6, 1, by decide, by decide, by decide⟩
  endDate := ⟨26, 6, 30, by decide, by decide, by decide⟩
  initialBalance := ⟨100000, by decide⟩
  currency := ⟨978, by decide⟩
  movements := [juneTransfer]
  finalBalance := ⟨112100, by decide⟩
  fits := by decide

/-- A movement of 15 June 2026 is read as one of the day 041826, and its date is not found. -/
theorem statements_not_read_back : ¬∀ e statements, ReadBack e statements := by
  intro always
  have read := (always .lf [juneStatement]).same
  rw [parseN43_encodeN43, List.map_inj_left] at read
  have coincides := juneStatement.misread_eq_iff.mp (read juneStatement List.mem_cons_self)
  have date := (coincides.movements juneTransfer List.mem_cons_self).operationDate
  exact absurd date (by decide)

end StorageOS
