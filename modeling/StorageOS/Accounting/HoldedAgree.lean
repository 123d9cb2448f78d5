import StorageOS.Accounting.HoldedDrafts

/-! An invoice agrees with its document in Holded, in its lines, its total and its date, and is not annulled as a
draft, in the runs where nothing changes what was sent. -/

namespace StorageOS

open Transition Processes

variable {cfg : HoldedConfig} {reg : Registry} {sha : Sha256} {db db' : HoldedDb} {call : HoldedCall}
  {rest : Option HoldedCall} {clock : Clock} {answer : HoldedAnswer} {input : HoldedInput} {id k : InvoiceId}
  {r : HoldedRecord} {v : HoldedView}

/-! ### Steps -/

structure DraftsKept (cfg : HoldedConfig) (db db' : HoldedDb) (rest : Option HoldedCall) : Prop where
  agree : HoldedAgree cfg db'
  step : HoldedStep db db'
  drafts : ∀ next, rest = some next → next.Drafts db'

theorem DraftsKept.ended (agree : HoldedAgree cfg db') (step : HoldedStep db db') :
    DraftsKept cfg db db' none :=
  ⟨agree, step, goesOn_none⟩

variable (agree : HoldedAgree cfg db)
include agree

theorem DraftsKept.thrown : DraftsKept cfg db db none := .ended agree (.refl db)

theorem DraftsKept.read (drafts : ∀ next, rest = some next → next.Drafts db) : DraftsKept cfg db db rest :=
  ⟨agree, .refl db, drafts⟩

omit agree in
theorem HoldedRecord.Agrees.columns {w : HoldedView} (agrees : r.Agrees cfg v) (items : w.items = v.items)
    (total : w.total = v.total) (date : w.issueDate = v.issueDate) (cancelled : w.cancelled = v.cancelled)
    (owner : w.ownerId = v.ownerId) : r.Agrees cfg w :=
  ⟨by rw [items, total]; exact agrees.lines, by rw [date]; exact agrees.date,
    by rw [cancelled]; exact agrees.live, by rw [owner]; exact agrees.own⟩

variable {args : IssueArgs} {existing : Invoice} {task : HoldedTask} {invoice : Invoice} {documentId : Option String}

theorem reserving_drafts (own : db.ownInvoice args.invoiceId)
    (made : stepHolded cfg reg sha db clock answer (.reserving args existing) = (db', rest)) :
    DraftsKept cfg db db' rest := by
  rcases commit_cases made with ⟨written, committed, rfl, rfl⟩ | ⟨rfl, rfl⟩
  · obtain ⟨fresh, -, -, ⟨-, rfl⟩ | ⟨-, rows⟩⟩ := issueInHoldedTx_holded committed
    · exact .read agree fun next goesOn => by
        cases goesOn
        exact own
    · have step : HoldedStep db { db with db := written } := .of_write rows rfl fun _ => rfl
      refine ⟨agree.write_same rows rfl (fun _ => rfl) fun v _ r _ _ agrees => ?_, step, fun next goesOn => ?_⟩
      · refine agrees.columns rfl rfl ?_ rfl rfl
        rw [HoldedView.reserve, agrees.date]
        rfl
      · cases goesOn
        exact step.ownInvoice own
  · exact .thrown agree

theorem reading_drafts {reserved : Bool} (own : db.ownInvoice args.invoiceId)
    (made : stepHolded cfg reg sha db clock answer (.reading args existing reserved) = (db', rest)) :
    DraftsKept cfg db db' rest := by
  cases made
  refine .read agree fun next goesOn => ?_
  obtain ⟨a, found, rfl⟩ := Option.map_eq_some_iff.mp goesOn
  have row : db.db.holded.find args.invoiceId = some a.holded := by
    rw [find_holded, (Db.findAccount_some found).1, Option.map_some]
  rw [issueDocument]
  cases document : a.invoice.holdedDocumentId with
  | none => exact own
  | some documentId =>
    have known : db.inHolded (some documentId) := by
      intro d has
      cases has
      exact agree.linked _ _ row _ document
    dsimp only
    split
    · exact ⟨own, known⟩
    · exact ⟨own, known⟩

variable (own : task.ownIssue db)
include own

theorem contacting_drafts (made : stepHolded cfg reg sha db clock answer (.contacting task invoice) = (db', rest)) :
    DraftsKept cfg db db' rest := by
  unfold stepHolded at made
  dsimp only at made
  split at made <;> cases made <;> refine .read agree fun next goesOn => ?_ <;> cases goesOn
  · exact own
  · trivial

theorem creation_agrees {lines : List HoldedLine} {d : String} (created : answer.created = some d)
    (fresh : d ∉ db.documentIds)
    (untouched : holdedUntouched cfg db (.creating task invoice lines) (.proceed clock answer) = true) :
    HoldedAgree cfg (db.create (task.document clock invoice lines d)) := by
  refine agree.create fresh fun id v made found => ?_
  obtain rfl : task.invoiceId = id := Option.some.inj made
  rw [find_holded, Option.map_eq_some_iff] at found
  obtain ⟨a, row, rfl⟩ := found
  rw [holdedUntouched, created, Option.all_some, row, Option.all_some, Bool.and_eq_true, Bool.and_eq_true,
    decide_eq_true_eq, decide_eq_true_eq] at untouched
  obtain ⟨⟨lines_, date⟩, live⟩ := untouched
  refine ⟨lines_, date, decide_eq_false live, ?_⟩
  cases task with
  | issue args existing => exact own a.holded ((find_holded _).trans (congrArg (Option.map Account.holded) row))
  | push => exact own.elim

theorem creating_drafts {lines : List HoldedLine}
    (fits : (HoldedCall.creating task invoice lines).fits db answer = true)
    (untouched : holdedUntouched cfg db (.creating task invoice lines) (.proceed clock answer) = true)
    (made : stepHolded cfg reg sha db clock answer (.creating task invoice lines) = (db', rest)) :
    DraftsKept cfg db db' rest := by
  have fresh : ∀ d, answer.created = some d → d ∉ db.documentIds := by
    intro d created
    rw [HoldedCall.fits, created, Option.all_some] at fits
    exact of_decide_eq_true fits
  cases answer with
  | ok d body =>
    cases made
    have new := fresh d rfl
    have step : HoldedStep db (db.create (task.document clock invoice lines d)) := .of_create new
    refine ⟨creation_agrees agree own rfl new untouched, step, fun next goesOn => ?_⟩
    cases goesOn
    refine ⟨step.ownIssue own, fun d' read => ?_⟩
    rw [HoldedAnswer.read] at read
    split at read <;> cases read
    refine ⟨List.mem_cons_self, fun r mem same => ?_⟩
    rcases List.mem_cons.mp mem with rfl | mem
    · rfl
    · exact (new (same ▸ List.mem_map_of_mem mem)).elim
  | error =>
    cases made
    exact .read agree fun next goesOn => by
      cases goesOn
      trivial
  | lost done =>
    cases done with
    | none =>
      cases made
      exact .thrown agree
    | some d =>
      cases made
      have new := fresh d rfl
      exact .ended (creation_agrees agree own rfl new untouched) (.of_create new)

theorem saving_drafts (known : db.madeFor task.invoiceId documentId)
    (made : stepHolded cfg reg sha db clock answer (.saving task documentId) = (db', rest)) :
    DraftsKept cfg db db' rest := by
  cases made
  have rows : (db.modifyInvoice task.invoiceId (Invoice.saveDocument documentId)).db.holded =
      db.db.holded.modify task.invoiceId fun v =>
        { v with documentId := documentId <|> v.documentId, syncState := some .approving } :=
    holded_modifyAccount fun _ => rfl
  have step : HoldedStep db (db.modifyInvoice task.invoiceId (Invoice.saveDocument documentId)) :=
    .of_write rows rfl fun _ => rfl
  refine ⟨agree.write rows rfl (fun v found d has => ?_) (fun v found r mem of_ => ?_), step,
    fun next goesOn => ?_⟩
  · cases documentId with
    | none => exact agree.linked _ v found d has
    | some saved => exact (known d has).1
  · have before : r.isOf task.invoiceId v.documentId = true := by
      cases documentId with
      | none => exact of_
      | some saved =>
        rw [HoldedRecord.isOf, Bool.or_eq_true, decide_eq_true_eq, decide_eq_true_eq] at of_ ⊢
        refine .inl (of_.elim (fun made => made) fun same => ?_)
        exact (known saved rfl).2 r mem (Option.some.inj same).symm
    exact (agree.agrees r mem _ v found before).columns rfl rfl rfl rfl rfl
  · cases goesOn
    exact ⟨step.ownIssue own, step.inHolded fun d has => (known d has).1⟩

theorem approving_drafts (known : db.inHolded documentId)
    (made : stepHolded cfg reg sha db clock answer (.approving task documentId) = (db', rest)) :
    DraftsKept cfg db db' rest := by
  unfold stepHolded at made
  dsimp only at made
  split at made <;> cases made
  · exact .read agree fun next goesOn => by
      cases goesOn
      exact ⟨own, known⟩
  · exact .thrown agree

omit own

omit agree in
theorem setSyncState_step (state : Option HoldedSyncState) : HoldedStep db (db.setSyncState id state) :=
  .of_write (g := fun v => { v with syncState := state }) (holded_modifyAccount fun _ => rfl) rfl fun _ => rfl

theorem approved_drafts (own : task.ownIssue db) (known : db.inHolded documentId)
    (made : stepHolded cfg reg sha db clock answer (.approved task documentId) = (db', rest)) :
    DraftsKept cfg db db' rest := by
  cases task with
  | push => exact own.elim
  | issue args existing =>
    cases made
    refine ⟨agree.setSyncState _, setSyncState_step _, fun next goesOn => ?_⟩
    cases goesOn
    exact ⟨(setSyncState_step _).ownInvoice own, (setSyncState_step _).inHolded known⟩

theorem numbering_drafts (own : db.ownInvoice args.invoiceId) (known : db.inHolded documentId)
    (made : stepHolded cfg reg sha db clock answer (.numbering args existing documentId) = (db', rest)) :
    DraftsKept cfg db db' rest := by
  unfold stepHolded at made
  dsimp only at made
  split at made <;> cases made
  · refine .read agree fun next goesOn => ?_
    split at goesOn <;> cases goesOn
    exact ⟨own, known _ rfl⟩
  · exact .thrown agree

theorem issuing_drafts {fromHolded : Option HoldedDocument}
    (known : (HoldedCall.issuing args existing fromHolded).Drafts db)
    (untouched : holdedUntouched cfg db (.issuing args existing fromHolded) (.proceed clock answer) = true)
    (made : stepHolded cfg reg sha db clock answer (.issuing args existing fromHolded) = (db', rest)) :
    DraftsKept cfg db db' rest := by
  rcases commit_cases made with ⟨written, committed, rfl, rfl⟩ | ⟨rfl, rfl⟩
  · obtain ⟨issueDate, fromDate, rows⟩ := issueTx_holded committed
    refine .ended ?_ (.of_write rows rfl fun _ => rfl)
    cases fromHolded with
    | none =>
      refine agree.write rows rfl (fun v found d has => agree.linked _ v found d has) fun v found r mem of_ => ?_
      exact (known v found (agree.agrees r mem _ v found of_).own).elim
    | some doc =>
      refine agree.write rows rfl (fun v found d has => ?_) fun v found r mem of_ => ?_
      · obtain rfl : doc.documentId = d := Option.some.inj has
        exact known.2
      · rw [find_holded, Option.map_eq_some_iff] at found
        obtain ⟨a, row, rfl⟩ := found
        have stored : db.db.holded.find args.invoiceId = some a.holded := by
          rw [find_holded, row, Option.map_some]
        rw [holdedUntouched, row, Option.all_some] at untouched
        have fits := List.all_eq_true.mp untouched r mem
        have sent := fromDate (Option.some_ne_none _)
        subst sent
        by_cases own : r.invoiceId = some args.invoiceId
        · rw [if_pos own, decide_eq_true_eq] at fits
          have before := agree.agrees r mem _ _ stored (by rw [HoldedRecord.isOf, own]; simp)
          exact ⟨before.lines, congrArg some fits, rfl, before.own⟩
        · have same : r.documentId = doc.documentId := by
            rw [HoldedRecord.isOf, Bool.or_eq_true, decide_eq_true_eq, decide_eq_true_eq] at of_
            exact (Option.some.inj (of_.resolve_left own)).symm
          rw [if_neg own, Bool.or_eq_true, decide_eq_true_eq, Bool.and_eq_true, decide_eq_true_eq] at fits
          obtain ⟨lines_, date⟩ := fits.resolve_left fun differs => differs same
          exact ⟨lines_, congrArg some date, rfl, known.1 a.holded stored⟩
  · exact .thrown agree

omit agree in
theorem beginIssue_drafts {req : Request} (h : beginIssue reg db.db args .holded = .ok req)
    (linked : ∀ doc, args.holdedDocument = some doc → doc.documentId ∈ db.documentIds)
    (goesOn : HoldedCall.ofRequest req = some call) : call.Drafts db := by
  obtain ⟨existing, found, h⟩ := Outcome.bind_ok h
  replace h := Outcome.passed (Outcome.passed h)
  obtain ⟨a, row, -, rfl, -⟩ := findOrThrow_account found
  have stored : db.db.holded.find args.invoiceId = some a.holded := by
    rw [find_holded, row, Option.map_some]
  have column : ∀ w, db.db.holded.find args.invoiceId = some w → w.ownerId = a.invoice.ownerId := by
    intro w there
    rw [stored] at there
    cases there
    rfl
  by_cases owners : a.invoice.ownerId.isSome = true
  · rw [if_pos owners] at h
    cases h
    cases goesOn
    intro w there
    rw [column w there]
    exact Option.isSome_iff_ne_none.mp owners
  · have own : db.ownInvoice args.invoiceId := by
      intro w there
      rw [column w there]
      exact Option.not_isSome_iff_eq_none.mp owners
    rw [if_neg owners] at h
    cases document : args.holdedDocument with
    | some doc =>
      rw [document] at h
      cases h
      cases goesOn
      exact ⟨own, linked doc document⟩
    | none =>
      rw [document] at h
      dsimp only at h
      split at h
      · split at h
        · cases h
        · cases h
          cases goesOn
          trivial
      · cases h
        cases goesOn
        exact own

theorem linking_drafts {documentId : String}
    (made : stepHolded cfg reg sha db clock answer (.linking args documentId) = (db', rest)) :
    DraftsKept cfg db db' rest := by
  unfold stepHolded at made
  dsimp only at made
  split at made <;> cases made
  · refine .read agree fun next goesOn => ?_
    split at goesOn
    · cases goesOn
    · rename_i exists_
      cases goesOn
      rw [Bool.or_eq_true, decide_eq_true_eq, not_or, not_not] at exists_
      exact exists_.1
  · exact .thrown agree

theorem linked_drafts {doc : HoldedDocument} (known : doc.documentId ∈ db.documentIds)
    (made : stepHolded cfg reg sha db clock answer (.linked args doc) = (db', rest)) :
    DraftsKept cfg db db' rest := by
  cases made
  refine .read agree fun next goesOn => ?_
  obtain ⟨req, began, goesOn⟩ := Option.bind_eq_some_iff.mp goesOn
  refine beginIssue_drafts (Outcome.ok_of_toOption began) (fun linked same => ?_) goesOn
  cases same
  exact known

def HoldedView.edit (lines : Option (Totals × List InvoiceItem)) (postponed : Bool) (v : HoldedView) :
    HoldedView :=
  { v with
    items := (lines.map Prod.snd).getD v.items
    total := (lines.map fun q => q.1.total).getD v.total
    cancelled := !postponed && v.cancelled }

omit agree in
theorem updateTx_holded {rows rows' : Db} {tenantId : TenantId} {input : UpdateInvoiceInput}
    (h : updateTx clock tenantId id existing input rows = .ok rows') :
    ∃ lines, updatedItems input = .ok lines ∧ rows'.holded =
      rows.holded.modify id (HoldedView.edit lines (postponed clock existing input)) := by
  obtain ⟨lines, computed, h⟩ := Outcome.bind_ok h
  obtain ⟨_, -, h⟩ := Outcome.bind_ok h
  cases h
  refine ⟨lines, computed, holded_modifyAccount fun a => ?_⟩
  unfold Invoice.edit
  cases postponed clock existing input <;> cases lines <;>
    simp [Account.holded, HoldedView.edit, Invoice.withTotals]

theorem updating_drafts {args : UpdateArgs}
    (untouched : holdedUntouched cfg db (.updating args existing) (.proceed clock answer) = true)
    (made : stepHolded cfg reg sha db clock answer (.updating args existing) = (db', rest)) :
    DraftsKept cfg db db' rest := by
  rcases commit_cases made with ⟨written, committed, rfl, rfl⟩ | ⟨rfl, rfl⟩
  · obtain ⟨lines, computed, rows⟩ := updateTx_holded committed
    refine .ended (agree.write_same rows rfl (fun _ => rfl) fun v found r mem of_ agrees => ?_)
      (.of_write rows rfl fun _ => rfl)
    have live : (v.edit lines (postponed clock existing args.input)).cancelled = false := by
      rw [HoldedView.edit, agrees.live, Bool.and_false]
    cases lines with
    | none => exact ⟨agrees.lines, agrees.date, live, agrees.own⟩
    | some made =>
      rw [find_holded, Option.map_eq_some_iff] at found
      obtain ⟨a, row, rfl⟩ := found
      rw [holdedUntouched, row, Option.all_some, computed] at untouched
      have fits := List.all_eq_true.mp untouched r mem
      rw [Bool.or_eq_true, Bool.not_eq_true'] at fits
      refine ⟨fits.resolve_left fun other => ?_, agrees.date, live, agrees.own⟩
      rw [show r.isOf args.invoiceId a.invoice.holdedDocumentId = true from of_] at other
      cases other
  · exact .thrown agree

theorem cancelling_drafts (untouched : holdedUntouched cfg db (.cancelling args) (.proceed clock answer) = true)
    (made : stepHolded cfg reg sha db clock answer (.cancelling args) = (db', rest)) :
    DraftsKept cfg db db' rest := by
  cases made
  cases row : db.db.accounts.find args.invoiceId with
  | none =>
    have rows : (db.modifyInvoice args.invoiceId (Invoice.cancelDraft clock)).db.holded =
        db.db.holded.modify args.invoiceId fun v => v := by
      rw [HoldedDb.modifyInvoice, Db.modifyAccount, Db.holded]
      dsimp only
      rw [Table.modify_of_find_none row, Table.modify_same fun _ _ => rfl, Db.holded]
    exact .ended (agree.write_same rows rfl (fun _ => rfl) fun _ _ _ _ _ agrees => agrees)
      (.of_write rows rfl fun _ => rfl)
  | some a =>
    have rows : (db.modifyInvoice args.invoiceId (Invoice.cancelDraft clock)).db.holded =
        db.db.holded.modify args.invoiceId fun v =>
          { v with cancelled := decide (a.invoice.status = .draft) || v.cancelled } := by
      refine Table.view_modify fun b there => ?_
      rw [row] at there
      cases there
      by_cases draft : a.invoice.status = .draft <;> simp [Invoice.cancelDraft, Account.holded, draft]
    refine .ended (agree.write_same rows rfl (fun _ => rfl) fun v found r mem of_ agrees => ?_)
      (.of_write rows rfl fun _ => rfl)
    refine agrees.columns rfl rfl rfl ?_ rfl
    rw [find_holded, row] at found
    cases found
    rw [holdedUntouched, row, Option.all_some, Bool.or_eq_true, decide_eq_true_eq] at untouched
    rcases untouched with issued | none_
    · rw [decide_eq_false issued, Bool.false_or]
    · have other := List.all_eq_true.mp none_ r mem
      rw [show r.isOf args.invoiceId a.invoice.holdedDocumentId = true from of_] at other
      cases other

theorem making_drafts {credit : HoldedRecord} (fits : (HoldedCall.making credit).fits db answer = true) :
    DraftsKept cfg db (db.create credit) none := by
  rw [HoldedCall.fits, Bool.and_eq_true, decide_eq_true_eq, decide_eq_true_eq] at fits
  refine .ended (agree.create fits.2 fun id v made => ?_) (.of_create fits.2)
  rw [fits.1] at made
  cases made

theorem awaiting_drafts (made : stepHolded cfg reg sha db clock answer (.awaiting args existing) = (db', rest)) :
    DraftsKept cfg db db' rest := by
  rcases commit_cases made with ⟨written, committed, rfl, rfl⟩ | ⟨rfl, rfl⟩
  · obtain ⟨g, rows, same⟩ := awaitHoldedCreditNoteTx_holded committed
    refine .ended (agree.write_same rows rfl (fun v => ?_) fun v _ r _ _ agrees => ?_)
      (.of_write rows rfl fun v => ?_)
    · rcases same v with h | h <;> rw [h]
    · rcases same v with h | h <;> rw [h]
      · exact agrees
      · exact agrees.columns rfl rfl rfl rfl rfl
    · rcases same v with h | h <;> rw [h]
  · exact .thrown agree

/-! ### Runs -/

theorem nextHolded_drafts (drafts : call.Drafts db) (untouched : holdedUntouched cfg db call input = true)
    (made : nextHolded cfg reg sha db call input = some (db', rest)) : DraftsKept cfg db db' rest := by
  cases input with
  | throws =>
    cases made
    exact .thrown agree
  | proceed clock answer =>
    rw [nextHolded] at made
    split at made
    · rename_i fits
      replace made := Option.some.inj made
      cases call with
      | awaiting => exact awaiting_drafts agree made
      | reserving => exact reserving_drafts agree drafts made
      | reading => exact reading_drafts agree drafts made
      | contacting => exact contacting_drafts agree drafts made
      | creating => exact creating_drafts agree drafts fits untouched made
      | releasing =>
        cases made
        exact .ended (agree.setSyncState _) (setSyncState_step _)
      | saving => exact saving_drafts agree drafts.1 drafts.2 made
      | approving => exact approving_drafts agree drafts.1 drafts.2 made
      | approved => exact approved_drafts agree drafts.1 drafts.2 made
      | numbering => exact numbering_drafts agree drafts.1 drafts.2 made
      | issuing => exact issuing_drafts agree drafts untouched made
      | linking => exact linking_drafts agree made
      | linked => exact linked_drafts agree drafts made
      | updating => exact updating_drafts agree untouched made
      | cancelling => exact cancelling_drafts agree untouched made
      | making =>
        cases made
        exact making_drafts agree fits
      | _ => exact drafts.elim
    · cases made

omit agree

theorem enterHoldedDraft_drafts {request : HoldedDraftRequest}
    (entered : enterHoldedDraft reg db request = some call) : call.Drafts db := by
  cases request with
  | issue args =>
    obtain ⟨req, began, goesOn⟩ := Option.bind_eq_some_iff.mp entered
    exact beginIssue_drafts (Outcome.ok_of_toOption began) (fun _ same => by cases same) goesOn
  | update | cancel | linkHoldedCreditNote =>
    unfold enterHoldedDraft at entered
    dsimp only at entered
    repeat' split at entered
    all_goals
      cases entered
    all_goals trivial
  | creditNote =>
    cases entered
    trivial

variable {s t : State HoldedDb HoldedCall}

/-- A document of an invoice has its lines, its total and its issue date, and the invoice is not annulled. -/
theorem holded_agree {rows : HoldedDb} (start : HoldedAgree cfg rows)
    (run : Run (holdedDraftSystem cfg reg sha).step
      (System.admits fun db call input => holdedUntouched cfg db call input = true) ⟨rows, []⟩ t) :
    ∀ r ∈ t.db.documents, ∀ id a, t.db.db.accounts.find id = some a →
      (r.invoiceId = some id ∨ a.invoice.holdedDocumentId = some r.documentId) →
        buildLines cfg.taxes a.invoice.items a.invoice.isCreditNote = some r.lines ∧
          a.invoice.total = r.total ∧ a.invoice.issueDate = some r.date ∧ a.invoice.status ≠ .cancelled := by
  have both := System.invariant (P := HoldedAgree cfg) (Q := fun db call => call.Drafts db) run start
    (fun _ mem => by cases mem) (fun _ entered => enterHoldedDraft_drafts entered)
    fun agree drafts untouched made => by
      have kept := nextHolded_drafts agree drafts untouched made
      exact ⟨kept.agree, kept.drafts, fun _ known => kept.step.drafts known⟩
  intro r mem id a found of_
  have agrees := both.1.agrees r mem id a.holded (by rw [find_holded, found, Option.map_some]) (by
    rw [HoldedRecord.isOf, Bool.or_eq_true, decide_eq_true_eq, decide_eq_true_eq]
    exact of_)
  have lines := agrees.lines
  rw [HoldedRecord.saysLines, Bool.and_eq_true, decide_eq_true_eq, decide_eq_true_eq] at lines
  exact ⟨lines.1, lines.2, agrees.date, of_decide_eq_false agrees.live⟩

/-! ### Divergences -/

/-- The steps of the first request under way, each with its answer. -/
def draftAnswers (day : Date) (answers : List HoldedAnswer) : List (Action HoldedDraftRequest HoldedInput) :=
  answers.map fun answer => .advance 0 (answeredAt day answer)

/-- An issue that creates the document, saves its id, and what comes of the approval and the number. -/
def issueDraft (day : Date) (answers : List HoldedAnswer) : List (Action HoldedDraftRequest HoldedInput) :=
  .start (.issue (issueOf 0)) ::
    draftAnswers day ([.error, .error, .ok "" true, .ok "d1" true, .error] ++ answers)

def editDraft (day : Date) (price : ℚ) : List (Action HoldedDraftRequest HoldedInput) :=
  .start (.update ⟨1, 0, none, ⟨none, none, none, some [⟨"Trastero", 1, price, 21, none, none⟩]⟩⟩) ::
    draftAnswers day [.error]

def creditDb : HoldedDb :=
  .opening ⟨(Table.empty.push ⟨{ storageDraft with status := .issued }, .empty⟩).push ⟨{ storageDraft with
      rectifiesInvoiceId := some 0
      correctionMethod := some .byDifferences
      total := -12100
      items := [⟨"Trastero", -1, 100, 21, "S1", -2100, -12100, none, 0⟩] }, .empty⟩,
    Table.empty.push (newSeries 1 "FA" true)⟩ .empty

theorem storageDb_agrees : HoldedAgree generalRate storageDb where
  agrees _ mem := by cases mem
  linked id v found d has := by
    rw [find_holded, Option.map_eq_some_iff] at found
    obtain ⟨a, row, rfl⟩ := found
    have stored : a.invoice = storageDraft := by
      have mem := Table.mem_values.mpr ⟨id, row⟩
      simp only [storageDb, HoldedDb.opening, Table.values_push, Table.values_empty, List.nil_append,
        List.mem_singleton] at mem
      rw [mem]
    rw [Account.holded, stored] at has
    cases has

/-- The draft is edited before it is issued, and the issue resumed the day after. -/
theorem holded_agree_resumed : ∃ t : State HoldedDb HoldedCall,
    (t.db.documentIds = ["d1"] ∧ (t.db.db.accounts.find 0).any fun a =>
      a.invoice.status = .issued && a.invoice.total = 9680) ∧
      ∀ r ∈ t.db.documents, ∀ id a, t.db.db.accounts.find id = some a →
        (r.invoiceId = some id ∨ a.invoice.holdedDocumentId = some r.documentId) →
          buildLines generalRate.taxes a.invoice.items a.invoice.isCreditNote = some r.lines ∧
            a.invoice.total = r.total ∧ a.invoice.issueDate = some r.date ∧
              a.invoice.status ≠ .cancelled := by
  obtain ⟨t, run, issued⟩ := Run.exists_of_exec (holdedDraftSystem generalRate oneTenant .bytes).step
    (System.admits fun db call input => holdedUntouched generalRate db call input = true) ⟨storageDb, []⟩
    (editDraft 20000 80 ++ issueDraft 20000 [.lost none] ++ .start (.issue (issueOf 0)) ::
      draftAnswers 20001 [.error, .error, .ok "" true, .error, .ok "H-1" true, .error])
    (fun t => t.db.documentIds = ["d1"] ∧ (t.db.db.accounts.find 0).any fun a =>
      a.invoice.status = .issued && a.invoice.total = 9680) (by decide +kernel)
  exact ⟨t, of_decide_eq_true issued, holded_agree storageDb_agrees run⟩

/-- A draft is edited or annulled once its document waits to be approved, an issue ends on the day after the one
that was sent, and a credit note of another amount is linked. -/
theorem holded_diverges :
    ¬(∀ t, Reaches (holdedDraftSystem generalRate oneTenant .bytes).step ⟨storageDb, []⟩ t →
      ∀ r ∈ t.db.documents, ∀ id a, t.db.db.accounts.find id = some a → r.invoiceId = some id →
        buildLines generalRate.taxes a.invoice.items a.invoice.isCreditNote = some r.lines) ∧
    ¬(∀ t, Reaches (holdedDraftSystem generalRate oneTenant .bytes).step ⟨storageDb, []⟩ t →
      ∀ r ∈ t.db.documents, ∀ id a, t.db.db.accounts.find id = some a → r.invoiceId = some id →
        a.invoice.status ≠ .cancelled) ∧
    ¬(∀ t, Reaches (holdedDraftSystem generalRate oneTenant .bytes).step ⟨storageDb, []⟩ t →
      ∀ r ∈ t.db.documents, ∀ id a, t.db.db.accounts.find id = some a → r.invoiceId = some id →
        a.invoice.issueDate = some r.date) ∧
    ¬(∀ t, Reaches (holdedDraftSystem generalRate oneTenant .bytes).step ⟨creditDb, []⟩ t →
      ∀ r ∈ t.db.documents, ∀ id a, t.db.db.accounts.find id = some a →
        a.invoice.holdedDocumentId = some r.documentId → a.invoice.total = r.total) := by
  refine ⟨fun all => ?_, fun all => ?_, fun all => ?_, fun all => ?_⟩
  · obtain ⟨t, run, edited⟩ := Run.exists_of_exec (holdedDraftSystem generalRate oneTenant .bytes).step
      (fun _ _ => True) ⟨storageDb, []⟩ (issueDraft 20000 [.lost none] ++ editDraft 20001 80)
      (fun t => t.db.documents.any fun r => r.invoiceId = some 0 && (t.db.db.accounts.find 0).any fun a =>
        buildLines generalRate.taxes a.invoice.items a.invoice.isCreditNote ≠ some r.lines) (by decide +kernel)
    obtain ⟨r, mem, differs⟩ := List.any_eq_true.mp edited
    rw [Bool.and_eq_true, decide_eq_true_eq, Option.any_eq_true] at differs
    obtain ⟨made, a, found, lines⟩ := differs
    exact of_decide_eq_true lines (all t run r mem 0 a found made)
  · obtain ⟨t, run, annulled⟩ := Run.exists_of_exec (holdedDraftSystem generalRate oneTenant .bytes).step
      (fun _ _ => True) ⟨storageDb, []⟩
      (issueDraft 20000 [.lost none] ++ .start (.cancel (issueOf 0)) :: draftAnswers 20000 [.error])
      (fun t => t.db.documents.any fun r => r.invoiceId = some 0 && (t.db.db.accounts.find 0).any fun a =>
        a.invoice.status = .cancelled) (by decide +kernel)
    obtain ⟨r, mem, differs⟩ := List.any_eq_true.mp annulled
    rw [Bool.and_eq_true, decide_eq_true_eq, Option.any_eq_true] at differs
    obtain ⟨made, a, found, cancelled⟩ := differs
    exact all t run r mem 0 a found made (of_decide_eq_true cancelled)
  · obtain ⟨t, run, dated⟩ := Run.exists_of_exec (holdedDraftSystem generalRate oneTenant .bytes).step
      (fun _ _ => True) ⟨storageDb, []⟩
      (issueDraft 20000 [.ok "" true, .error, .ok "H-1" true] ++ draftAnswers 20001 [.error])
      (fun t => t.db.documents.any fun r => r.invoiceId = some 0 && (t.db.db.accounts.find 0).any fun a =>
        a.invoice.issueDate ≠ some r.date) (by decide +kernel)
    obtain ⟨r, mem, differs⟩ := List.any_eq_true.mp dated
    rw [Bool.and_eq_true, decide_eq_true_eq, Option.any_eq_true] at differs
    obtain ⟨made, a, found, date⟩ := differs
    exact of_decide_eq_true date (all t run r mem 0 a found made)
  · obtain ⟨t, run, linked⟩ := Run.exists_of_exec (holdedDraftSystem generalRate oneTenant .bytes).step
      (fun _ _ => True) ⟨creditDb, []⟩
      (.start (.issue (issueOf 1)) :: draftAnswers 20000 [.error] ++
        .start (.creditNote ⟨"c1", none, [], -5000, 20000⟩) :: draftAnswers 20000 [.error] ++
        .start (.linkHoldedCreditNote (issueOf 1) "c1") ::
          draftAnswers 20000 [.ok "R-1" true, .error, .error])
      (fun t => t.db.documents.any fun r => (t.db.db.accounts.find 1).any fun a =>
        a.invoice.holdedDocumentId = some r.documentId && a.invoice.total ≠ r.total) (by decide +kernel)
    obtain ⟨r, mem, differs⟩ := List.any_eq_true.mp linked
    obtain ⟨a, found, differs⟩ := (Option.any_eq_true _ _).mp differs
    rw [Bool.and_eq_true, decide_eq_true_eq] at differs
    exact of_decide_eq_true differs.2 (all t run r mem 1 a found differs.1)

end StorageOS
