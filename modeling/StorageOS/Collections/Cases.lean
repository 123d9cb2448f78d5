import StorageOS.Billing.Rows
import StorageOS.Lib.Processes

/-! Delinquency cases: the requests that move a case from state to state, each checked on the state
that it read, under any interleaving. -/

namespace StorageOS

open Transition Processes

inductive DelinquencyCaseStatus
  | opened
  | overlocked
  | finalNotice
  | resolutionPending
  | disposal
  | closedPaid
  | closedDisposed
  | closedCancelled
  deriving DecidableEq

def transitions : DelinquencyCaseStatus → List DelinquencyCaseStatus
  | .opened => [.overlocked, .closedPaid, .closedCancelled]
  | .overlocked => [.finalNotice, .closedPaid, .closedCancelled]
  | .finalNotice => [.resolutionPending, .closedPaid, .closedCancelled]
  | .resolutionPending => [.disposal, .closedPaid, .closedCancelled]
  | .disposal => [.closedDisposed, .closedPaid, .closedCancelled]
  | .closedPaid => []
  | .closedDisposed => []
  | .closedCancelled => []

def closedCaseStatuses : List DelinquencyCaseStatus := [.closedPaid, .closedDisposed, .closedCancelled]

inductive DisposalType
  | auctionNotarial
  | sale
  | donation
  | destruction
  deriving DecidableEq

structure DelinquencyCase where
  status : DelinquencyCaseStatus
  overlockedAt : Option Instant
  finalNoticeAt : Option Instant
  finalNoticeDeadline : Option Instant
  resolutionPendingAt : Option Instant
  disposalType : Option DisposalType
  disposedAt : Option Instant
  closedAt : Option Instant

inductive CaseMove
  | overlock (now : Instant)
  | notice (sentAt deadline : Instant)
  | resolutionPending (now : Instant)
  | disposal (disposalType : DisposalType)
  | closedDisposed (now : Instant)
  | closedCancelled (now : Instant)
  | closedPaid (now : Instant)

def CaseMove.state : CaseMove → DelinquencyCaseStatus
  | .overlock _ => .overlocked
  | .notice _ _ => .finalNotice
  | .resolutionPending _ => .resolutionPending
  | .disposal _ => .disposal
  | .closedDisposed _ => .closedDisposed
  | .closedCancelled _ => .closedCancelled
  | .closedPaid _ => .closedPaid

def CaseMove.apply (move : CaseMove) (row : DelinquencyCase) : DelinquencyCase :=
  match move with
  | .overlock now => { row with status := .overlocked, overlockedAt := some now }
  | .notice sentAt deadline =>
    { row with
      status := .finalNotice
      finalNoticeAt := some sentAt
      finalNoticeDeadline := some deadline }
  | .resolutionPending now =>
    { row with status := .resolutionPending, resolutionPendingAt := some now }
  | .disposal disposalType => { row with status := .disposal, disposalType := some disposalType }
  | .closedDisposed now =>
    { row with status := .closedDisposed, disposedAt := some now, closedAt := some now }
  | .closedCancelled now => { row with status := .closedCancelled, closedAt := some now }
  | .closedPaid now => { row with status := .closedPaid, closedAt := some now }

/-- A change of state that was committed: the state stored before and the one after, when, and the
deadline of the final notice then. -/
structure CaseChange where
  before : DelinquencyCaseStatus
  after : DelinquencyCaseStatus
  deadline : Option Instant
  now : Instant
  deriving DecidableEq

/-- A case with its changes of state, newest first, and the payments of its settlement, each with the
state the case was in. -/
structure CaseDb where
  row : DelinquencyCase
  history : List CaseChange
  payments : List (ℤ × DelinquencyCaseStatus)

def CaseDb.change (db : CaseDb) (move : CaseMove) (now : Instant) : CaseDb :=
  { db with
    row := move.apply db.row
    history := ⟨db.row.status, move.state, (move.apply db.row).finalNoticeDeadline, now⟩ ::
      db.history }

def millisPerDay : ℤ := 24 * 60 * 60 * 1000

inductive CaseRequest
  | overlock (now : Instant)
  | sendNotice (sentAt : Option Instant) (noticeDays collectionsNoticeDays : Option ℤ) (now : Instant)
  | markResolutionPending (now : Instant)
  | startDisposal (disposalType : DisposalType)
  | completeDisposal (now : Instant)
  | cancel (now : Instant)
  | onInvoicePaid

inductive CaseCall
  | writing (move : CaseMove) (read : DelinquencyCaseStatus)
  | claiming (now : Instant)
  | transitioning (move : CaseMove)
  | settling (payments : List ℤ)
  | checkingDebt (read : DelinquencyCaseStatus)

/-- The instant, whether the transaction fails, the live debt of the contract, and the payments that
the settlement finds to make. -/
structure CaseInput where
  now : Instant
  fails : Bool
  debtCents : ℤ
  payments : List ℤ

/-- A transition reads the case, checks the change and then writes it. -/
def CaseDb.assertTransition (db : CaseDb) (move : CaseMove) : Option CaseCall :=
  if move.state ∈ transitions db.row.status then some (.writing move db.row.status) else none

def enterCase (db : CaseDb) : CaseRequest → Option CaseCall
  | .overlock now => db.assertTransition (.overlock now)
  | .sendNotice sentAt noticeDays collectionsNoticeDays now =>
    let sentAt := sentAt.getD now
    let days := (noticeDays.or collectionsNoticeDays).getD 15
    db.assertTransition (.notice sentAt (sentAt + days * millisPerDay))
  | .markResolutionPending now => db.assertTransition (.resolutionPending now)
  | .startDisposal disposalType => db.assertTransition (.disposal disposalType)
  | .completeDisposal now =>
    if db.row.status = .disposal then some (.claiming now)
    else some (.transitioning (.closedDisposed now))
  | .cancel now => db.assertTransition (.closedCancelled now)
  | .onInvoicePaid =>
    if db.row.status ∈ closedCaseStatuses then none else some (.checkingDebt db.row.status)

def nextCase (db : CaseDb) (call : CaseCall) (input : CaseInput) : CaseDb × Option CaseCall :=
  if input.fails then (db, none)
  else
    match call with
    | .writing move _ => (db.change move input.now, none)
    -- the update that claims the disposal is conditional on the state
    | .claiming now =>
      if db.row.status = .disposal then
        (db.change (.closedDisposed now) input.now, some (.settling input.payments))
      else (db, some (.transitioning (.closedDisposed now)))
    | .transitioning move => (db, db.assertTransition move)
    | .settling [] => (db, none)
    | .settling (cents :: rest) =>
      ({ db with payments := (cents, db.row.status) :: db.payments }, some (.settling rest))
    | .checkingDebt read =>
      if input.debtCents > 0 then (db, none)
      else (db, some (.writing (.closedPaid input.now) read))

def caseSystem : Processes.System CaseDb CaseCall CaseRequest CaseInput where
  enter := enterCase
  next db call input := some (nextCase db call input)

/-! ### What the changes make of a case -/

def stateAfter : List CaseChange → DelinquencyCaseStatus
  | [] => .opened
  | change :: _ => change.after

/-- Each change starts from the state that the one before it left. -/
def Connected : List CaseChange → Prop
  | [] => True
  | change :: earlier => change.before = stateAfter earlier ∧ Connected earlier

/-- The state is the one its changes lead to, each of them allowed from the state stored before it. A case is closed
once, waits for its end only with the deadline of a final notice on record, and its settlement pays only after the
disposal. -/
structure CaseDb.Sound (db : CaseDb) : Prop where
  state : db.row.status = stateAfter db.history
  connected : Connected db.history
  edges : ∀ c ∈ db.history, c.after ∈ transitions c.before
  absorbed : ∀ c ∈ db.history, c.before ∉ closedCaseStatuses
  noticed : ∀ c ∈ db.history, c.after = .resolutionPending ∨ c.after = .disposal →
    c.deadline.isSome
  settled : ∀ p ∈ db.payments, p.2 = .closedDisposed

/-- The case is in the state that a request read when the request writes another. -/
def caseUnmoved (db : CaseDb) : CaseCall → Bool
  | .writing _ read => db.row.status = read
  | _ => true

/-- A request writes an allowed change from what it read, and settles after the disposal. -/
def CaseCall.Checked (db : CaseDb) : CaseCall → Prop
  | .writing move read => move.state ∈ transitions read
  | .checkingDebt read => read ∉ closedCaseStatuses
  | .settling _ => db.row.status = .closedDisposed
  | _ => True

def pursued : DelinquencyCaseStatus → Bool
  | .finalNotice | .resolutionPending | .disposal => true
  | _ => false

def DelinquencyCase.Noticed (row : DelinquencyCase) : Prop :=
  pursued row.status = true → row.finalNoticeDeadline.isSome

variable {db : CaseDb} {call : CaseCall} {input : CaseInput}

variable {s : DelinquencyCaseStatus} {move : CaseMove} {r : CaseCall}

theorem transitions_closed (closed : s ∈ closedCaseStatuses) :
    transitions s = [] := by
  cases s <;> first | rfl | simp [closedCaseStatuses] at closed

theorem open_of_edge {s s' : DelinquencyCaseStatus} (edge : s' ∈ transitions s) :
    s ∉ closedCaseStatuses := by
  intro closed
  rw [transitions_closed closed] at edge
  cases edge

@[simp] theorem apply_status (move : CaseMove) (row : DelinquencyCase) :
    (move.apply row).status = move.state := by
  cases move <;> rfl

theorem closedPaid_edge (still : s ∉ closedCaseStatuses) :
    .closedPaid ∈ transitions s := by
  cases s <;> first | exact absurd (by decide) still | decide

theorem assertTransition_checked (asserted : db.assertTransition move = some r) : r.Checked db := by
  unfold CaseDb.assertTransition at asserted
  split at asserted
  · rename_i edge
    cases asserted
    exact edge
  · cases asserted

theorem enterCase_checked {request : CaseRequest} (entered : enterCase db request = some r) : r.Checked db := by
  cases request with
  | completeDisposal now =>
    simp only [enterCase] at entered
    split at entered <;> cases entered <;> trivial
  | onInvoicePaid =>
    simp only [enterCase] at entered
    split at entered
    · cases entered
    · rename_i still
      cases entered
      exact still
  | _ =>
    exact assertTransition_checked entered

/-- What a transaction does: nothing to the case, an allowed change from the state stored, or a
payment of the settlement. -/
inductive CaseStep (db : CaseDb) : CaseDb → Option CaseCall → Prop
  | same {rest : Option CaseCall} (checked : ∀ r, rest = some r → r.Checked db) : CaseStep db db rest
  | changes {move : CaseMove} {now : Instant} {rest : Option CaseCall}
      (edge : move.state ∈ transitions db.row.status)
      (checked : ∀ r, rest = some r → r.Checked (db.change move now)) :
    CaseStep db (db.change move now) rest
  | pays {cents : ℤ} {rest : List ℤ} (disposed : db.row.status = .closedDisposed) :
    CaseStep db { db with payments := (cents, db.row.status) :: db.payments }
      (some (.settling rest))

theorem nextCase_step (checked : call.Checked db) (unmoved : caseUnmoved db call = true) :
    CaseStep db (nextCase db call input).1 (nextCase db call input).2 := by
  unfold nextCase
  split
  · exact .same nofun
  · cases call with
    | writing move read =>
      have stored : db.row.status = read := by simpa [caseUnmoved] using unmoved
      exact .changes (stored ▸ checked) nofun
    | claiming now =>
      dsimp only
      split
      · rename_i disposal
        refine .changes (by rw [disposal]; exact List.mem_cons_self) fun r same => ?_
        cases same
        rfl
      · refine .same fun r same => ?_
        cases same
        trivial
    | transitioning move => exact .same fun r asserted => assertTransition_checked asserted
    | settling payments =>
      cases payments with
      | nil => exact .same nofun
      | cons cents rest => exact .pays checked
    | checkingDebt read =>
      dsimp only
      split
      · exact .same nofun
      · refine .same fun r same => ?_
        cases same
        exact closedPaid_edge checked

/-- An allowed change keeps the deadline of the notice, and a notice sets it. -/
theorem DelinquencyCase.Noticed.apply {row : DelinquencyCase} (noticed : row.Noticed)
    (edge : move.state ∈ transitions row.status) : (move.apply row).Noticed := by
  intro after
  rw [apply_status] at after
  cases move with
  | notice => rfl
  | resolutionPending | disposal =>
    apply noticed
    cases status : row.status <;> simp [status, transitions, CaseMove.state, pursued] at edge ⊢
  | _ => cases after

theorem CaseDb.Sound.change (sound : db.Sound) (noticed : db.row.Noticed)
    (edge : move.state ∈ transitions db.row.status) (now : Instant) : (db.change move now).Sound where
  state := apply_status move db.row
  connected := ⟨sound.state, sound.connected⟩
  edges := List.forall_mem_cons.mpr ⟨edge, sound.edges⟩
  absorbed := List.forall_mem_cons.mpr ⟨open_of_edge edge, sound.absorbed⟩
  noticed := by
    refine List.forall_mem_cons.mpr ⟨fun reached => noticed.apply edge ?_, sound.noticed⟩
    rw [apply_status]
    dsimp only at reached
    rcases reached with h | h <;> rw [h] <;> rfl
  settled := sound.settled

/-! ### Runs -/

structure CaseOpened (s : State CaseDb CaseCall) : Prop where
  running : s.running = []
  status : s.db.row.status = .opened
  history : s.db.history = []
  payments : s.db.payments = []

/-- A transaction that finds the case as its request read it keeps the case sound, and what the other
requests have checked. -/
theorem CaseStep.keeps {db' : CaseDb} {rest : Option CaseCall} (step : CaseStep db db' rest)
    (kept : db.Sound ∧ db.row.Noticed) :
    (db'.Sound ∧ db'.row.Noticed) ∧ (∀ r, rest = some r → r.Checked db') ∧
      ∀ other : CaseCall, other.Checked db → other.Checked db' := by
  obtain ⟨sound, noticed⟩ := kept
  cases step with
  | same checked => exact ⟨⟨sound, noticed⟩, checked, fun _ other => other⟩
  | @changes move now _ edge checked =>
    refine ⟨⟨sound.change noticed edge now, noticed.apply edge⟩, checked, fun other before => ?_⟩
    cases other with
    | settling payments =>
      have disposed : db.row.status = .closedDisposed := before
      rw [disposed] at edge
      cases edge
    | writing | checkingDebt => exact before
    | claiming | transitioning => trivial
  | @pays cents rest disposed =>
    refine ⟨⟨⟨sound.state, sound.connected, sound.edges, sound.absorbed, sound.noticed, ?_⟩, noticed⟩,
      fun r same => ?_, fun other before => ?_⟩
    · exact List.forall_mem_cons.mpr ⟨disposed, sound.settled⟩
    · cases same
      exact disposed
    · cases other with
      | settling | writing | checkingDebt => exact before
      | claiming | transitioning => trivial

/-- In every run in which no request writes a state over another than it read, the case moves along
its allowed changes. -/
theorem case_sound {s t : State CaseDb CaseCall} (opened : CaseOpened s)
    (run : Run caseSystem.step (System.admits fun db r _ => caseUnmoved db r = true) s t) :
    t.db.Sound := by
  have start : s.db.Sound ∧ s.db.row.Noticed := by
    obtain ⟨-, status, history, payments⟩ := opened
    constructor
    · refine ⟨?_, ?_, ?_, ?_, ?_, ?_⟩
      · rw [status, history]
        rfl
      · rw [history]
        trivial
      all_goals simp [history, payments]
    · intro late
      rw [status] at late
      cases late
  exact (System.invariant (P := fun db => db.Sound ∧ db.row.Noticed) (Q := fun db r => r.Checked db)
    run start (by simp [opened.running]) (fun _ entered => enterCase_checked entered)
    (fun {db r input db' rest} kept checked unmoved made => by
      have step : CaseStep db (nextCase db r input).1 (nextCase db r input).2 :=
        nextCase_step checked unmoved
      rw [Option.some.inj made] at step
      exact step.keeps kept)).1.1

def newCase : State CaseDb CaseCall :=
  ⟨⟨⟨.opened, none, none, none, none, none, none, none⟩, [], []⟩, []⟩

theorem newCase_opened : CaseOpened newCase := ⟨rfl, rfl, rfl, rfl⟩

/-- At a moment, with no debt left, and a settlement that pays 30 € and 20 €. -/
def onTime (now : Instant) : CaseInput := ⟨now, false, 0, [3000, 2000]⟩

def disposing : List (Action CaseRequest CaseInput) :=
  [.start (.overlock 1), .advance 0 (onTime 1),
    .start (.sendNotice none none (some 15) 2), .advance 0 (onTime 2),
    .start (.markResolutionPending 3), .advance 0 (onTime 3),
    .start (.startDisposal .sale), .advance 0 (onTime 4)]

/-- The goods are disposed of once and the settlement pays twice; a second completion, which read the
case before, is refused. -/
theorem case_sound_disposed :
    ∃ t : State CaseDb CaseCall, t.db.row.status = .closedDisposed ∧ t.db.Sound := by
  obtain ⟨t, run, left⟩ := Run.exists_of_exec caseSystem.step
    (System.admits fun db r _ => caseUnmoved db r = true) newCase
    (disposing ++ [.start (.completeDisposal 5), .start (.completeDisposal 5),
      .advance 0 (onTime 5), .advance 1 (onTime 5), .advance 1 (onTime 5), .advance 0 (onTime 6),
      .advance 0 (onTime 6)])
    (fun t => t.db.row.status = .closedDisposed) (by decide +kernel)
  exact ⟨t, by simpa using left, case_sound newCase_opened run⟩

/-- A case waits for its resolution or its disposal only past the deadline of its final notice. -/
def CaseDb.Punctual (db : CaseDb) : Prop :=
  ∀ c ∈ db.history, c.after = .resolutionPending ∨ c.after = .disposal →
    ∃ deadline, c.deadline = some deadline ∧ deadline ≤ c.now

/-- The deadline of the notice is two weeks away when the case is marked as past it. -/
theorem case_not_punctual :
    ¬∀ s t : State CaseDb CaseCall, CaseOpened s → Reaches caseSystem.step s t →
      t.db.Sound ∧ t.db.Punctual := by
  intro always
  obtain ⟨t, run, early⟩ := Run.exists_of_exec caseSystem.step (fun _ _ => True) newCase disposing
    (fun t => t.db.history.any fun c => c.after = .disposal ∧ c.deadline = some 1296000002 ∧
      c.now = 4) (by decide +kernel)
  obtain ⟨c, mem, early⟩ := List.any_eq_true.mp early
  obtain ⟨reached, due, now⟩ := of_decide_eq_true early
  obtain ⟨deadline, same, passed⟩ := (always _ t newCase_opened run).2 c mem (.inr reached)
  rw [due] at same
  cases same
  rw [now] at passed
  exact absurd passed (by decide)

end StorageOS
