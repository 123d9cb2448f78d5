import StorageOS.Bank.MovementWrites

/-! Every bank movement is used once: the request that has taken a movement answers for it until the
movement and its payments are in step again. -/

namespace StorageOS

open Transition Processes

variable {db db' : BankDb} {call r' : BankCall} {input : BankInput} {rest : Option BankCall}
  {running : List BankCall} {i : ℕ} {t : MovementId} {row : BankTransaction}
  {standing : List (PaymentRef × ℤ)} {returned : List (MovementId × PaymentRef)}

def BankCall.holds : BankCall → Option MovementId
  | .paying t _ _ _ | .releasing t _ | .reverting t _ _ | .autoPaying t _ _ | .autoFinding t _ _
  | .autoLinking t _ _ | .autoReleasing t _ | .revertingUndo t _ | .restoring t _ => some t
  | _ => none

structure Fits (row : BankTransaction) (standing : List (PaymentRef × ℤ)) : Prop where
  bound : (standing.map Prod.snd).sum ≤ max 0 row.amount
  credit : standing ≠ [] → 0 < row.amount

structure InStep (row : BankTransaction) (standing : List (PaymentRef × ℤ))
    (returned : List (MovementId × PaymentRef)) : Prop where
  matched : row.status = .matched ↔ standing ≠ []
  returned : row.status = .returned ↔ returned ≠ []
  auto : row.autoMatched = true → standing.length = 1

theorem InStep.of_matched (matched : row.status = .matched) (paid : standing ≠ [])
    (none_back : returned = []) (auto : row.autoMatched = true → standing.length = 1) :
    InStep row standing returned :=
  ⟨⟨fun _ => paid, fun _ => matched⟩, by simp [matched, none_back], auto⟩

theorem InStep.of_unpaid (out : row.status = .pending ∨ row.status = .ignored)
    (unpaid : standing = []) (none_back : returned = []) (byHand : row.autoMatched = false) :
    InStep row standing returned := by
  constructor
  · rcases out with h | h <;> simp [h, unpaid]
  · rcases out with h | h <;> simp [h, none_back]
  · simp [byHand]

theorem InStep.pending (inStep : InStep row standing returned) (pending : row.status = .pending) :
    standing = [] ∧ returned = [] ∧ row.autoMatched = false := by
  have unpaid : standing = [] := by
    by_contra paid
    have := inStep.matched.mpr paid
    rw [pending] at this
    cases this
  refine ⟨unpaid, ?_, ?_⟩
  · by_contra back
    have := inStep.returned.mpr back
    rw [pending] at this
    cases this
  · rw [← Bool.not_eq_true]
    intro auto
    have := inStep.auto auto
    simp [unpaid] at this

def BankCall.Keeps (row : BankTransaction) (standing : List (PaymentRef × ℤ))
    (returned : List (MovementId × PaymentRef)) : BankCall → Prop
  | .paying _ part plan applied => row.status = .matched ∧ row.autoMatched = false ∧ returned = [] ∧
    (applied = true ↔ standing ≠ []) ∧ 0 < row.amount ∧ (standing.map Prod.snd).sum + part.cents +
      (plan.map MatchPart.cents).sum ≤ row.amount
  | .releasing _ status => row.status = status ∧ (status = .matched ∨ status = .returned) ∧
    row.autoMatched = false ∧ returned = [] ∧ standing = []
  | .reverting _ _ _ =>
    row.status = .returned ∧ row.autoMatched = false ∧ returned = [] ∧ standing = []
  | .autoPaying _ part _ =>
    row.status = .matched ∧ returned = [] ∧ standing = [] ∧ part.cents = row.amount
  | .autoFinding _ _ _ | .autoLinking _ _ _ => row.status = .matched ∧ returned = [] ∧
    standing.length = 1 ∧ ∀ ref, row.matchedPaymentId = some ref → ref ∉ standing.map Prod.fst
  | .autoReleasing _ _ => row.status = .matched ∧ returned = [] ∧ standing = []
  | .revertingUndo _ u | .restoring _ u => (row.status = .pending ∨ row.status = .ignored) ∧
    row.autoMatched = false ∧ returned = [] ∧ ∃ cents, standing = [(u.payment, cents)]
  | _ => False

/-- One request at most has the movement, and answers for it; else it is in step. -/
def AccountedAt (db : BankDb) (running : List BankCall) (t : MovementId) : Prop :=
  ∀ row, db.transactions.find t = some row → Fits row (db.standing t) ∧
    ((running.filter (fun r => r.holds = some t) = [] ∧
        InStep row (db.standing t) (db.returnedBy t)) ∨
      ∃ r, running.filter (fun r => r.holds = some t) = [r] ∧
        r.Keeps row (db.standing t) (db.returnedBy t))

theorem AccountedAt.same (before : AccountedAt db running t) (place : running[i]? = some call)
    (out : call.holds ≠ some t) (stays : ∀ r', rest = some r' → r'.holds ≠ some t)
    (rows : db'.transactions.find t = db.transactions.find t)
    (standing : db'.standing t = db.standing t) (returned : db'.returnedBy t = db.returnedBy t) :
    AccountedAt db' (resume running i rest) t := by
  intro row found
  rw [rows] at found
  rw [standing, returned, filter_resume_other place (by simpa using out)
    fun r' left => by simpa using stays r' left]
  exact before row found

theorem AccountedAt.changes (before : AccountedAt db running t) (place : running[i]? = some call)
    (out : call.holds ≠ some t) (stays : ∀ r', rest = some r' → r'.holds ≠ some t)
    (settle : ∀ row', db'.transactions.find t = some row' →
      ∃ row, db.transactions.find t = some row ∧ (Fits row (db.standing t) →
        Fits row' (db'.standing t)) ∧
        (InStep row (db.standing t) (db.returnedBy t) →
          InStep row' (db'.standing t) (db'.returnedBy t)) ∧
        ∀ r : BankCall, r.Keeps row (db.standing t) (db.returnedBy t) →
          r.Keeps row' (db'.standing t) (db'.returnedBy t)) :
    AccountedAt db' (resume running i rest) t := by
  intro row' found
  obtain ⟨row, stored, fits, inStep, keeps⟩ := settle row' found
  obtain ⟨fitted, ⟨alone, calm⟩ | ⟨r, only, kept⟩⟩ := before row stored
  · refine ⟨fits fitted, .inl ⟨?_, inStep calm⟩⟩
    rw [filter_resume_other place (by simpa using out) fun r' left => by simpa using stays r' left,
      alone]
  · refine ⟨fits fitted, .inr ⟨r, ?_, keeps r kept⟩⟩
    rw [filter_resume_other place (by simpa using out) fun r' left => by simpa using stays r' left,
      only]

theorem AccountedAt.claims (before : AccountedAt db running t) (place : running[i]? = some call)
    (takes : r'.holds = some t)
    (settle : ∀ row', db'.transactions.find t = some row' →
      ∃ row, db.transactions.find t = some row ∧
        (∀ r : BankCall, ¬r.Keeps row (db.standing t) (db.returnedBy t)) ∧
        (Fits row (db.standing t) → InStep row (db.standing t) (db.returnedBy t) →
          Fits row' (db'.standing t) ∧ r'.Keeps row' (db'.standing t) (db'.returnedBy t))) :
    AccountedAt db' (resume running i (some r')) t := by
  intro row' found
  obtain ⟨row, stored, free, keeps⟩ := settle row' found
  obtain ⟨fitted, ⟨alone, calm⟩ | ⟨r, -, kept⟩⟩ := before row stored
  · obtain ⟨fits, kept⟩ := keeps fitted calm
    exact ⟨fits, .inr ⟨r', filter_resume_first place alone (by simpa using takes), kept⟩⟩
  · exact absurd kept (free r)

theorem AccountedAt.own (before : AccountedAt db running t) (place : running[i]? = some call)
    (has : call.holds = some t) (found : db.transactions.find t = some row) :
    Fits row (db.standing t) ∧ call.Keeps row (db.standing t) (db.returnedBy t) ∧
      ∀ rest : Option BankCall, (resume running i rest).filter (fun r => r.holds = some t) =
        rest.toList.filter fun r => r.holds = some t := by
  obtain ⟨fits, ⟨alone, -⟩ | ⟨r, only, keeps⟩⟩ := before row found
  · exact absurd (decide_eq_true has)
      (List.filter_eq_nil_iff.mp alone call (List.mem_of_getElem? place))
  · have left : ∀ rest : Option BankCall, r = call ∧
        (resume running i rest).filter (fun r => r.holds = some t) =
          rest.toList.filter fun r => r.holds = some t :=
      fun _ => filter_resume_own place only (decide_eq_true has)
    obtain rfl := (left none).1
    exact ⟨fits, keeps, fun rest => (left rest).2⟩

theorem AccountedAt.ends (before : AccountedAt db running t) (place : running[i]? = some call)
    (has : call.holds = some t) (gone : ∀ r', rest = some r' → r'.holds ≠ some t)
    (settle : ∀ row', db'.transactions.find t = some row' →
      ∃ row, db.transactions.find t = some row ∧ (Fits row (db.standing t) →
        call.Keeps row (db.standing t) (db.returnedBy t) → Fits row' (db'.standing t) ∧
          InStep row' (db'.standing t) (db'.returnedBy t))) :
    AccountedAt db' (resume running i rest) t := by
  intro row' found
  obtain ⟨row, stored, calm⟩ := settle row' found
  obtain ⟨fits, keeps, left⟩ := before.own place has stored
  obtain ⟨fits', inStep⟩ := calm fits keeps
  refine ⟨fits', .inl ⟨?_, inStep⟩⟩
  rw [left, List.filter_eq_nil_iff]
  intro r' mem
  simpa using gone r' (Option.mem_toList.mp mem)

theorem AccountedAt.goes (before : AccountedAt db running t) (place : running[i]? = some call)
    (has : call.holds = some t) (goes : r'.holds = some t)
    (settle : ∀ row', db'.transactions.find t = some row' →
      ∃ row, db.transactions.find t = some row ∧ (Fits row (db.standing t) →
        call.Keeps row (db.standing t) (db.returnedBy t) → Fits row' (db'.standing t) ∧
          r'.Keeps row' (db'.standing t) (db'.returnedBy t))) :
    AccountedAt db' (resume running i (some r')) t := by
  intro row' found
  obtain ⟨row, stored, kept⟩ := settle row' found
  obtain ⟨fits, keeps, left⟩ := before.own place has stored
  obtain ⟨fits', keeps'⟩ := kept fits keeps
  refine ⟨fits', .inr ⟨r', ?_, keeps'⟩⟩
  rw [left]
  simp [goes]

theorem accounted_idle (before : ∀ t, AccountedAt db running t) (place : running[i]? = some call)
    (out : call.holds = none) (stays : ∀ r', rest = some r' → r'.holds = none) (t : MovementId) :
    AccountedAt db (resume running i rest) t :=
  (before t).same place (by simp [out]) (fun r' left => by simp [stays r' left]) rfl rfl rfl

variable {f : BankTransaction → BankTransaction} {part : MatchPart} {queue : AutoQueue} {invoiceId : InvoiceId}
  {cents : ℤ} {u : Undo}

theorem find_update_self {row' : BankTransaction} (found : (db.update t f).transactions.find t = some row') :
    ∃ row, db.transactions.find t = some row ∧ row' = f row := by
  rw [BankDb.update, Table.find_modify_self] at found
  obtain ⟨row, stored, rfl⟩ := Option.map_eq_some_iff.mp found
  exact ⟨row, stored, rfl⟩

variable {t' : MovementId} {r : BankCall} {plan : List MatchPart} {status : MovementStatus} {s : State BankDb BankCall}

variable (before : ∀ t, AccountedAt db running t) (place : running[i]? = some call)
include before place

theorem accounted_update (own : ∀ t, call.holds = some t → t = t')
    (stays : ∀ r', rest = some r' → ∀ t, r'.holds = some t → t = t')
    (self : AccountedAt (db.update t' f) (resume running i rest) t') (t : MovementId) :
    AccountedAt (db.update t' f) (resume running i rest) t := by
  by_cases same : t = t'
  · subst same
    exact self
  · exact (before t).same place (fun has => same (own t has))
      (fun r' left has => same (stays r' left t has)) (Table.find_modify_ne _ same _) rfl rfl

/-- A request that goes on with its movement leaves the others to whoever has them. -/
theorem accounted_goesOn (has : call.holds = some t')
    (stays : ∀ r', rest = some r' → ∀ t, r'.holds = some t → t = t')
    (self : AccountedAt db (resume running i rest) t') (t : MovementId) :
    AccountedAt db (resume running i rest) t := by
  by_cases same : t = t'
  · subst same
    exact self
  · refine (before t).same place (fun has' => same ?_)
      (fun r' left has' => same (stays r' left t has')) rfl rfl rfl
    exact Option.some.inj (has'.symm.trans has)

theorem accounted_continues (has : call.holds = some t') (goes : r'.holds = some t')
    (keeps : ∀ row, db.transactions.find t' = some row → call.Keeps row (db.standing t') (db.returnedBy t') →
      r'.Keeps row (db.standing t') (db.returnedBy t')) (t : MovementId) :
    AccountedAt db (resume running i (some r')) t := by
  refine accounted_goesOn before place has (fun r'' left t has => ?_) ?_ t
  · cases left
    exact Option.some.inj (has.symm.trans goes)
  · exact (before t').goes place has goes fun row stored =>
      ⟨row, stored, fun fits kept => ⟨fits, keeps row stored kept⟩⟩

/-- A request that leaves its movement in step when it writes it. -/
theorem accounted_leaves (has : call.holds = some t) (gone : ∀ r', rest = some r' → r'.holds = none)
    (amount : ∀ row, (f row).amount = row.amount)
    (settle : ∀ row, db.transactions.find t = some row → call.Keeps row (db.standing t) (db.returnedBy t) →
      InStep (f row) (db.standing t) (db.returnedBy t)) (t' : MovementId) :
    AccountedAt (db.update t f) (resume running i rest) t' := by
  refine accounted_update before place (fun t'' has' => Option.some.inj (has'.symm.trans has))
    (fun r' left t'' has' => ?_) ?_ t'
  · rw [gone r' left] at has'
    cases has'
  · refine (before t).ends place has (fun r' left has' => ?_) fun row' found => ?_
    · rw [gone r' left] at has'
      cases has'
    · obtain ⟨row, stored, rfl⟩ := find_update_self found
      exact ⟨row, stored, fun fits keeps =>
        ⟨⟨(amount row).symm ▸ fits.bound, (amount row).symm ▸ fits.credit⟩, settle row stored keeps⟩⟩

theorem accounted_lost (has : call.holds = some t) (gone : ∀ r', rest = some r' → r'.holds = none)
    (lost : ∀ row, db.transactions.find t = some row → ¬call.Keeps row (db.standing t) (db.returnedBy t))
    (t' : MovementId) : AccountedAt db (resume running i rest) t' := by
  refine accounted_goesOn before place has (fun r' left t'' has' => ?_) (fun row stored => ?_) t'
  · rw [gone r' left] at has'
    cases has'
  · exact absurd ((before t).own place has stored).2.1 (lost row stored)

/-- The requests that answer for their movement when a transaction of theirs fails. -/
def BankCall.mayFail : BankCall → Bool
  | .releasing _ _ | .autoFinding _ _ _ | .autoLinking _ _ _ | .autoReleasing _ _ | .restoring _ _ =>
    false
  | _ => true

theorem accounted_caught (may : call.mayFail = true) (t : MovementId) :
    AccountedAt db (resume running i call.caught) t := by
  cases call with
  | paying t' part plan applied =>
    cases applied with
    | true =>
      refine accounted_goesOn before place rfl goesOn_none ?_ t
      refine (before t').ends place rfl goesOn_none fun row stored =>
        ⟨row, stored, fun fits keeps => ⟨fits, ?_⟩⟩
      obtain ⟨matched, byHand, none_back, paid, -⟩ := keeps
      exact .of_matched matched (paid.mp rfl) none_back fun auto => by simp [byHand] at auto
    | false =>
      refine accounted_continues before place rfl rfl (fun row stored keeps => ?_) t
      obtain ⟨matched, byHand, none_back, paid, -⟩ := keeps
      exact ⟨matched, .inl rfl, byHand, none_back, by simpa using paid⟩
  | reverting t' invoiceId cents =>
    refine accounted_continues before place rfl rfl (fun row stored keeps => ?_) t
    obtain ⟨back, byHand, none_back, unpaid⟩ := keeps
    exact ⟨back, .inr rfl, byHand, none_back, unpaid⟩
  | autoPaying t' part queue =>
    refine accounted_continues before place rfl rfl (fun row stored keeps => ?_) t
    obtain ⟨matched, none_back, unpaid, -⟩ := keeps
    exact ⟨matched, none_back, unpaid⟩
  | revertingUndo t' u => exact accounted_continues before place rfl rfl (fun _ _ keeps => by exact keeps) t
  | releasing | autoFinding | autoLinking | autoReleasing | restoring => cases may
  | _ => exact accounted_idle before place rfl goesOn_none t

omit before place

/-- A movement that a request has is free again only while it is being undone. -/
theorem BankCall.Keeps.undoes (keeps : r.Keeps row standing returned) (pending : row.status = .pending) :
    ∃ t u, r = .revertingUndo t u ∨ r = .restoring t u := by
  cases r with
  | revertingUndo t u => exact ⟨t, u, .inl rfl⟩
  | restoring t u => exact ⟨t, u, .inr rfl⟩
  | releasing t status =>
    obtain ⟨same, which, -⟩ := keeps
    rw [pending] at same
    subst same
    rcases which with h | h <;> cases h
  | paying | reverting | autoPaying | autoFinding | autoLinking | autoReleasing =>
    have taken := keeps.1
    rw [pending] at taken
    cases taken
  | _ => exact keeps.elim

theorem BankCall.Keeps.pending (keeps : r.Keeps row standing returned) (pending : row.status = .pending) :
    standing ≠ [] := by
  obtain ⟨t, u, rfl | rfl⟩ := keeps.undoes pending <;>
    obtain ⟨-, -, -, cents, only⟩ := keeps <;> simp [only]

theorem accounted_pays {ref : PaymentRef} (known : db.Known) (before : ∀ t, AccountedAt db running t)
    (place : running[i]? = some call) (pays : Pays db t part db' ref) (has : call.holds = some t)
    (stays : ∀ r', rest = some r' → ∀ t', r'.holds = some t' → t' = t)
    (self : AccountedAt db' (resume running i rest) t) (t' : MovementId) :
    AccountedAt db' (resume running i rest) t' := by
  by_cases same : t' = t
  · subst same
    exact self
  · refine (before t').same place (fun has' => same ?_) (fun r' left has' => same ?_) ?_ ?_ ?_
    · exact Option.some.inj (has'.symm.trans has)
    · exact stays r' left t' has'
    · rw [pays.transactions]
    · rw [pays.standing known, if_neg same, List.nil_append]
    · rw [BankDb.returnedBy, BankDb.returnedBy, pays.reverted]

abbrev CommitAccounted (db : BankDb) (running : List BankCall) (i : ℕ) (call : BankCall) (input : BankInput)
    (t : MovementId) : Prop :=
  AccountedAt (commitBank db call input).1 (resume running i (commitBank db call input).2) t

theorem plan_nonneg (plan : List MatchPart) : 0 ≤ (plan.map MatchPart.cents).sum := by
  apply List.sum_nonneg
  intro cents mem
  obtain ⟨part, -, rfl⟩ := List.mem_map.mp mem
  exact part.positive.le

variable {t : MovementId}

theorem commit_paying {applied : Bool} (known : db.Known) (before : ∀ t, AccountedAt db running t)
    (place : running[i]? = some (.paying t part plan applied)) (t' : MovementId) :
    CommitAccounted db running i (.paying t part plan applied) input t' := by
  simp only [CommitAccounted, commitBank]
  split
  · exact accounted_caught before place rfl t'
  · rename_i paid made
    obtain ⟨ref, pays⟩ := pay_pays made
    have grown : paid.standing t = (ref, part.cents) :: db.standing t := by
      rw [pays.standing known, if_pos rfl]
      rfl
    have none_back : paid.returnedBy t = db.returnedBy t := by
      rw [BankDb.returnedBy, BankDb.returnedBy, pays.reverted]
    cases plan with
    | nil =>
      refine accounted_pays known before place pays rfl goesOn_none ?_ t'
      refine (before t).ends place rfl goesOn_none fun row found => ?_
      rw [pays.transactions] at found
      refine ⟨row, found, fun fits keeps => ?_⟩
      obtain ⟨matched, byHand, unreturned, -, credit, bound⟩ := keeps
      rw [grown, none_back]
      refine ⟨⟨?_, fun _ => credit⟩, .of_matched matched (by simp) unreturned ?_⟩
      · simp only [List.map_nil, List.sum_nil, List.map_cons, List.sum_cons] at bound ⊢
        lia
      · simp [byHand]
    | cons next plan =>
      refine accounted_pays known before place pays rfl (fun r' left t' has => ?_) ?_ t'
      · cases left
        exact (Option.some.inj has).symm
      · refine (before t).goes place rfl rfl fun row found => ?_
        rw [pays.transactions] at found
        refine ⟨row, found, fun fits keeps => ?_⟩
        obtain ⟨matched, byHand, unreturned, -, credit, bound⟩ := keeps
        rw [grown, none_back]
        simp only [List.map_cons, List.sum_cons] at bound
        have positive := next.positive
        have nonneg := plan_nonneg plan
        refine ⟨⟨?_, fun _ => credit⟩, matched, byHand, unreturned, by simp, credit, ?_⟩
        · simp only [List.map_cons, List.sum_cons]
          lia
        · simp only [List.map_cons, List.sum_cons]
          lia

theorem commit_autoPaying (known : db.Known) (before : ∀ t, AccountedAt db running t)
    (place : running[i]? = some (.autoPaying t part queue)) (t' : MovementId) :
    CommitAccounted db running i (.autoPaying t part queue) input t' := by
  simp only [CommitAccounted, commitBank]
  split
  · exact accounted_caught before place rfl t'
  · rename_i paid made
    obtain ⟨ref, pays⟩ := pay_pays made
    have grown : paid.standing t = (ref, part.cents) :: db.standing t := by
      rw [pays.standing known, if_pos rfl]
      rfl
    refine accounted_pays known before place pays rfl (fun r' left t' has => ?_) ?_ t'
    · cases left
      exact (Option.some.inj has).symm
    · refine (before t).goes place rfl rfl fun row found => ?_
      rw [pays.transactions] at found
      refine ⟨row, found, fun fits keeps => ?_⟩
      obtain ⟨matched, unreturned, unpaid, whole⟩ := keeps
      have credit : 0 < row.amount := whole ▸ part.positive
      rw [grown, unpaid, BankDb.returnedBy, pays.reverted]
      refine ⟨⟨?_, fun _ => credit⟩, matched, unreturned, rfl, fun linked same => ?_⟩
      · simp only [List.map_cons, List.map_nil, List.sum_cons, List.sum_nil]
        lia
      · obtain ⟨p, there⟩ := known.linked t row linked found same
        simp only [List.map_cons, List.map_nil, List.mem_singleton]
        rintro rfl
        rw [pays.fresh] at there
        cases there

theorem status_eq (is : db.status t = some status) :
    ∃ row, db.transactions.find t = some row ∧ row.status = status :=
  Option.map_eq_some_iff.mp is

theorem accounted_claim (before : ∀ t, AccountedAt db running t) (place : running[i]? = some call)
    (out : call.holds = none) (takes : r.holds = some t) (free : db.status t = some .pending)
    (unpaid : db.standing t = [])
    (keeps : ∀ row, db.transactions.find t = some row → row.autoMatched = false →
      (f row).amount = row.amount ∧ r.Keeps (f row) [] []) (t' : MovementId) :
    AccountedAt (db.update t f) (resume running i (some r)) t' := by
  refine accounted_update before place (fun t'' has => by simp [out] at has) ?_ ?_ t'
  · rintro r' left t'' has
    cases left
    exact Option.some.inj (has.symm.trans takes)
  · refine (before t).claims place takes fun row' found => ?_
    obtain ⟨row, stored, rfl⟩ := find_update_self found
    obtain ⟨row'', stored', pending⟩ := status_eq free
    cases stored.symm.trans stored'
    refine ⟨row, stored, fun r kept => kept.pending pending unpaid, fun fits inStep => ?_⟩
    obtain ⟨-, none_back, byHand⟩ := inStep.pending pending
    obtain ⟨amount, kept⟩ := keeps row stored byHand
    have same : (db.update t f).standing t = [] := unpaid
    have back : (db.update t f).returnedBy t = [] := none_back
    rw [same, back]
    exact ⟨⟨by simp, fun paid => absurd rfl paid⟩, kept⟩

theorem commit_claiming {invoiceId : Option InvoiceId} (sound : (BankCall.claiming t invoiceId plan).Sound db)
    (lasts : input.fails = false) (order : bankInOrder db (.claiming t invoiceId plan) input = true)
    (before : ∀ t, AccountedAt db running t) (place : running[i]? = some (.claiming t invoiceId plan))
    (t' : MovementId) : CommitAccounted db running i (.claiming t invoiceId plan) input t' := by
  simp only [CommitAccounted, commitBank]
  split
  · rename_i free
    have taken : plan ≠ [] ∧ db.standing t = [] := by
      simpa [bankInOrder, BankDb.takes, lasts, free] using order
    cases plan with
    | nil => exact absurd rfl taken.1
    | cons part plan =>
      refine accounted_claim before place rfl rfl free taken.2 (fun row stored byHand => ?_) t'
      have bound := sound row stored
      have positive := part.positive
      have nonneg := plan_nonneg plan
      simp only [List.map_cons, List.sum_cons] at bound
      have credit : 0 < row.amount := by lia
      refine ⟨rfl, rfl, byHand, rfl, by simp, credit, ?_⟩
      show ([] : List ℤ).sum + part.cents + (plan.map MatchPart.cents).sum ≤ row.amount
      simp only [List.sum_nil]
      lia
  · exact accounted_idle before place rfl goesOn_none t'

theorem commit_claimingReturn (sound : (BankCall.claimingReturn t invoiceId cents).Sound db)
    (before : ∀ t, AccountedAt db running t) (place : running[i]? = some (.claimingReturn t invoiceId cents))
    (t' : MovementId) : CommitAccounted db running i (.claimingReturn t invoiceId cents) input t' := by
  simp only [CommitAccounted, commitBank]
  split
  · rename_i free
    obtain ⟨row, stored, pending⟩ := status_eq free
    have debit : row.amount < 0 := sound row stored
    have unpaid : db.standing t = [] := by
      obtain ⟨fits, ⟨-, inStep⟩ | ⟨r, -, keeps⟩⟩ := before t row stored
      · exact (inStep.pending pending).1
      · have credit := fits.credit (keeps.pending pending)
        lia
    refine accounted_claim before place rfl rfl free unpaid (fun row stored byHand => ?_) t'
    exact ⟨rfl, rfl, byHand, rfl, rfl⟩
  · exact accounted_idle before place rfl goesOn_none t'

theorem commit_autoMatching (lasts : input.fails = false) (sound : (BankCall.autoMatching queue).Sound db)
    (order : bankInOrder db (.autoMatching queue) input = true) (before : ∀ t, AccountedAt db running t)
    (place : running[i]? = some (.autoMatching queue)) (t' : MovementId) :
    CommitAccounted db running i (.autoMatching queue) input t' := by
  have goesOn : ∀ queue, AccountedAt db (resume running i (some (.autoMatching queue))) t' :=
    fun queue => accounted_idle before place rfl
      (fun r' left => by
        cases left
        rfl) t'
  obtain ⟨rows, candidates, used⟩ := queue
  cases rows with
  | nil => exact accounted_idle before place rfl goesOn_none t'
  | cons head rows =>
    obtain ⟨t, snapshot⟩ := head
    simp only [CommitAccounted, commitBank]
    split
    · rename_i invoice hit
      split
      · split
        · rename_i positive free
          have unpaid : db.standing t = [] := by
            simpa [bankInOrder, BankDb.takes, lasts, free, hit] using order
          refine accounted_claim before place rfl rfl free unpaid (fun row stored byHand => ?_) t'
          exact ⟨rfl, rfl, rfl, rfl, (sound _ (List.mem_cons_self ..) row stored).symm⟩
        · exact goesOn _
      · exact goesOn _
    · exact goesOn _

include before

theorem commit_releasing (place : running[i]? = some (.releasing t status)) (t' : MovementId) :
    CommitAccounted db running i (.releasing t status) input t' := by
  simp only [CommitAccounted, commitBank]
  split
  · refine accounted_leaves before place rfl goesOn_none (fun _ => by rfl) (fun row stored keeps => ?_) t'
    obtain ⟨-, -, byHand, none_back, unpaid⟩ := keeps
    exact .of_unpaid (.inl rfl) unpaid none_back byHand
  · rename_i lost
    refine accounted_lost before place rfl goesOn_none (fun row stored keeps => lost ?_) t'
    rw [BankDb.status, stored]
    exact congrArg some keeps.1

theorem commit_autoReleasing (place : running[i]? = some (.autoReleasing t queue)) (t' : MovementId) :
    CommitAccounted db running i (.autoReleasing t queue) input t' := by
  have leaves : ∀ r', some (BankCall.autoMatching queue) = some r' → r'.holds = none := by
    rintro r' ⟨⟩
    rfl
  simp only [CommitAccounted, commitBank]
  split
  · refine accounted_leaves before place rfl leaves (fun _ => by rfl) (fun row stored keeps => ?_) t'
    obtain ⟨-, none_back, unpaid⟩ := keeps
    exact .of_unpaid (.inl rfl) unpaid none_back rfl
  · rename_i lost
    refine accounted_lost before place rfl leaves (fun row stored keeps => lost ?_) t'
    rw [BankDb.status, stored]
    exact congrArg some keeps.1

theorem commit_autoLinking {payment : Option PaymentRef} (place : running[i]? = some (.autoLinking t payment queue))
    (t' : MovementId) : CommitAccounted db running i (.autoLinking t payment queue) input t' := by
  refine accounted_leaves before place rfl (by rintro r' ⟨⟩; rfl) (fun _ => by rfl) (fun row stored keeps => ?_) t'
  obtain ⟨matched, none_back, single, -⟩ := keeps
  refine .of_matched matched (fun unpaid => ?_) none_back fun _ => single
  rw [unpaid] at single
  cases single

theorem commit_ignoring (place : running[i]? = some (.ignoring t)) (t' : MovementId) :
    CommitAccounted db running i (.ignoring t) input t' := by
  simp only [CommitAccounted, commitBank]
  split
  · rename_i free
    refine accounted_update before place (fun t'' has => by cases has) goesOn_none ?_ t'
    refine (before t).changes place (fun has => by cases has) goesOn_none
      fun row' found => ?_
    obtain ⟨row, stored, rfl⟩ := find_update_self found
    obtain ⟨row'', stored', pending⟩ := status_eq free
    cases stored.symm.trans stored'
    refine ⟨row, stored, fun fits => ⟨fits.bound, fits.credit⟩, fun inStep => ?_, fun r keeps => ?_⟩
    · obtain ⟨unpaid, none_back, byHand⟩ := inStep.pending pending
      exact .of_unpaid (.inr rfl) unpaid none_back byHand
    · obtain ⟨t, u, rfl | rfl⟩ := keeps.undoes pending <;> exact ⟨.inr rfl, keeps.2⟩
  · exact accounted_idle before place rfl goesOn_none t'

theorem commit_clearing (place : running[i]? = some (.clearing t)) (t' : MovementId) :
    CommitAccounted db running i (.clearing t) input t' := by
  refine accounted_update before place (fun t'' has => by cases has) goesOn_none ?_ t'
  refine (before t).changes place (fun has => by cases has) goesOn_none
    fun row' found => ?_
  obtain ⟨row, stored, rfl⟩ := find_update_self found
  refine ⟨row, stored, fun fits => ⟨fits.bound, fits.credit⟩,
    fun inStep => ⟨inStep.matched, inStep.returned, inStep.auto⟩, fun r keeps => ?_⟩
  cases r with
  | autoFinding | autoLinking =>
    obtain ⟨matched, none_back, single, -⟩ := keeps
    exact ⟨matched, none_back, single, fun ref linked => by cases linked⟩
  | _ => exact keeps

omit before

theorem commit_claimingUndo (lasts : input.fails = false) (order : bankInOrder db (.claimingUndo t u) input = true)
    (before : ∀ t, AccountedAt db running t) (place : running[i]? = some (.claimingUndo t u)) (t' : MovementId) :
    CommitAccounted db running i (.claimingUndo t u) input t' := by
  simp only [CommitAccounted, commitBank]
  split
  · rename_i takes
    obtain ⟨row, stored, taken⟩ := Option.any_eq_true _ _ |>.mp takes
    simp only [Bool.and_eq_true, decide_eq_true_eq] at taken
    obtain ⟨matched, auto⟩ := taken
    have paid : row.matchedPaymentId = some u.payment ∧
        u.payment ∈ (db.standing t).map Prod.fst := by
      simpa [bankInOrder, lasts, stored, matched, auto] using order
    refine accounted_update before place (fun t'' has => by cases has) (fun r' left t'' has => ?_)
      ?_ t'
    · cases left
      exact (Option.some.inj has).symm
    · refine (before t).claims place rfl fun row' found => ?_
      obtain ⟨row'', stored', rfl⟩ := find_update_self found
      cases stored.symm.trans stored'
      refine ⟨row, stored, fun r keeps => ?_, fun fits inStep => ?_⟩
      · cases r with
        | paying =>
          have byHand := keeps.2.1
          rw [auto] at byHand
          cases byHand
        | releasing =>
          have byHand := keeps.2.2.1
          rw [auto] at byHand
          cases byHand
        | reverting =>
          have byHand := keeps.2.1
          rw [auto] at byHand
          cases byHand
        | revertingUndo | restoring =>
          have byHand := keeps.2.1
          rw [auto] at byHand
          cases byHand
        | autoFinding | autoLinking => exact keeps.2.2.2 u.payment paid.1 paid.2
        | autoPaying =>
          have mem := paid.2
          rw [keeps.2.2.1] at mem
          cases mem
        | autoReleasing =>
          have mem := paid.2
          rw [keeps.2.2] at mem
          cases mem
        | _ => exact keeps.elim
      · obtain ⟨⟨ref, cents⟩, only⟩ := List.length_eq_one_iff.mp (inStep.auto auto)
        have mem := paid.2
        rw [only] at mem
        cases List.mem_singleton.mp mem
        refine ⟨⟨fits.bound, fits.credit⟩, .inl rfl, rfl, ?_, cents, only⟩
        by_contra back
        have returned := inStep.returned.mpr back
        rw [matched] at returned
        cases returned
  · exact accounted_idle before place rfl goesOn_none t'

theorem commit_restoring (before : ∀ t, AccountedAt db running t) (place : running[i]? = some (.restoring t u))
    (t' : MovementId) : CommitAccounted db running i (.restoring t u) input t' := by
  refine accounted_leaves before place rfl (by rintro r' ⟨⟩) (fun _ => by rfl) (fun row stored keeps => ?_) t'
  obtain ⟨-, -, none_back, cents, only⟩ := keeps
  rw [only]
  exact .of_matched rfl (by simp) none_back fun _ => rfl

theorem commit_revertingUndo (known : db.Known) (sound : (BankCall.revertingUndo t u).Sound db)
    (before : ∀ t, AccountedAt db running t) (place : running[i]? = some (.revertingUndo t u)) (t' : MovementId) :
    CommitAccounted db running i (.revertingUndo t u) input t' := by
  simp only [CommitAccounted, commitBank]
  split
  · exact accounted_caught before place rfl t'
  · rename_i home
    split
    · exact accounted_caught before place rfl t'
    · rename_i reopened refs done
      obtain ⟨reverts, named⟩ := revert_reverts done
      have only : refs = [u.payment] := by
        rw [named u.payment.paymentId rfl, ← not_not.mp home]
      by_cases same : t' = t
      · subst same
        refine (before t').ends place rfl (fun r' left has => by
          cases left
          cases has) fun row found => ?_
        rw [reverts.transactions] at found
        refine ⟨row, found, fun fits keeps => ?_⟩
        obtain ⟨idle, byHand, none_back, cents, single⟩ := keeps
        have gone : reopened.standing t' = [] := by
          refine List.eq_nil_iff_forall_not_mem.mpr fun p mem => ?_
          obtain ⟨ref, cents'⟩ := p
          obtain ⟨made, live⟩ := mem_standing.mp mem
          rw [reverts.live, only] at live
          split at live
          · cases live
          · rename_i other
            rw [reverts.made] at made
            have mem := mem_standing.mpr ⟨made, live⟩
            rw [single, List.mem_singleton] at mem
            cases mem
            exact other (List.mem_singleton_self _)
        have back : reopened.returnedBy t' = [] := by
          rw [BankDb.returnedBy, reverts.reverted]
          exact none_back
        rw [gone, back]
        exact ⟨⟨by simp, fun paid => absurd rfl paid⟩, .of_unpaid idle rfl rfl byHand⟩
      · refine (before t').same place (fun has => same (Option.some.inj has).symm)
          (fun r' left has => by
            cases left
            cases has) (by rw [reverts.transactions]) ?_ ?_
        · refine reverts.standing fun ref mem made => ?_
          rw [only, List.mem_singleton] at mem
          subst mem
          have twice := List.inj_on_of_nodup_map known.once made sound rfl
          cases twice
          exact same rfl
        · rw [BankDb.returnedBy, BankDb.returnedBy, reverts.reverted]

theorem revert_chosen {clock : Clock} {refs : List PaymentRef}
    (done : db.revert invoiceId ⟨euros cents, none, false⟩ clock = some (db', refs)) :
    ∃ a, db.accounts.find invoiceId = some a ∧ refs = a.chosen invoiceId cents ∧
      0 < a.invoice.amountPaid := by
  obtain ⟨a, found, h⟩ := Option.bind_eq_some_iff.mp done
  obtain ⟨b, reverted, same⟩ := Option.map_eq_some_iff.mp h
  cases same
  refine ⟨a, found, rfl, ?_⟩
  obtain ⟨reopened, made, -⟩ := Outcome.bind_ok (Outcome.ok_of_toOption reverted)
  simp only [revertPayment] at made
  obtain ⟨_, paid, -⟩ := Outcome.bind_ok made
  simpa [NotedAccount.account] using refuseIf_ok paid

theorem commit_reverting (lasts : input.fails = false)
    (order : bankInOrder db (.reverting t invoiceId cents) input = true) (before : ∀ t, AccountedAt db running t)
    (place : running[i]? = some (.reverting t invoiceId cents)) (t' : MovementId) :
    CommitAccounted db running i (.reverting t invoiceId cents) input t' := by
  simp only [CommitAccounted, commitBank]
  split
  · exact accounted_caught before place rfl t'
  · rename_i reopened refs done
    obtain ⟨a, found, rfl, positive⟩ := revert_chosen done
    obtain ⟨reverts, -⟩ := revert_reverts done
    have fits : a.chosen invoiceId cents ≠ [] ∧
        ∀ ref ∈ a.chosen invoiceId cents, ref ∉ db.made.map Prod.snd := by
      simpa [bankInOrder, lasts, found, not_le.mpr positive] using order
    have standing : ∀ t, reopened.standing t = db.standing t := fun t =>
      reverts.standing fun ref mem made => fits.2 ref mem (List.mem_map_of_mem made)
    by_cases same : t' = t
    · subst same
      refine (before t').ends place rfl goesOn_none fun row stored => ?_
      dsimp only at stored
      rw [reverts.transactions] at stored
      refine ⟨row, stored, fun fitted keeps => ?_⟩
      obtain ⟨back, byHand, -, unpaid⟩ := keeps
      rw [← standing t'] at unpaid fitted
      refine ⟨fitted, ⟨⟨fun matched => ?_, fun paid => absurd unpaid paid⟩,
        ⟨fun _ => ?_, fun _ => back⟩, fun auto => by simp [byHand] at auto⟩⟩
      · rw [back] at matched
        cases matched
      · obtain ⟨ref, mem⟩ := List.exists_mem_of_ne_nil _ fits.1
        refine List.ne_nil_of_mem (a := (t', ref)) (List.mem_filter.mpr ⟨?_, by simp⟩)
        exact List.mem_append_left _ (List.mem_map_of_mem mem)
    · refine (before t').same place (fun has => same (Option.some.inj has).symm)
        goesOn_none (by dsimp only; rw [reverts.transactions]) (standing t') ?_
      have others : ((a.chosen invoiceId cents).map fun ref => (t, ref)).filter
          (fun m => m.1 = t') = [] := by
        refine List.filter_eq_nil_iff.mpr fun m mem => ?_
        obtain ⟨ref, -, rfl⟩ := List.mem_map.mp mem
        simpa using Ne.symm same
      rw [BankDb.returnedBy, BankDb.returnedBy, List.filter_append, others, reverts.reverted,
        List.nil_append]

theorem nextBank_accounted (known : db.Known) (sound : call.Sound db)
    (order : bankInOrder db call input = true) (before : ∀ t, AccountedAt db running t)
    (place : running[i]? = some call) (t : MovementId) :
    AccountedAt (nextBank db call input).1 (resume running i (nextBank db call input).2) t := by
  rw [nextBank]
  split
  · rename_i fails
    refine accounted_caught before place ?_ t
    cases call with
    | releasing | autoFinding | autoLinking | autoReleasing | restoring =>
      simp [bankInOrder, fails] at order
    | _ => rfl
  rename_i lasts
  rw [Bool.not_eq_true] at lasts
  have idle : ∀ rest : Option BankCall, call.holds = none → (∀ r', rest = some r' → r'.holds = none) →
      AccountedAt db (resume running i rest) t := fun _ out stays =>
    accounted_idle before place out stays t
  have goes : ∀ r : BankCall, call.holds = none → r.holds = none → AccountedAt db (resume running i (some r)) t :=
    fun r out free => idle _ out (by rintro r' ⟨⟩; exact free)
  cases call with
  | matching t' invoiceIds =>
    simp only [commitBank]
    split
    · exact idle none rfl goesOn_none
    · split
      · exact idle none rfl goesOn_none
      · exact goes _ rfl rfl
  | planning t' amount invoiceIds =>
    simp only [commitBank]
    split
    · exact idle none rfl goesOn_none
    · exact goes _ rfl rfl
  | claiming t' invoiceId plan => exact commit_claiming sound lasts order before place t
  | paying t' part plan applied => exact commit_paying known before place t
  | releasing t' status => exact commit_releasing before place t
  | returning t' invoiceId =>
    simp only [commitBank]
    split
    · exact idle none rfl goesOn_none
    · split
      · exact idle none rfl goesOn_none
      · exact goes _ rfl rfl
  | readingPaid t' amount invoiceId =>
    simp only [commitBank]
    split
    · exact idle none rfl goesOn_none
    · exact goes _ rfl rfl
  | claimingReturn t' invoiceId cents => exact commit_claimingReturn sound before place t
  | reverting t' invoiceId cents => exact commit_reverting lasts order before place t
  | ignoring t' => exact commit_ignoring before place t
  | collecting statementIds =>
    simp only [commitBank]
    split
    · exact idle none rfl goesOn_none
    · exact goes _ rfl rfl
  | loadingCandidates rows =>
    exact goes _ rfl rfl
  | autoMatching queue => exact commit_autoMatching lasts sound order before place t
  | autoPaying t' part queue => exact commit_autoPaying known before place t
  | autoFinding t' invoiceId queue =>
    exact accounted_continues before place rfl rfl (fun _ _ keeps => by exact keeps) t
  | autoLinking t' payment queue => exact commit_autoLinking before place t
  | autoReleasing t' queue => exact commit_autoReleasing before place t
  | undoing t' =>
    simp only [commitBank]
    split
    · exact idle none rfl goesOn_none
    · split
      · split
        · exact goes _ rfl rfl
        · exact idle none rfl goesOn_none
      · exact idle none rfl goesOn_none
  | claimingUndo t' u => exact commit_claimingUndo lasts order before place t
  | revertingUndo t' u => exact commit_revertingUndo known sound before place t
  | restoring t' u => exact commit_restoring before place t
  | clearing t' => exact commit_clearing before place t

/-! ### Runs -/

/-- The status of every movement tells whether a payment made from it stands, or a return has reverted
one. -/
structure BankDb.Reconciled (db : BankDb) : Prop where
  matched : ∀ t row, db.transactions.find t = some row →
    (row.status = .matched ↔ ∃ ref cents, (t, ref) ∈ db.made ∧ db.live ref = some cents)
  returned : ∀ t row, db.transactions.find t = some row → (row.status = .returned ↔
    ∃ ref p, (t, ref) ∈ db.reverted ∧ db.payment ref = some p ∧ p.status = .failed)

/-- The payments of a credit that stand are within it, those of a debit are none, and with no request
under way the movements are reconciled. -/
structure MovementsUsedOnce (s : State BankDb BankCall) : Prop where
  within : ∀ t row, s.db.transactions.find t = some row → s.db.used t ≤ max 0 row.amount
  atRest : s.running = [] → s.db.Reconciled

/-- No request is under way, and nothing has been made of any movement. -/
structure BankQuiet (s : State BankDb BankCall) : Prop where
  running : s.running = []
  made : s.db.made = []
  reverted : s.db.reverted = []
  rows : ∀ t row, s.db.transactions.find t = some row →
    (row.status = .pending ∨ row.status = .ignored) ∧ row.autoMatched = false ∧
      row.matchedPaymentId = none

theorem BankQuiet.accounted (quiet : BankQuiet s) (t : MovementId) :
    AccountedAt s.db s.running t := by
  intro row found
  obtain ⟨out, byHand, -⟩ := quiet.rows t row found
  have unpaid : s.db.standing t = [] := by simp [BankDb.standing, quiet.made]
  have none_back : s.db.returnedBy t = [] := by simp [BankDb.returnedBy, quiet.reverted]
  rw [unpaid, none_back, quiet.running]
  exact ⟨⟨by simp, fun paid => absurd rfl paid⟩, .inl ⟨rfl, .of_unpaid out rfl rfl byHand⟩⟩

theorem BankQuiet.known (quiet : BankQuiet s) : s.db.Known := by
  refine ⟨by simp [quiet.made], fun t row ref found linked => ?_, by simp [quiet.made],
    by simp [quiet.reverted]⟩
  rw [(quiet.rows t row found).2.2] at linked
  cases linked

theorem AccountedAt.reconciled (known : db.Known) (all : ∀ t, AccountedAt db [] t) :
    db.Reconciled := by
  have calm : ∀ t row, db.transactions.find t = some row →
      InStep row (db.standing t) (db.returnedBy t) := by
    intro t row found
    obtain ⟨-, ⟨-, inStep⟩ | ⟨r, only, -⟩⟩ := all t row found
    · exact inStep
    · cases only
  constructor
  · intro t row found
    rw [(calm t row found).matched]
    constructor
    · intro paid
      obtain ⟨⟨ref, cents⟩, mem⟩ := List.exists_mem_of_ne_nil _ paid
      exact ⟨ref, cents, mem_standing.mp mem⟩
    · rintro ⟨ref, cents, stands⟩
      exact List.ne_nil_of_mem (mem_standing.mpr stands)
  · intro t row found
    rw [(calm t row found).returned]
    constructor
    · intro back
      obtain ⟨⟨t', ref⟩, mem⟩ := List.exists_mem_of_ne_nil _ back
      obtain ⟨lost, same⟩ := List.mem_filter.mp mem
      cases of_decide_eq_true same
      obtain ⟨p, held, failed⟩ := known.failed _ lost
      exact ⟨ref, p, lost, held, failed⟩
    · rintro ⟨ref, p, mem, -⟩
      exact List.ne_nil_of_mem (List.mem_filter.mpr ⟨mem, decide_eq_true rfl⟩)

/-- In every run in order each movement is used once. -/
theorem movements_used_once {s t : State BankDb BankCall} (quiet : BankQuiet s)
    (run : Run bankSystem.step (System.admits fun db r input => bankInOrder db r input = true) s t) :
    MovementsUsedOnce t := by
  have all := System.invariant_with (P := BankDb.Known) (Q := fun db r => r.Sound db)
    (J := fun s => ∀ t, AccountedAt s.db s.running t) run
    quiet.known (by simp [quiet.running]) quiet.accounted
    (fun {db request r} _ entered => ?_)
    (fun {db r input db' rest} known sound order made => ?_)
    (fun {db running request r} _ before entered t => ?_)
    (fun {db running i r input db' rest} known sound before order place made => ?_)
  · obtain ⟨known, -, accounted⟩ := all
    constructor
    · intro t row found
      exact (accounted t row found).1.bound
    · intro finished
      rw [finished] at accounted
      exact AccountedAt.reconciled known accounted
  · cases request <;> cases entered <;> trivial
  · have same : nextBank db r input = (db', rest) := Option.some.inj made
    have write : BankWrite db (nextBank db r input).1 := nextBank_write sound
    have left := nextBank_rest sound order
    rw [same] at write left
    exact ⟨write.known known, left, fun _ before => before.follow write.follows⟩
  · have out : r.holds = none := by cases request <;> cases entered <;> rfl
    intro row found
    rw [List.filter_append]
    simpa [out] using before t row found
  · have accounted := nextBank_accounted known sound order before place
    have same : nextBank db r input = (db', rest) := Option.some.inj made
    rw [same] at accounted
    exact accounted

def invoiceToMatch (status : InvoiceStatus) (amountPaid : ℤ) : NotedAccount where
  invoice := { draftInvoice 1 0 0 6000 with status, amountPaid, invoiceNumber := "F-1" }
  payments := Table.empty

def transferIn : BankTransaction where
  statementId := 0
  operationDate := some 0
  amount := 6000
  reference1 := none
  reference2 := none
  documentNumber := none
  description := some "Pago F-1"
  status := .pending
  matchedInvoiceId := none
  matchedAt := none
  autoMatched := false
  matchedPaymentId := none

def oneTransfer (a : NotedAccount) : State BankDb BankCall :=
  ⟨⟨Table.empty.push transferIn, Table.empty.push a, [], []⟩, []⟩

theorem oneTransfer_quiet (a : NotedAccount) : BankQuiet (oneTransfer a) where
  running := rfl
  made := rfl
  reverted := rfl
  rows t row found := by
    cases List.mem_singleton.mp (Table.find_eq_some.mp found)
    exact ⟨.inl rfl, rfl, rfl⟩

def onBankDay (day : Date) : BankInput := ⟨noon day, false, fun _ => false⟩

/-- The transfer is matched while somebody matches it by hand, in vain; undone, it is matched by
hand. -/
theorem movements_used_once_undone :
    ∃ t : State BankDb BankCall, t.db.status 0 = some .matched ∧ t.db.used 0 = 6000 ∧
      t.db.made.length = 2 ∧ MovementsUsedOnce t := by
  obtain ⟨t, run, left⟩ := Run.exists_of_exec bankSystem.step
    (System.admits fun db r input => bankInOrder db r input = true) (oneTransfer (invoiceToMatch .issued 0))
    ([.start (.autoMatch [0]), .start (.matchTransaction 0 [0]), .advance 1 (onBankDay 0),
      .advance 1 (onBankDay 0)] ++ List.replicate 3 (.advance 0 (onBankDay 0)) ++
      [.advance 1 (onBankDay 0)] ++ List.replicate 4 (.advance 0 (onBankDay 0)) ++
      [.start (.undoAutoMatch 0)] ++ List.replicate 4 (.advance 0 (onBankDay 1)) ++
      [.start (.matchTransaction 0 [0])] ++ List.replicate 4 (.advance 0 (onBankDay 2)))
    (fun t => t.db.status 0 = some .matched && t.db.used 0 = 6000 && t.db.made.length = 2)
    (by decide +kernel)
  simp only [Bool.and_eq_true, decide_eq_true_eq] at left
  exact ⟨t, left.1.1, left.1.2, left.2, movements_used_once (oneTransfer_quiet _) run⟩

/-- The transfer is matched by hand with an invoice paid in full: nothing is paid with it, and it stays
matched. -/
theorem movements_not_used_once :
    ¬∀ s t : State BankDb BankCall, BankQuiet s → Reaches bankSystem.step s t →
      MovementsUsedOnce t := by
  intro always
  obtain ⟨t, run, left⟩ := Run.exists_of_exec bankSystem.step (fun _ _ => True)
    (oneTransfer (invoiceToMatch .paid 6000))
    [.start (.matchTransaction 0 [0]), .advance 0 (onBankDay 0), .advance 0 (onBankDay 0),
      .advance 0 (onBankDay 0)]
    (fun t => t.running.isEmpty && t.db.made.isEmpty && t.db.status 0 = some .matched)
    (by decide +kernel)
  simp only [Bool.and_eq_true, List.isEmpty_iff, decide_eq_true_eq] at left
  obtain ⟨⟨finished, nothing⟩, matched⟩ := left
  obtain ⟨row, found, status⟩ := status_eq matched
  obtain ⟨ref, cents, mem, -⟩ :=
    (((always _ t (oneTransfer_quiet _) run).atRest finished).matched 0 row found).mp status
  simp [nothing] at mem

end StorageOS
