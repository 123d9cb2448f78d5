import StorageOS.Billing.AeatSubmission

/-! What the answers of the AEAT tell about the record that it holds, and what the steps of the requests
do. -/

namespace StorageOS

open Processes

variable {db db' : VerifactuDb} {call : VerifactuCall} {input : VerifactuInput}
  {rest : Option VerifactuCall} {response : Option SoapResponse}
  {before registers registered : Option AeatVerdict} {id : InvoiceId} {inv : VerifactuInvoice}

/-! ### Answers -/

theorem isAccepted_stored (status : AeatStatus) : status.stored.isAccepted = status.isAccepted := by
  cases status <;> rfl

theorem stored_eq_rejected {status : AeatStatus} :
    status.stored = .rejected ↔ status = .rejected := by
  cases status <;> simp [AeatStatus.stored]

theorem getStatus_truth (truth : response.all (fun r => r.answersStatus registered) = true) :
    ((getStatus response).status.isAccepted = true →
      ∃ verdict, registered = some verdict ∧ (getStatus response).status = verdict.status) ∧
      ((getStatus response).status = .rejected → registered = none) := by
  cases response with
  | none => exact ⟨nofun, nofun⟩
  | some r =>
    simp only [getStatus, Option.map_some, Option.getD_some, parseStatusResponse,
      SoapResponse.answersStatus, Option.all_some] at *
    by_cases server : 500 ≤ r.status
    · rw [if_pos server]
      exact ⟨nofun, nofun⟩
    · simp only [server, decide_false, Bool.false_or, if_false] at *
      cases answer : r.verdict with
      | some verdict =>
        simp only [answer, decide_eq_true_eq] at *
        exact ⟨fun _ => ⟨verdict, truth, rfl⟩, fun rejected => by cases verdict <;> cases rejected⟩
      | none =>
        simp only [answer] at *
        split
        · rename_i incorrect
          exact ⟨nofun, fun _ => by simpa [incorrect] using truth⟩
        · split <;> exact ⟨nofun, nofun⟩

theorem sendInvoice_accepted
    (truth : response.all (fun r => r.answersAlta before registers) = true)
    (accepted : (sendInvoice response).status.isAccepted = true) :
    ∃ verdict, registers = some verdict ∧ (sendInvoice response).status = verdict.status := by
  cases response with
  | none => cases accepted
  | some r =>
    simp only [sendInvoice, Option.map_some, Option.getD_some, parseResponse,
      SoapResponse.answersAlta, Option.all_some] at *
    by_cases server : 500 ≤ r.status
    · rw [if_pos server] at accepted
      cases accepted
    · simp only [server, decide_false, Bool.false_or, if_false] at *
      cases fault : r.faultstring with
      | some text =>
        simp only [fault] at accepted
        cases accepted
      | none =>
        simp only [fault, Option.isSome_none, Bool.false_eq_true, if_false] at *
        cases answer : r.verdict with
        | some verdict =>
          simp only [answer, decide_eq_true_eq] at *
          exact ⟨verdict, truth, rfl⟩
        | none =>
          simp only [answer] at *
          split at accepted <;> cases accepted

theorem mentionsDuplicate_code (description : String) :
    mentionsDuplicate none ("[" ++ "3000" ++ "] " ++ description).toList = true := by
  simp only [String.toList_append]
  rfl

/-- A rejected record is not registered, unless it was before: then it is a duplicate, or a fault. -/
theorem sendInvoice_rejected
    (truth : response.all (fun r => r.answersAlta before registers) = true)
    (rejected : (sendInvoice response).status = .rejected) :
    registers = none ∧ (before = none ∨ (sendInvoice response).isDuplicate = true ∨
      ∃ r, response = some r ∧ r.status < 500 ∧ r.faultstring.isSome = true) := by
  cases response with
  | none => cases rejected
  | some r =>
    simp only [sendInvoice, Option.map_some, Option.getD_some, parseResponse,
      SoapResponse.answersAlta, Option.all_some] at *
    by_cases server : 500 ≤ r.status
    · rw [if_pos server] at rejected
      cases rejected
    · have below := not_le.mp server
      simp only [server, decide_false, Bool.false_or, if_false] at *
      cases fault : r.faultstring with
      | some text =>
        simp only [fault, Option.isSome_some, if_true, decide_eq_true_eq] at truth
        exact ⟨truth, .inr (.inr ⟨r, rfl, below, by rw [fault]; rfl⟩)⟩
      | none =>
        simp only [fault, Option.isSome_none, Bool.false_eq_true, if_false] at *
        cases answer : r.verdict with
        | some verdict =>
          simp only [answer] at rejected
          cases verdict <;> cases rejected
        | none =>
          simp only [answer] at *
          split at rejected
          · rename_i incorrect
            simp only [incorrect, ne_eq, not_true_eq_false, decide_false, Bool.false_or,
              Bool.and_eq_true, Bool.or_eq_true, decide_eq_true_eq] at truth
            refine ⟨truth.1, truth.2.imp id fun notice => .inl ?_⟩
            obtain ⟨code, described⟩ := notice
            obtain ⟨description, text⟩ := Option.isSome_iff_exists.mp described
            rw [if_pos incorrect, text, code]
            exact mentionsDuplicate_code description
          · cases rejected

theorem sendInvoice_not_pending (response : Option SoapResponse) :
    (sendInvoice response).status ≠ .pending := by
  cases response with
  | none => exact nofun
  | some r =>
    simp only [sendInvoice, Option.map_some, Option.getD_some, parseResponse]
    split
    · exact nofun
    · split
      · exact nofun
      · split
        · rename_i verdict _
          cases verdict <;> exact nofun
        · split <;> exact nofun

/-! ### Steps -/

/-- What a step does. -/
inductive VerifactuMove (db : VerifactuDb) :
    VerifactuCall → VerifactuInput → VerifactuDb → Option VerifactuCall → Prop
  | issues {tenantId : TenantId} {issuedByHolded : Bool} {previous : Option InvoiceId}
      (known : ∀ prev, previous = some prev → ∃ inv, db.find prev = some inv) :
    VerifactuMove db (.issuing tenantId issuedByHolded previous) .proceed
      (db.push ⟨tenantId, issuedByHolded, previous, some .pending, false, none, none, false, false⟩)
      none
  | reads {call : VerifactuCall} {input : VerifactuInput} {rest : Option VerifactuCall}
      (about : (∃ id, call = .sending id) ∨ (∃ id tenantId, call = .refreshing id tenantId) ∨
        ∃ id, call = .polling id)
      (next : ∀ r, rest = some r → (∃ id, r = .polling id)) :
    VerifactuMove db call input db rest
  | sends {id : InvoiceId} {inv : VerifactuInvoice} {rest : VerifactuCall}
      (found : db.find id = some inv) (inOrder : awaitsPrevious db inv = false)
      (next : rest = .querying id ∨ rest = .posting id) :
    VerifactuMove db (.sending id) .proceed db (some rest)
  | resends {id : InvoiceId} {response : Option SoapResponse} :
    VerifactuMove db (.querying id) (.answered response) db (some (.posting id))
  | knows {call : VerifactuCall} {id : InvoiceId} {inv : VerifactuInvoice}
      {response : Option SoapResponse} (found : db.find id = some inv)
      (truth : response.all (fun r => r.answersStatus inv.registered) = true)
      (about : (call = .querying id ∧ (getStatus response).status.isAccepted = true) ∨
        (call = .polling id ∧ (getStatus response).status ≠ .pending)) :
    VerifactuMove db call (.answered response) db (some (.saving id (getStatus response)))
  | posts {id : InvoiceId} {inv : VerifactuInvoice} {registers : Option AeatVerdict}
      {response : Option SoapResponse} {rest : Option VerifactuCall} (found : db.find id = some inv)
      (fresh : ∀ verdict, registers = some verdict → inv.registered = none)
      (truth : response.all (fun r => r.answersAlta inv.registered registers) = true)
      (next : rest = some (if (sendInvoice response).isDuplicate then
        .confirming id (sendInvoice response) else .storing id (sendInvoice response))) :
    VerifactuMove db (.posting id) (.posted registers response)
      (db.modify id (VerifactuInvoice.post registers)) rest
  | confirms {id : InvoiceId} {inv : VerifactuInvoice} {result result' : AeatResult}
      {response : Option SoapResponse} (found : db.find id = some inv)
      (truth : response.all (fun r => r.answersStatus inv.registered) = true)
      (next : ((getStatus response).status.isAccepted = true ∧
          result'.status = (getStatus response).status) ∨
        ((getStatus response).status.isAccepted = false ∧ result' = result)) :
    VerifactuMove db (.confirming id result) (.answered response) db (some (.storing id result'))
  | stores {id : InvoiceId} {result : AeatResult} :
    VerifactuMove db (.storing id result) .proceed
      (db.modify id (VerifactuInvoice.store result)) none
  | saves {id : InvoiceId} {result : AeatResult} :
    VerifactuMove db (.saving id result) .proceed
      (db.modify id (VerifactuInvoice.saveStatus result)) none

theorem askStatus_some {next : AeatResult → Option VerifactuCall}
    (h : askStatus db id response next = some (db', rest)) :
    ∃ inv, db.find id = some inv ∧
      response.all (fun r => r.answersStatus inv.registered) = true ∧ db' = db ∧
      rest = next (getStatus response) := by
  unfold askStatus at h
  split at h
  · cases h
  · rename_i inv found
    split at h
    · rename_i truth
      cases h
      exact ⟨inv, found, truth, rfl, rfl⟩
    · cases h

theorem nextVerifactu_move (h : nextVerifactu db call input = some (db', rest)) :
    VerifactuMove db call input db' rest := by
  cases call with
  | issuing tenantId issuedByHolded previous =>
    cases input with
    | proceed =>
      rw [nextVerifactu] at h
      split at h
      · rename_i known
        cases h
        refine .issues fun prev own => ?_
        rw [own, Option.all_some] at known
        exact Option.isSome_iff_exists.mp known
      · cases h
    | answered | posted => cases h
  | sending id =>
    cases input with
    | proceed =>
      cases h
      unfold readForSend
      split
      · exact .reads (.inl ⟨id, rfl⟩) goesOn_none
      · rename_i inv found
        split
        · exact .reads (.inl ⟨id, rfl⟩) goesOn_none
        · rename_i allowed
          simp only [Bool.or_eq_true, not_or, Bool.not_eq_true] at allowed
          refine .sends found allowed.2 ?_
          split
          · exact .inl rfl
          · exact .inr rfl
    | answered | posted => cases h
  | querying id =>
    cases input with
    | answered response =>
      rw [nextVerifactu] at h
      obtain ⟨inv, found, truth, rfl, rfl⟩ := askStatus_some h
      split
      · rename_i accepted
        exact .knows found truth (.inl ⟨rfl, accepted⟩)
      · exact .resends
    | proceed | posted => cases h
  | posting id =>
    cases input with
    | posted registers response =>
      rw [nextVerifactu, postRecord] at h
      split at h
      · cases h
      · rename_i inv found
        split at h
        · cases h
        · rename_i allowed
          simp only [Bool.or_eq_true, Bool.and_eq_true, not_or, not_and, Bool.not_eq_true,
            Bool.not_eq_true', Bool.not_eq_false] at allowed
          cases h
          refine .posts found (fun verdict own => ?_) allowed.2 rfl
          have absent := allowed.1 (by rw [own]; rfl)
          rwa [Option.isSome_eq_false_iff, Option.isNone_iff_eq_none] at absent
    | proceed | answered => cases h
  | confirming id result =>
    cases input with
    | answered response =>
      rw [nextVerifactu] at h
      obtain ⟨inv, found, truth, rfl, rfl⟩ := askStatus_some h
      refine .confirms found truth ?_
      split
      · rename_i accepted
        exact .inl ⟨accepted, rfl⟩
      · rename_i unknown
        exact .inr ⟨Bool.not_eq_true _ ▸ unknown, rfl⟩
    | proceed | posted => cases h
  | storing id result =>
    cases input with
    | proceed =>
      cases h
      exact .stores
    | answered | posted => cases h
  | refreshing id tenantId =>
    cases input with
    | proceed =>
      cases h
      refine .reads (.inr (.inl ⟨id, tenantId, rfl⟩)) fun r same => ?_
      obtain ⟨inv, -, same⟩ := Option.bind_eq_some_iff.mp same
      split at same <;> cases same
      exact ⟨id, rfl⟩
    | answered | posted => cases h
  | polling id =>
    cases input with
    | answered response =>
      rw [nextVerifactu] at h
      obtain ⟨inv, found, truth, rfl, rfl⟩ := askStatus_some h
      split
      · exact .reads (.inr (.inr ⟨id, rfl⟩)) goesOn_none
      · rename_i known
        exact .knows found truth (.inr ⟨rfl, known⟩)
    | proceed | posted => cases h
  | saving id result =>
    cases input with
    | proceed =>
      cases h
      exact .saves
    | answered | posted => cases h

end StorageOS
