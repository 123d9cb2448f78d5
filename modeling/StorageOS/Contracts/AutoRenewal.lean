import StorageOS.Billing.Coverage
import StorageOS.Billing.Months

/-! The automatic renewal of a contract over any number of terms. Each renewal adds the months of the
first term to the end before it, so an end that a short month has moved back stays there. Runs that
come late or not at all make no difference, up to 121 terms behind. -/

namespace StorageOS

open Gregorian

/-- The end of a contract after `k` terms, each added to the end before it. -/
def termEnd (endDate : Date) (months : ℤ) (k : ℕ) : Date :=
  (fun e => addMonths e months)^[k] endDate

def Contract.renewPunctually (c : Contract) : Contract :=
  match c.endDate with
  | some e => autoRenewDue (e + 1) c
  | none => c

/-- A contract after `k` automatic renewals, each on the day after its end. -/
def Contract.renewed (c : Contract) : ℕ → Contract
  | 0 => c
  | k + 1 => (c.renewed k).renewPunctually

def Contract.renewOn (c : Contract) (days : List Date) : Contract :=
  days.foldl (fun c today => autoRenewDue today c) c

/-- What punctual runs have made of a contract on a day: every end that is past was renewed. -/
def Contract.Punctual (c : Contract) (today : Date) (c' : Contract) : Prop :=
  ∃ k, c' = c.renewed k ∧ (∀ j < k, ∃ e ∈ (c.renewed j).endDate, e < today) ∧
    ∀ e ∈ c'.endDate, today ≤ e

/-- The day before the contract has run for `k + 1` terms, on the day of the start or the last day
of a shorter month. -/
def Contract.wholeTermsEnd (c : Contract) (months : ℤ) (k : ℕ) : Date :=
  addMonths c.startDate ((k + 1) * months) - 1

/-- The month that closes term `k` after the first gives the end the day that the one before gave
it: on entry on day 1 the last day of the month before, which must not be a longer one. -/
def Contract.keepsTermDay (c : Contract) (months : ℤ) (k : ℕ) : Bool :=
  let closing := monthOf c.startDate + (k + 1) * months
  if day c.startDate = 1 then
    monthLength (closing + months - 1) ≤ monthLength (closing - 1)
  else
    min (day c.startDate) (monthLength (closing + months)) =
      min (day c.startDate) (monthLength closing)

/-! ### The ends of whole terms -/

section

variable {c : Contract} {months : ℤ}

theorem addMonths_sub_one (d : Date) (months : ℤ) :
    addMonths d months - 1 =
      onDay (monthOf d + months) (min (day d) (monthLength (monthOf d + months)) - 1) := by
  have := monthLength_bounds (monthOf d + months)
  rw [addMonths_eq_onDay, onDay, onDay]
  lia

theorem addMonths_sub_one_of_first {d : Date} (first : day d = 1) (months : ℤ) :
    addMonths d months - 1 =
      onDay (monthOf d + months - 1) (monthLength (monthOf d + months - 1)) := by
  have := monthLength_bounds (monthOf d + months)
  rw [addMonths_eq_onDay, first, ← monthStart_sub_one, sub_add_cancel, onDay]
  lia

/-- A term added to the end of whole terms gives the end of one more exactly when the month that
closes it gives the same day. -/
theorem addMonths_wholeTermsEnd_iff (c : Contract) (months : ℤ) (k : ℕ) :
    addMonths (c.wholeTermsEnd months k) months = c.wholeTermsEnd months (k + 1) ↔
      c.keepsTermDay months k = true := by
  have closing : monthOf c.startDate + ((k + 1 : ℕ) + 1) * months =
      monthOf c.startDate + (k + 1) * months + months := by
    push_cast
    ring
  have len := monthLength_bounds (monthOf c.startDate + (k + 1) * months)
  have len' := monthLength_bounds (monthOf c.startDate + (k + 1) * months + months)
  have start := day_pos c.startDate
  by_cases first : day c.startDate = 1
  · have before := monthLength_bounds (monthOf c.startDate + (k + 1) * months - 1)
    have after := monthLength_bounds (monthOf c.startDate + (k + 1) * months + months - 1)
    rw [Contract.wholeTermsEnd, Contract.wholeTermsEnd, addMonths_sub_one_of_first first,
      addMonths_sub_one_of_first first, closing, addMonths_eq_onDay, monthOf_onDay (by omega),
      day_onDay (by omega), min_self, Contract.keepsTermDay]
    simp only [first, if_true, decide_eq_true_eq]
    rw [show monthOf c.startDate + (k + 1) * months - 1 + months =
      monthOf c.startDate + (k + 1) * months + months - 1 by ring]
    simp only [onDay]
    lia
  · rw [Contract.wholeTermsEnd, Contract.wholeTermsEnd, addMonths_sub_one,
      addMonths_sub_one, closing, addMonths_eq_onDay, monthOf_onDay (by omega),
      day_onDay (by omega), Contract.keepsTermDay]
    simp only [first, if_false, decide_eq_true_eq]
    simp only [onDay]
    lia

theorem Contract.keepsTermDay_of_mem (late : day c.startDate ≠ 1) (early : day c.startDate ≤ 28)
    (k : ℕ) : c.keepsTermDay months k = true := by
  have len := monthLength_bounds (monthOf c.startDate + (k + 1) * months)
  have len' := monthLength_bounds (monthOf c.startDate + (k + 1) * months + months)
  simp only [keepsTermDay, late, if_false, decide_eq_true_eq]
  omega

theorem termEnd_succ (e : Date) (months : ℤ) (k : ℕ) :
    termEnd e months (k + 1) = addMonths (termEnd e months k) months :=
  Function.iterate_succ_apply' _ _ _

theorem termEnd_eq_iff (c : Contract) (e : Date) (months : ℤ) (n : ℕ) :
    (∀ k ≤ n, termEnd e months k = c.wholeTermsEnd months k) ↔
      e = c.wholeTermsEnd months 0 ∧ ∀ k < n, c.keepsTermDay months k = true := by
  induction n with
  | zero =>
    simp only [Nat.le_zero, forall_eq, Nat.not_lt_zero, false_imp_iff, implies_true, and_true]
    rfl
  | succ n ih =>
    have step : termEnd e months n = c.wholeTermsEnd months n →
        (termEnd e months (n + 1) = c.wholeTermsEnd months (n + 1) ↔
          c.keepsTermDay months n = true) := by
      intro same
      rw [termEnd_succ, same, addMonths_wholeTermsEnd_iff]
    constructor
    · intro h
      have before := ih.mp fun k hk => h k (Nat.le_succ_of_le hk)
      refine ⟨before.1, fun k hk => ?_⟩
      rcases Nat.lt_or_eq_of_le (Nat.le_of_lt_succ hk) with earlier | rfl
      · exact before.2 k earlier
      · exact (step (h k (Nat.le_succ k))).mp (h (k + 1) (le_refl _))
    · rintro ⟨first, kept⟩ k hk
      have before := ih.mpr ⟨first, fun k hk => kept k (Nat.lt_succ_of_lt hk)⟩
      rcases Nat.lt_or_eq_of_le hk with earlier | rfl
      · exact before k (Nat.le_of_lt_succ earlier)
      · exact (step (before n (le_refl n))).mpr (kept n (Nat.lt_succ_self n))

end

theorem termMonths_pos (start last : Date) : 0 < termMonths start last := by
  simp only [termMonths]
  lia

theorem termEnd_strictMono (e : Date) {months : ℤ} (h : 0 < months) :
    StrictMono (termEnd e months) :=
  strictMono_nat_of_lt_succ fun k => by
    rw [termEnd_succ]
    exact lt_addMonths _ h

/-! ### Renewals -/

/-- The catch-up loop adds terms until the end is not past, or its bound is reached. -/
theorem prolong_spec (today : Date) (months : ℤ) (guard : ℕ) (e : Date) :
    ∃ i ≤ guard, prolong today months guard e = termEnd e months i ∧
      (∀ j < i, termEnd e months j < today) ∧ (today ≤ termEnd e months i ∨ i = guard) := by
  induction guard generalizing e with
  | zero => exact ⟨0, le_refl _, rfl, fun j hj => absurd hj (Nat.not_lt_zero j), .inr rfl⟩
  | succ guard ih =>
    rw [prolong]
    split
    · rename_i past
      obtain ⟨i, i_le, isEnd, before, reached⟩ := ih (addMonths e months)
      refine ⟨i + 1, Nat.succ_le_succ i_le, isEnd, fun j hj => ?_, ?_⟩
      · cases j with
        | zero => exact past
        | succ j => exact before j (Nat.lt_of_succ_lt_succ hj)
      · exact reached.imp id (congrArg (· + 1))
    · rename_i notPast
      exact ⟨0, Nat.zero_le _, rfl, fun j hj => absurd hj (Nat.not_lt_zero j),
        .inl (not_lt.mp notPast)⟩

/-- A contract in force that renews itself, with its end and the term it is renewed by. -/
structure Contract.RenewsItself (c : Contract) (last : Date) (months : ℤ) : Prop where
  status : c.status = .active
  deletedAt : c.deletedAt = none
  autoRenew : c.autoRenew = true
  endDate : c.endDate = some last
  months : c.renewalMonths last = months

structure Contract.OnFirstTerm (c : Contract) (last : Date) : Prop where
  status : c.status = .active
  deletedAt : c.deletedAt = none
  autoRenew : c.autoRenew = true
  endDate : c.endDate = some last
  termMonths : c.termMonths = none

section

variable {c : Contract} {e today : Date} {months : ℤ}

/-- A run on or before the end does nothing, a later one adds terms and writes the term down. -/
theorem Contract.RenewsItself.autoRenewDue (renews : c.RenewsItself e months) (today : Date) :
    autoRenewDue today c = if e < today then
      { c with
        endDate := some (prolong today months 120 (addMonths e months))
        termMonths := some months } else c := by
  have isOver : c.termOver today = decide (e < today) := by
    simp [termOver, renews.status, renews.deletedAt, renews.endDate]
  unfold StorageOS.autoRenewDue
  rw [renews.endDate]
  dsimp only
  rw [isOver, if_pos renews.autoRenew, autoRenewedEndDate, renews.months]
  by_cases past : e < today
  · rw [if_pos (decide_eq_true past), if_pos past]
  · rw [if_neg (by simpa using past), if_neg past]

variable (first : c.OnFirstTerm e)
include first

theorem Contract.OnFirstTerm.renewed (k : ℕ) :
    (c.renewed k).RenewsItself (termEnd e (StorageOS.termMonths c.startDate e) k)
        (StorageOS.termMonths c.startDate e) ∧
      c.renewed (k + 1) = { c with
        endDate := some (termEnd e (StorageOS.termMonths c.startDate e) (k + 1))
        termMonths := some (StorageOS.termMonths c.startDate e) } := by
  have positive := termMonths_pos c.startDate e
  have next : ∀ (c' : Contract) (x : Date),
      c'.RenewsItself x (StorageOS.termMonths c.startDate e) → c'.renewPunctually = { c' with
        endDate := some (addMonths x (StorageOS.termMonths c.startDate e))
        termMonths := some (StorageOS.termMonths c.startDate e) } := by
    intro c' x renews
    have later := lt_addMonths x positive
    simp only [renewPunctually, renews.endDate]
    rw [renews.autoRenewDue, if_pos (by lia), prolong, if_neg (by lia)]
  induction k with
  | zero =>
    have renews : c.RenewsItself e (StorageOS.termMonths c.startDate e) :=
      ⟨first.status, first.deletedAt, first.autoRenew, first.endDate, by
        simp [renewalMonths, first.termMonths]⟩
    exact ⟨renews, next c e renews⟩
  | succ k ih =>
    have renews : (c.renewed (k + 1)).RenewsItself
        (termEnd e (StorageOS.termMonths c.startDate e) (k + 1))
        (StorageOS.termMonths c.startDate e) := by
      rw [ih.2]
      exact ⟨first.status, first.deletedAt, first.autoRenew, rfl, rfl⟩
    refine ⟨renews, ?_⟩
    rw [Contract.renewed, next _ _ renews, ih.2, termEnd_succ _ _ (k + 1)]

theorem Contract.OnFirstTerm.run (today : Date) (k : ℕ) :
    ∃ k', k ≤ k' ∧ k' ≤ k + 121 ∧ StorageOS.autoRenewDue today (c.renewed k) = c.renewed k' ∧
      (∀ j, k ≤ j → j < k' → termEnd e (StorageOS.termMonths c.startDate e) j < today) ∧
      (today ≤ termEnd e (StorageOS.termMonths c.startDate e) k' ∨ k' = k + 121) := by
  generalize hm : StorageOS.termMonths c.startDate e = months
  have state := fun k => hm ▸ first.renewed k
  rw [(state k).1.autoRenewDue]
  by_cases past : termEnd e months k < today
  · obtain ⟨i, i_le, isEnd, before, reached⟩ :=
      prolong_spec today months 120 (addMonths (termEnd e months k) months)
    have shift : ∀ j, termEnd (addMonths (termEnd e months k) months) months j =
        termEnd e months (k + 1 + j) := by
      intro j
      rw [← termEnd_succ, termEnd, termEnd, ← Function.iterate_add_apply, termEnd]
      congr 1
      omega
    rw [if_pos past, isEnd, shift]
    refine ⟨k + 1 + i, by omega, by omega, ?_, fun j from_k j_lt => ?_, ?_⟩
    · have closed := (state (k + i)).2
      rw [show k + 1 + i = k + i + 1 by omega, closed]
      cases k with
      | zero => rfl
      | succ k => rw [(state k).2]
    · rcases Nat.lt_or_eq_of_le from_k with later | rfl
      · have := before (j - (k + 1)) (by omega)
        rwa [shift, Nat.add_sub_cancel' (Nat.succ_le_of_lt later)] at this
      · exact past
    · rw [← shift]
      rcases reached with reached | bound
      · exact .inl reached
      · exact .inr (by omega)
  · rw [if_neg past]
    exact ⟨k, le_refl k, by omega, rfl, fun j from_k j_lt => by omega, .inl (not_lt.mp past)⟩

/-- Runs on days up to a day renew the contract, each time from an end that is past on that day. -/
theorem Contract.OnFirstTerm.runs {today : Date} (days : List Date) (upTo : ∀ d ∈ days, d ≤ today) :
    ∃ k, c.renewOn days = c.renewed k ∧
      ∀ j < k, termEnd e (StorageOS.termMonths c.startDate e) j < today := by
  induction days using List.reverseRecOn with
  | nil => exact ⟨0, rfl, fun j hj => absurd hj (Nat.not_lt_zero j)⟩
  | append_singleton days d ih =>
    obtain ⟨k, isState, before⟩ := ih fun d mem => upTo d (List.mem_append_left _ mem)
    obtain ⟨k', -, -, run, past, -⟩ := first.run d k
    have d_le := upTo d (by simp)
    refine ⟨k', ?_, fun j hj => ?_⟩
    · rw [← run, ← isState, renewOn, renewOn, List.foldl_concat]
    · rcases Nat.lt_or_ge j k with early | later
      · exact before j early
      · exact (past j later hj).trans_le d_le

/-- Missed and late runs reach what punctual ones do exactly when at most 121 terms are over. -/
theorem Contract.OnFirstTerm.punctual_iff (today : Date) :
    (∀ days : List Date, (∀ d ∈ days, d ≤ today) →
        c.Punctual today (c.renewOn (days ++ [today]))) ↔
      today ≤ termEnd e (StorageOS.termMonths c.startDate e) 121 := by
  have ends := fun k => (first.renewed k).1.endDate
  have later := (termEnd_strictMono e (termMonths_pos c.startDate e)).monotone
  constructor
  · intro punctual
    obtain ⟨k, isRun, -, notPast⟩ := punctual [] (by simp)
    obtain ⟨k', -, within, run, -, -⟩ := first.run today 0
    have isRun' : StorageOS.autoRenewDue today c = c.renewed k' := run
    have reached : today ≤ termEnd e (StorageOS.termMonths c.startDate e) k' := by
      apply notPast
      rw [List.nil_append, renewOn, List.foldl_cons, List.foldl_nil, isRun']
      exact ends k'
    exact reached.trans (later (by omega))
  · intro within days upTo
    obtain ⟨k, isState, before⟩ := first.runs days upTo
    obtain ⟨k', from_k, -, run, past, reached⟩ := first.run today k
    have isRun : c.renewOn (days ++ [today]) = c.renewed k' := by
      rw [← run, ← isState, renewOn, renewOn, List.foldl_concat]
    have all_past : ∀ j < k', termEnd e (StorageOS.termMonths c.startDate e) j < today := by
      intro j hj
      rcases Nat.lt_or_ge j k with early | late
      · exact before j early
      · exact past j late hj
    refine ⟨k', isRun, fun j hj => ⟨_, ends j, all_past j hj⟩, fun e' mem => ?_⟩
    rw [isRun, ends k', Option.mem_some_iff] at mem
    subst mem
    rcases reached with reached | bound
    · exact reached
    · exact within.trans (later (by omega))

omit first

/-- After any number of automatic renewals a contract ends on the day before it has run for that
many whole terms more exactly when its first end closes the first term, each month that closes a
later one keeps the day, and at most 121 terms are over. -/
theorem autoRenewal_keeps_term (first : c.OnFirstTerm e) (n : ℕ) (today : Date) :
    ((∀ k ≤ n, (c.renewed k).endDate =
        some (c.wholeTermsEnd (StorageOS.termMonths c.startDate e) k)) ∧
      ∀ days : List Date, (∀ d ∈ days, d ≤ today) →
        c.Punctual today (c.renewOn (days ++ [today]))) ↔
    (e = c.wholeTermsEnd (StorageOS.termMonths c.startDate e) 0 ∧
      ∀ k < n, c.keepsTermDay (StorageOS.termMonths c.startDate e) k = true) ∧
      today ≤ termEnd e (StorageOS.termMonths c.startDate e) 121 := by
  rw [← termEnd_eq_iff, first.punctual_iff]
  have ends := fun k => (first.renewed k).1.endDate
  simp only [ends, Option.some.injEq]

end

def renewing (startDate endDate : Date) : Contract :=
  { fromMidMonth with startDate := startDate, endDate := some endDate }

theorem renewing_onFirstTerm (startDate endDate : Date) :
    (renewing startDate endDate).OnFirstTerm endDate := ⟨rfl, rfl, rfl, rfl, rfl⟩

/-- A year from the tenth of a month, three times renewed. -/
theorem autoRenewal_keeps_term_year :
    ((renewing (date 2026 1 10) (date 2027 1 9)).renewed 3).endDate = some (date 2030 1 9) := by
  have kept := ((autoRenewal_keeps_term (renewing_onFirstTerm (date 2026 1 10) (date 2027 1 9)) 3
    (date 2027 1 9)).mpr ⟨⟨by decide, fun k _ =>
      Contract.keepsTermDay_of_mem (by decide) (by decide) k⟩, by decide +kernel⟩).1 3 (le_refl 3)
  rw [kept]
  decide

/-- A month from the first, twice renewed: from 31 January to 28 February and to 28 March. -/
theorem autoRenewal_loses_days : ¬∀ (c : Contract) (e : Date), c.OnFirstTerm e → ∀ n today,
    (∀ k ≤ n, (c.renewed k).endDate =
        some (c.wholeTermsEnd (StorageOS.termMonths c.startDate e) k)) ∧
      ∀ days : List Date, (∀ d ∈ days, d ≤ today) →
        c.Punctual today (c.renewOn (days ++ [today])) := by
  intro keeps
  have kept := (keeps _ _ (renewing_onFirstTerm (date 2026 1 1) (date 2026 1 31)) 2
    (date 2026 1 31)).1 2 (le_refl 2)
  revert kept
  decide +kernel

end StorageOS
