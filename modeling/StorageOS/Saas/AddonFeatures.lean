import StorageOS.Lib.Transition
import StorageOS.Saas.AddonRows

/-! A feature is enabled while an add-on gives it, and is left to the super admin's overrides when none
does, as long as no add-on and no trial is given over a block, and no courtesy under an add-on ends
before it. -/

namespace StorageOS

open Transition

variable {catalog : AddonCatalog} {s s' : TenantAddons} {f : TenantFeature} {row : FeatureOverride}
  {addonId : SaasAddonId} {call : AddonCall}

/-! ### Calls -/

/-- The features are sound, and a trial that is left was there before. -/
structure Untried (catalog : AddonCatalog) (s s' : TenantAddons) : Prop where
  sound : ∀ f, s'.Sound catalog f
  trials : ∀ f row, s'.overrides.find f = some row → row.source = .trial →
    s.overrides.find f = some row

variable {assignments : Table SaasAddonId TenantAddon} {plan : Finset TenantFeature}

variable (sound : ∀ f, s.Sound catalog f)
include sound

theorem untried_reconcile (others : ∀ k, k ≠ addonId → assignments.find k = s.assignments.find k)
    (kept : ∀ f row, catalog.featureOf addonId = some f → s.overrides.find f = some row →
      row.source = .manual → ({ s with assignments } : TenantAddons).provides catalog f = true →
      row.enabled = true ∧ liveOverride s.clock row.expiresAt = true) :
    Untried catalog s
      (reconcileFeatureOverride catalog { s with assignments } (catalog.featureOf addonId)) := by
  refine ⟨fun f => ?_, fun f row found source =>
    find_reconcile_trial (s := { s with assignments }) found source⟩
  by_cases own : catalog.featureOf addonId = some f
  · rw [own]
    exact (sound f).reconcile assignments fun row found source given => kept f row own found source given
  · refine (sound f).congr (find_reconcile_ne own) ?_ ?_ ?_
    · exact (provides_reconcile _ _ f).trans (provides_congr others own)
    · rw [(reconcile_manual _ _).1]
    · exact (reconcile_manual _ _).2

theorem kept_of_fewer
    (fewer : ∀ k a, assignments.find k = some a → a.suspendedAt = none → s.assignments.find k = some a)
    (f : TenantFeature) (row : FeatureOverride) (found : s.overrides.find f = some row)
    (source : row.source = .manual) (given : ({ s with assignments } : TenantAddons).provides catalog f = true) :
    row.enabled = true ∧ liveOverride s.clock row.expiresAt = true := by
  obtain ⟨k, a, assigned, active, feature⟩ := provides_iff.mp given
  have before : s.provides catalog f = true :=
    provides_iff.mpr ⟨k, a, fewer k a assigned active, active, feature⟩
  cases sound f with
  | manual found' _ _ enabled =>
    rw [found'] at found
    cases found
    exact enabled before
  | absent missing =>
    rw [missing] at found
    cases found
  | addon found' other | trial found' other =>
    rw [found'] at found
    cases found
    rw [other] at source
    cases source

omit sound in
theorem kept_of_notBlocked (unblocked : notBlocked catalog s s.clock addonId = true)
    (feature : catalog.featureOf addonId = some f) (found : s.overrides.find f = some row)
    (source : row.source = .manual) :
    row.enabled = true ∧ liveOverride s.clock row.expiresAt = true := by
  rw [notBlocked, feature, Option.all_some, found, Option.all_some] at unblocked
  simpa [source] using unblocked

theorem suspendAddon_untried (done : suspendAddon catalog s addonId = some s') : Untried catalog s s' := by
  obtain ⟨assigned, found, done⟩ := Option.bind_eq_some_iff.mp done
  split at done
  · cases done
  · cases done
    refine untried_reconcile sound (fun k other => Table.find_modify_ne _ other _) ?_
    intro f row _ there source given
    refine kept_of_fewer sound (fun k a assigned' active => ?_) f row there source given
    rcases Table.find_modify_cases assigned' with ⟨-, same⟩ | ⟨-, a', -, rfl⟩
    · exact same
    · cases active

theorem Untried.refl : Untried catalog s s :=
  ⟨sound, fun _ _ found _ => found⟩

theorem suspendAll_untried (lapsed : List SaasAddonId) :
    Untried catalog s
      (lapsed.foldl (fun s addonId => (suspendAddon catalog s addonId).getD s) s) := by
  induction lapsed generalizing s with
  | nil => exact .refl sound
  | cons addonId rest ih =>
    have first : Untried catalog s ((suspendAddon catalog s addonId).getD s) := by
      cases done : suspendAddon catalog s addonId with
      | none => exact .refl sound
      | some s' => exact suspendAddon_untried sound done
    have others := ih first.sound
    exact ⟨others.sound, fun f row found source =>
      first.trials f row (others.trials f row found source) source⟩

theorem assignAddon_untried {quantity : ℕ} (unblocked : notBlocked catalog s s.clock addonId = true)
    (done : assignAddon catalog s addonId quantity = some s') : Untried catalog s s' := by
  obtain ⟨addon, -, done⟩ := Option.bind_eq_some_iff.mp done
  split at done
  · cases done
  · cases done
    refine untried_reconcile sound (fun k other => ?_) fun f row feature found source _ =>
      kept_of_notBlocked unblocked feature found source
    exact (Table.find_upsert ..).trans (if_neg other)

theorem removeAddon_untried (done : removeAddon catalog s addonId = some s') : Untried catalog s s' := by
  obtain ⟨assigned, -, rfl⟩ := Option.map_eq_some_iff.mp done
  refine untried_reconcile sound (fun k other => ?_) fun f row _ found source given => ?_
  · rw [Table.find_deleteMany]
    cases s.assignments.find k <;> simp [other]
  · refine kept_of_fewer sound (fun k a left _ => ?_) f row found source given
    rw [Table.find_deleteMany] at left
    exact (Option.filter_eq_some_iff.mp left).1

theorem reactivateAddon_untried (unblocked : notBlocked catalog s s.clock addonId = true)
    (done : reactivateAddon catalog s addonId = some s') : Untried catalog s s' := by
  obtain ⟨assigned, -, done⟩ := Option.bind_eq_some_iff.mp done
  split at done
  · cases done
  · cases done
    exact untried_reconcile sound (fun k other => Table.find_modify_ne _ other _)
      fun f row feature found source _ => kept_of_notBlocked unblocked feature found source

theorem sound_of_billing (change : TenantAddon → TenantAddon) (same : ∀ a, (change a).suspendedAt = a.suspendedAt)
    (f : TenantFeature) :
    ({ s with assignments := s.assignments.modify addonId change } : TenantAddons).Sound catalog f := by
  refine (sound f).congr rfl ?_ rfl rfl
  rw [Bool.eq_iff_iff, provides_iff, provides_iff]
  refine exists_congr fun k => ?_
  constructor
  · rintro ⟨a, assigned, active, feature⟩
    rcases Table.find_modify_cases assigned with ⟨-, before⟩ | ⟨rfl, a', before, rfl⟩
    · exact ⟨a, before, active, feature⟩
    · exact ⟨a', before, (same a').symm.trans active, feature⟩
  · rintro ⟨a, assigned, active, feature⟩
    exact Table.exists_find_modify assigned (fun _ => ⟨(same a).trans active, feature⟩) ⟨active, feature⟩

theorem setAddonBillingMode_untried {mode : AddonBillingMode} {item : Option StripeItemId}
    (done : setAddonBillingMode s addonId mode item = some s') : Untried catalog s s' := by
  obtain ⟨assigned, -, done⟩ := Option.bind_eq_some_iff.mp done
  split at done
  · cases done
  · cases mode with
    | stripe =>
      obtain ⟨item, -, rfl⟩ := Option.map_eq_some_iff.mp done
      exact ⟨sound_of_billing sound (fun row => { row with
        billingMode := .stripe, stripeSubscriptionItemId := some item, nextChargeAt := none })
        fun _ => rfl, fun _ _ found _ => found⟩
    | manual =>
      cases done
      exact ⟨sound_of_billing sound (fun row => { row with
        billingMode := .manual, stripeSubscriptionItemId := none, nextChargeAt := some s.clock })
        fun _ => rfl, fun _ _ found _ => found⟩

theorem startTrial_sound {days : ℕ}
    (fits : AddonCall.keepsManual catalog s s.clock (.startTrial addonId days plan) = true)
    (done : startTrial catalog s addonId days plan = some s') :
    (∀ f, s'.Sound catalog f) ∧ ∀ f, s'.provides catalog f = s.provides catalog f := by
  obtain ⟨addon, listed, done⟩ := Option.bind_eq_some_iff.mp done
  obtain ⟨feature, own, done⟩ := Option.bind_eq_some_iff.mp done
  have featured : catalog.featureOf addonId = some feature := by
    rw [AddonCatalog.featureOf, listed]
    exact own
  rw [AddonCall.keepsManual, featured, Option.all_some] at fits
  dsimp only at done
  split at done
  · cases done
  · rename_i allowed
    cases done
    refine ⟨fun f => ?_, fun _ => rfl⟩
    by_cases same : f = feature
    · subst same
      have written := Table.find_upsert_self s.overrides f
        ⟨true, .trial, some (s.clock + days * 86400000), some addonId⟩
        fun _ => ⟨true, .trial, some (s.clock + days * 86400000), some addonId⟩
      simp only [Bool.or_eq_true, not_or, Bool.not_eq_true] at allowed
      obtain ⟨⟨-, notAddon⟩, -⟩ := allowed.1
      have notCourtesy := allowed.2
      cases sound f with
      | absent missing idle alone => exact .trial (by rw [written, missing]) rfl idle alone
      | @manual row found source own enabled =>
        rw [found] at fits notCourtesy
        have off : row.enabled = false := by simpa [source] using notCourtesy
        have ended : liveOverride s.clock row.expiresAt = false := by simpa [source, off] using fits
        refine .trial (by rw [written, found]) rfl ?_ ?_
        · refine Bool.eq_false_iff.mpr fun given => ?_
          rw [(enabled given).1] at off
          cases off
        · show s.manualAlone f = none
          rw [TenantAddons.manualAlone, own, Option.filter_some, if_neg (by simp [ended])]
          rfl
      | @addon row found source =>
        rw [found] at notAddon
        simp [source] at notAddon
      | trial found source idle alone => exact .trial (by rw [written, found]) rfl idle alone
    · exact (sound f).congr ((Table.find_upsert ..).trans (if_neg same)) rfl rfl rfl

theorem expireFeatures_sound (f : TenantFeature) : (expireFeatures s).Sound catalog f := by
  have left : (expireFeatures s).overrides.find f =
      (s.overrides.find f).filter fun row => liveOverride s.clock row.expiresAt := by
    refine (Table.find_deleteMany ..).trans ?_
    simp only [Bool.not_not]
  cases sound f with
  | absent missing idle alone => exact .absent (by rw [left, missing]; rfl) idle alone
  | @manual row found source own enabled =>
    by_cases live : liveOverride s.clock row.expiresAt = true
    · refine .manual ?_ source own enabled
      rw [left, found, Option.filter_some, if_pos live]
    · refine .absent ?_ ?_ ?_
      · rw [left, found, Option.filter_some, if_neg live]
      · exact Bool.eq_false_iff.mpr fun given => live (enabled given).2
      · show s.manualAlone f = none
        rw [TenantAddons.manualAlone, own, Option.filter_some, if_neg live]
        rfl
  | @addon row found source given enabled forever alone =>
    refine .addon ?_ source given enabled forever alone
    rw [left, found, Option.filter_some, if_pos (by rw [forever]; rfl)]
  | @trial row found source idle alone =>
    by_cases live : liveOverride s.clock row.expiresAt = true
    · refine .trial ?_ source idle alone
      rw [left, found, Option.filter_some, if_pos live]
    · refine .absent ?_ idle alone
      rw [left, found, Option.filter_some, if_neg live]

omit sound

theorem find?_setting {changing : List FeatureSetting} {o : FeatureSetting}
    (distinct : (changing.map FeatureSetting.feature).Nodup) (mem : o ∈ changing) :
    changing.find? (fun o' => o'.feature = o.feature) = some o := by
  cases found : changing.find? fun o' => o'.feature = o.feature with
  | none => simpa using List.find?_eq_none.mp found o mem
  | some o' =>
    have same : o'.feature = o.feature := by simpa using List.find?_some found
    rw [List.inj_on_of_nodup_map distinct (List.mem_of_find?_eq_some found) mem same]

theorem setFeatures_sound {settings : List FeatureSetting} (sound : ∀ f, s.Sound catalog f)
    (fits : AddonCall.keepsManual catalog s s.clock (.setFeatures plan settings) = true)
    (done : setFeatures catalog s plan settings = some s') :
    (∀ f, s'.Sound catalog f) ∧ ∀ f, s'.provides catalog f = s.provides catalog f := by
  rw [setFeatures] at done
  dsimp only at done
  generalize chosen : settings.filter (fun o => o.changes plan &&
    (s.overrides.find o.feature).all (·.source = .manual)) = effective at done
  have mem_effective : ∀ o, o ∈ effective ↔ o ∈ settings ∧ o.changes plan = true ∧
      (s.overrides.find o.feature).all (·.source = .manual) = true := fun o => by
    rw [← chosen, List.mem_filter, Bool.and_eq_true]
  split at done
  · rename_i distinct
    cases done
    refine ⟨fun f => ?_, fun _ => rfl⟩
    have left := Table.find_foldl_upsert FeatureSetting.feature
      (fun o => (⟨o.enabled, .manual, o.expiresAt.map catalog.nextDayStart, none⟩ : FeatureOverride))
      distinct (s.overrides.deleteMany fun row => row.2.source = .manual) f
    rw [Table.find_deleteMany] at left
    -- a setting of the feature gives its row; without one the super admin's row is gone
    cases listed : effective.find? fun o => o.feature = f with
    | some o =>
      have mem := List.mem_of_find?_eq_some listed
      obtain rfl : o.feature = f := by simpa using List.find?_some listed
      rw [listed] at left
      refine .manual left rfl ?_ fun given => ?_
      · show Option.map _ (List.find? _ _) = _
        rw [listed]
        rfl
      · have before : s.provides catalog o.feature = true := given
        have row := ((mem_effective o).mp mem).2.2
        cases sound o.feature with
        | absent missing idle =>
          rw [idle] at before
          cases before
        | manual found source =>
          have put := List.all_eq_true.mp fits _ (Table.mem_of_find found)
          simp only [before, source, Bool.not_true, ne_eq, not_true_eq_false, decide_false,
            Bool.false_or, List.any_eq_true, FeatureSetting.courtesy, Bool.and_eq_true,
            decide_eq_true_eq] at put
          obtain ⟨o', mem', ⟨⟨same, enabled⟩, changes⟩, live⟩ := put
          have unmanaged : (s.overrides.find o'.feature).all (·.source = .manual) = true := by
            rw [same, found]
            exact decide_eq_true source
          have again := find?_setting distinct ((mem_effective o').mpr ⟨mem', changes, unmanaged⟩)
          rw [same, listed] at again
          cases again
          exact ⟨enabled, live⟩
        | addon found source | trial found source =>
          rw [found] at row
          simp [source] at row
    | none =>
      rw [listed] at left
      have alone : TenantAddons.manualAlone { s with
          manual := fun feature => (effective.find? fun o => o.feature = feature).map
            (FeatureSetting.override catalog) } f = none := by
        rw [TenantAddons.manualAlone]
        dsimp only
        rw [listed]
        rfl
      cases sound f with
      | absent missing idle => exact .absent (left.trans (by rw [missing]; rfl)) idle alone
      | @manual row found source =>
        refine .absent (left.trans ?_) ?_ alone
        · rw [found]
          simp [source]
        · refine Bool.eq_false_iff.mpr fun given => ?_
          have before : s.provides catalog f = true := given
          have put := List.all_eq_true.mp fits _ (Table.mem_of_find found)
          simp only [before, source, Bool.not_true, ne_eq, not_true_eq_false, decide_false,
            Bool.false_or, List.any_eq_true, FeatureSetting.courtesy, Bool.and_eq_true,
            decide_eq_true_eq] at put
          obtain ⟨o', mem', ⟨⟨same, -⟩, changes⟩, -⟩ := put
          have unmanaged : (s.overrides.find o'.feature).all (·.source = .manual) = true := by
            rw [same, found]
            exact decide_eq_true source
          have again := find?_setting distinct ((mem_effective o').mpr ⟨mem', changes, unmanaged⟩)
          rw [same, listed] at again
          cases again
      | @addon row found source given enabled forever =>
        refine .addon (left.trans ?_) source given enabled forever alone
        rw [found]
        simp [source]
      | @trial row found source idle =>
        refine .trial (left.trans ?_) source idle alone
        rw [found]
        simp [source]
  · cases done

/-! ### Runs -/

/-- What a call keeps: the features are sound, and one that loses its last add-on is left no trial. -/
structure Followed (catalog : AddonCatalog) (s s' : TenantAddons) : Prop where
  sound : ∀ f, s'.Sound catalog f
  untried : ∀ f, s.provides catalog f = true → s'.provides catalog f = false →
    ∀ row, s'.overrides.find f = some row → row.source ≠ .trial

theorem Untried.followed (after : Untried catalog s s') (sound : ∀ f, s.Sound catalog f) :
    Followed catalog s s' :=
  ⟨after.sound, fun f given _ row found source =>
    (sound f).untried given (after.trials f row found source) source⟩

theorem Followed.of_same (after : (∀ f, s'.Sound catalog f) ∧
    ∀ f, s'.provides catalog f = s.provides catalog f) : Followed catalog s s' :=
  ⟨after.1, fun f given gone => by rw [after.2 f, given] at gone; cases gone⟩

theorem applyAddonCall_followed (sound : ∀ f, s.Sound catalog f)
    (fits : call.keepsManual catalog s s.clock = true)
    (done : applyAddonCall catalog s call = some s') : Followed catalog s s' := by
  cases call with
  | assign => exact (assignAddon_untried sound fits done).followed sound
  | remove => exact (removeAddon_untried sound done).followed sound
  | suspend => exact (suspendAddon_untried sound done).followed sound
  | suspendLapsed =>
    cases done
    exact (suspendAll_untried sound _).followed sound
  | reactivate => exact (reactivateAddon_untried sound fits done).followed sound
  | setBillingMode => exact (setAddonBillingMode_untried sound done).followed sound
  | startTrial => exact .of_same (startTrial_sound sound fits done)
  | setFeatures => exact .of_same (setFeatures_sound sound fits done)
  | expire =>
    cases done
    exact .of_same ⟨expireFeatures_sound sound, fun _ => rfl⟩
  | wait =>
    cases done
    exact .of_same ⟨sound, fun _ => rfl⟩

theorem keepsManual_later (s : TenantAddons) (now : Instant) (call : AddonCall) :
    call.keepsManual catalog { s with clock := now } now = call.keepsManual catalog s now := by
  cases call <;> rfl

theorem addonStep_followed {a : Instant × AddonCall} (sound : ∀ f, s.Sound catalog f)
    (fits : addonsFit catalog s a = true) (done : addonStep catalog s a = some s') :
    Followed catalog s s' := by
  rw [addonStep] at done
  obtain ⟨lasting, keeps⟩ := Bool.and_eq_true_iff.mp fits
  split at done
  · rename_i order
    have later : ∀ f, ({ s with clock := a.1 } : TenantAddons).Sound catalog f :=
      fun f => (sound f).later order lasting
    have after := applyAddonCall_followed later ((keepsManual_later s a.1 a.2).trans keeps) done
    exact ⟨after.sound, fun f given => after.untried f given⟩
  · cases done

/-- In every run where add-ons and the super admin do not meet, a feature is enabled under any plan while
an add-on gives it, and when it loses the last one its override says what the super admin's overrides
alone say. -/
theorem addon_features {clock : Instant}
    (run : Run (addonStep catalog) (fun s a => addonsFit catalog s a = true) (.empty clock) s) :
    (∀ f, s.provides catalog f = true → ∀ plan, f ∈ s.features plan) ∧
      ∀ a s', addonsFit catalog s a = true → addonStep catalog s a = some s' →
        ∀ f, s.provides catalog f = true → s'.provides catalog f = false →
          s'.override f = s'.manualAlone f := by
  have sound : ∀ f, s.Sound catalog f :=
    run.invariant (P := fun s => ∀ f, s.Sound catalog f) (fun f => .absent rfl rfl rfl)
      fun sound fits done => (addonStep_followed sound fits done).sound
  refine ⟨fun f given plan => (sound f).enabled given plan, fun a s' fits done f given gone => ?_⟩
  have after := addonStep_followed sound fits done
  exact (after.sound f).restored gone (after.untried f given gone)

/-! ### Add-ons that meet the super admin -/

def sepaAddons : AddonCatalog := ⟨fun id => if id ≤ 2 then some ⟨some .sepa, true⟩ else none, id⟩

/-- A trial becomes an add-on, another add-on gives the same feature, and both go. -/
theorem addon_features_tried : ∃ s : TenantAddons,
    s.provides sepaAddons .sepa = true ∧ (∀ plan, .sepa ∈ s.features plan) ∧
      ∃ s', addonStep sepaAddons s (6, .suspend 2) = some s' ∧ s'.provides sepaAddons .sepa = false ∧
        s'.override .sepa = s'.manualAlone .sepa := by
  obtain ⟨s, run, held⟩ := Run.exists_of_exec (addonStep sepaAddons)
    (fun s a => addonsFit sepaAddons s a = true) (.empty 0)
    [(1, .startTrial 1 15 ∅), (2, .assign 1 1), (3, .assign 2 1), (4, .remove 1),
      (5, .setFeatures ∅ [⟨.cameras, true, none⟩])]
    (fun s => s.provides sepaAddons .sepa && addonsFit sepaAddons s (6, .suspend 2) &&
      (addonStep sepaAddons s (6, .suspend 2)).any fun s' => !s'.provides sepaAddons .sepa)
    (by decide +kernel)
  simp only [Bool.and_eq_true] at held
  obtain ⟨⟨given, fits⟩, goes⟩ := held
  obtain ⟨s', done, gone⟩ := (Option.any_eq_true _ _).mp goes
  have gone : s'.provides sepaAddons .sepa = false := by simpa using gone
  obtain ⟨enabled, restored⟩ := addon_features run
  exact ⟨s, given, enabled .sepa given, s', done, gone, restored _ s' fits done .sepa given gone⟩

/-- A setting that leaves a courtesy out takes its feature from under an add-on, and an add-on given over
a block leaves the feature enabled when it is removed. -/
theorem addon_features_lost :
    ¬(∀ s, Reaches (addonStep sepaAddons) (.empty 0) s →
      ∀ f, s.provides sepaAddons f = true → f ∈ s.features ∅) ∧
    ¬(∀ s, Reaches (addonStep sepaAddons) (.empty 0) s →
      ∀ a s', addonStep sepaAddons s a = some s' → ∀ f, s.provides sepaAddons f = true →
        s'.provides sepaAddons f = false → s'.override f = s'.manualAlone f) := by
  constructor
  · intro enabled
    obtain ⟨s, run, lost⟩ := Run.exists_of_exec (addonStep sepaAddons) (fun _ _ => True) (.empty 0)
      [(1, .setFeatures ∅ [⟨.sepa, true, none⟩]), (2, .assign 1 1), (3, .setFeatures ∅ [])]
      (fun s => s.provides sepaAddons .sepa && decide (.sepa ∉ s.features ∅)) (by decide +kernel)
    obtain ⟨given, missing⟩ := Bool.and_eq_true_iff.mp lost
    exact of_decide_eq_true missing (enabled s run .sepa given)
  · intro restored
    obtain ⟨s, run, lost⟩ := Run.exists_of_exec (addonStep sepaAddons) (fun _ _ => True) (.empty 0)
      [(1, .setFeatures {.sepa} [⟨.sepa, false, none⟩]), (2, .assign 1 1)]
      (fun s => s.provides sepaAddons .sepa &&
        (addonStep sepaAddons s (3, .remove 1)).any fun s' : TenantAddons =>
        !s'.provides sepaAddons .sepa && decide (s'.override .sepa ≠ s'.manualAlone .sepa))
      (by decide +kernel)
    obtain ⟨given, goes⟩ := Bool.and_eq_true_iff.mp lost
    obtain ⟨s', done, wrong⟩ := (Option.any_eq_true _ _).mp goes
    obtain ⟨gone, wrong⟩ := Bool.and_eq_true_iff.mp wrong
    exact of_decide_eq_true wrong (restored s run _ s' done .sepa given (by simpa using gone))

end StorageOS
