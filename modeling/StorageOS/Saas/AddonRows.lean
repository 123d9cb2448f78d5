import StorageOS.Saas.Addons

/-! The override of a feature beside the add-ons that give it and what the super admin set: what the row
is in each case, which calls keep it so, and how it is kept as time passes and by a reconciliation. -/

namespace StorageOS

variable {catalog : AddonCatalog} {s s' : TenantAddons} {f g : TenantFeature} {row : FeatureOverride}
  {addonId : SaasAddonId} {call : AddonCall}

/-! ### Features -/

variable {base : Finset TenantFeature} {overrides : List (TenantFeature × Bool)} {now : Instant}
  {feature : Option TenantFeature}

theorem mem_effectiveFeatures_of_not_mem (other : f ∉ overrides.map Prod.fst) :
    f ∈ effectiveFeaturesFromList base overrides ↔ f ∈ base := by
  induction overrides generalizing base with
  | nil => exact .rfl
  | cons o rest ih =>
    rw [List.map_cons, List.mem_cons, not_or] at other
    rw [effectiveFeaturesFromList, List.foldl_cons]
    refine (ih other.2).trans ?_
    split <;> simp [other.1]

theorem mem_effectiveFeatures (distinct : (overrides.map Prod.fst).Nodup) (enabled : (f, true) ∈ overrides) :
    f ∈ effectiveFeaturesFromList base overrides := by
  induction overrides generalizing base with
  | nil => cases enabled
  | cons o rest ih =>
    rw [List.map_cons, List.nodup_cons] at distinct
    rw [effectiveFeaturesFromList, List.foldl_cons]
    rcases List.mem_cons.mp enabled with rfl | enabled
    · refine (mem_effectiveFeatures_of_not_mem distinct.1).mpr ?_
      exact Finset.mem_insert_self f base
    · exact ih distinct.2 enabled

theorem mem_features (found : s.overrides.find f = some row) (enabled : row.enabled = true)
    (live : liveOverride s.clock row.expiresAt = true) (plan : Finset TenantFeature) :
    f ∈ s.features plan := by
  refine mem_effectiveFeatures ?_ ?_
  · rw [List.map_map]
    exact s.overrides.distinct.sublist (List.filter_sublist.map _)
  · refine List.mem_map.mpr ⟨(f, row), List.mem_filter.mpr ⟨Table.mem_of_find found, live⟩, ?_⟩
    rw [enabled]

def TenantAddons.override (s : TenantAddons) (f : TenantFeature) : Option Bool :=
  ((s.overrides.find f).filter fun row => liveOverride s.clock row.expiresAt).map (·.enabled)

def TenantAddons.manualAlone (s : TenantAddons) (f : TenantFeature) : Option Bool :=
  ((s.manual f).filter fun m => liveOverride s.clock m.expiresAt).map (·.enabled)

theorem provides_iff : s.provides catalog f = true ↔
    ∃ k a, s.assignments.find k = some a ∧ a.suspendedAt = none ∧ catalog.featureOf k = some f := by
  rw [TenantAddons.provides, Table.any_rows]
  refine exists_congr fun k => exists_congr fun a => and_congr_right fun _ => ?_
  rw [Bool.and_eq_true, Option.isNone_iff_eq_none, AddonCatalog.featureOf]
  refine and_congr_right fun _ => ?_
  cases catalog.addon k <;> simp

theorem provides_congr (same : ∀ k, k ≠ addonId → s'.assignments.find k = s.assignments.find k)
    (other : catalog.featureOf addonId ≠ some f) :
    s'.provides catalog f = s.provides catalog f := by
  rw [Bool.eq_iff_iff, provides_iff, provides_iff]
  refine exists_congr fun k => exists_congr fun a => ?_
  by_cases own : k = addonId
  · subst own
    exact ⟨fun given => absurd given.2.2 other, fun given => absurd given.2.2 other⟩
  · rw [same k own]

/-! ### The rows -/

/-- The row of a feature: none where the super admin's override has expired and nothing is given, the
super admin's own, an add-on's while one gives the feature, or a trial's while none does. -/
inductive TenantAddons.Sound (catalog : AddonCatalog) (s : TenantAddons) (f : TenantFeature) : Prop
  | absent (missing : s.overrides.find f = none) (idle : s.provides catalog f = false)
      (alone : s.manualAlone f = none)
  | manual {row : FeatureOverride} (found : s.overrides.find f = some row)
      (source : row.source = .manual) (own : s.manual f = some ⟨row.enabled, row.expiresAt⟩)
      (given : s.provides catalog f = true →
        row.enabled = true ∧ liveOverride s.clock row.expiresAt = true)
  | addon {row : FeatureOverride} (found : s.overrides.find f = some row)
      (source : row.source = .addon) (given : s.provides catalog f = true)
      (enabled : row.enabled = true) (lasting : row.expiresAt = none)
      (alone : s.manualAlone f = none)
  | trial {row : FeatureOverride} (found : s.overrides.find f = some row)
      (source : row.source = .trial) (idle : s.provides catalog f = false)
      (alone : s.manualAlone f = none)

theorem manualAlone_congr (manual : s'.manual f = s.manual f) (clock : s'.clock = s.clock) :
    s'.manualAlone f = s.manualAlone f := by
  rw [TenantAddons.manualAlone, TenantAddons.manualAlone, manual, clock]

variable (sound : s.Sound catalog f)
include sound

theorem TenantAddons.Sound.congr (row : s'.overrides.find f = s.overrides.find f)
    (given : s'.provides catalog f = s.provides catalog f) (manual : s'.manual f = s.manual f)
    (clock : s'.clock = s.clock) : s'.Sound catalog f := by
  have same := manualAlone_congr manual clock
  cases sound with
  | absent missing idle alone =>
    exact .absent (row.trans missing) (given.trans idle) (same.trans alone)
  | manual found source own enabled =>
    exact .manual (row.trans found) source (manual.trans own) (by rwa [given, clock])
  | addon found source on enabled lasting alone =>
    exact .addon (row.trans found) source (given.trans on) enabled lasting (same.trans alone)
  | trial found source idle alone =>
    exact .trial (row.trans found) source (given.trans idle) (same.trans alone)

theorem TenantAddons.Sound.enabled (given : s.provides catalog f = true) (plan : Finset TenantFeature) :
    f ∈ s.features plan := by
  cases sound with
  | absent missing idle alone =>
    rw [idle] at given
    cases given
  | manual found source own enabled =>
    exact mem_features found (enabled given).1 (enabled given).2 plan
  | addon found source on enabled lasting alone =>
    exact mem_features found enabled (by rw [lasting]; rfl) plan
  | trial found source idle alone =>
    rw [idle] at given
    cases given

/-- A feature that no add-on gives, and no trial, is as the super admin's overrides alone say. -/
theorem TenantAddons.Sound.restored (gone : s.provides catalog f = false)
    (untried : ∀ row, s.overrides.find f = some row → row.source ≠ .trial) : s.override f = s.manualAlone f := by
  cases sound with
  | absent missing idle alone =>
    rw [TenantAddons.override, missing, alone]
    rfl
  | @manual row found source own enabled =>
    rw [TenantAddons.override, TenantAddons.manualAlone, found, own, Option.filter_some,
      Option.filter_some]
    by_cases live : liveOverride s.clock row.expiresAt = true <;> simp [live]
  | addon found source given =>
    rw [given] at gone
    cases gone
  | trial found source => exact absurd source (untried _ found)

theorem TenantAddons.Sound.untried (given : s.provides catalog f = true) (found : s.overrides.find f = some row) :
    row.source ≠ .trial := by
  cases sound with
  | absent missing =>
    rw [missing] at found
    cases found
  | manual found' source | addon found' source =>
    rw [found'] at found
    cases found
    rw [source]
    exact OverrideSource.noConfusion
  | trial found' source idle =>
    rw [idle] at given
    cases given

omit sound

/-! ### Conditions -/

def FeatureSetting.courtesy (catalog : AddonCatalog) (now : Instant) (plan : Finset TenantFeature)
    (f : TenantFeature) (o : FeatureSetting) : Bool :=
  o.feature = f && o.enabled && o.changes plan &&
    liveOverride now (o.expiresAt.map catalog.nextDayStart)

def courtesiesLast (catalog : AddonCatalog) (s : TenantAddons) (now : Instant) : Bool :=
  s.overrides.rows.all fun row =>
    !s.provides catalog row.1 || row.2.source ≠ .manual || liveOverride now row.2.expiresAt

/-- The super admin's override is a courtesy in force, where there is one. -/
def notBlocked (catalog : AddonCatalog) (s : TenantAddons) (now : Instant) (addonId : SaasAddonId) :
    Bool :=
  (catalog.featureOf addonId).all fun f => (s.overrides.find f).all fun row =>
    row.source ≠ .manual || (row.enabled && liveOverride now row.expiresAt)

/-- What the calls must not do: give an add-on, or a trial, over a block, give an add-on over a courtesy
that has expired, or take a courtesy from under an add-on. -/
def AddonCall.keepsManual (catalog : AddonCatalog) (s : TenantAddons) (now : Instant) :
    AddonCall → Bool
  | .assign addonId _ | .reactivate addonId => notBlocked catalog s now addonId
  | .startTrial addonId _ _ => (catalog.featureOf addonId).all fun f =>
    (s.overrides.find f).all fun row =>
      row.source ≠ .manual || row.enabled || !liveOverride now row.expiresAt
  | .setFeatures plan settings => s.overrides.rows.all fun row =>
    !s.provides catalog row.1 || row.2.source ≠ .manual ||
      settings.any (FeatureSetting.courtesy catalog now plan row.1)
  | .remove _ | .suspend _ | .suspendLapsed .. | .setBillingMode .. | .expire | .wait => true

def addonsFit (catalog : AddonCatalog) (s : TenantAddons) (a : Instant × AddonCall) : Bool :=
  courtesiesLast catalog s a.1 && a.2.keepsManual catalog s a.1

/-! ### Time -/

theorem liveOverride_of_later {now later : Instant} {expiresAt : Option Instant} (order : now ≤ later)
    (live : liveOverride later expiresAt = true) : liveOverride now expiresAt = true := by
  cases expiresAt with
  | none => rfl
  | some moment => exact decide_eq_true (order.trans_lt (of_decide_eq_true live))

theorem manualAlone_later (order : s.clock ≤ now) (alone : s.manualAlone f = none) :
    ({ s with clock := now } : TenantAddons).manualAlone f = none := by
  simp only [TenantAddons.manualAlone, Option.map_eq_none_iff, Option.filter_eq_none_iff] at alone ⊢
  exact fun m set live => alone m set (liveOverride_of_later order live)

theorem TenantAddons.Sound.later (sound : s.Sound catalog f) (order : s.clock ≤ now)
    (lasting : courtesiesLast catalog s now = true) :
    ({ s with clock := now } : TenantAddons).Sound catalog f := by
  cases sound with
  | absent missing idle alone => exact .absent missing idle (manualAlone_later order alone)
  | @manual row found source own enabled =>
    refine .manual found source own fun given => ⟨(enabled given).1, ?_⟩
    have lasts := List.all_eq_true.mp lasting _ (Table.mem_of_find found)
    have on : s.provides catalog f = true := given
    simpa [on, source] using lasts
  | addon found source on enabled forever alone =>
    exact .addon found source on enabled forever (manualAlone_later order alone)
  | trial found source idle alone =>
    exact .trial found source idle (manualAlone_later order alone)

/-! ### Reconciliation -/

theorem provides_reconcile (s : TenantAddons) (feature : Option TenantFeature) (f : TenantFeature) :
    (reconcileFeatureOverride catalog s feature).provides catalog f = s.provides catalog f := by
  cases feature with
  | none => rfl
  | some g =>
    rw [reconcileFeatureOverride]
    split <;> rfl

theorem find_reconcile_ne (other : feature ≠ some f) :
    (reconcileFeatureOverride catalog s feature).overrides.find f = s.overrides.find f := by
  cases feature with
  | none => rfl
  | some g =>
    have ne : f ≠ g := fun same => other (by rw [same])
    rw [reconcileFeatureOverride]
    split
    · exact (Table.find_upsert ..).trans (if_neg ne)
    · refine (Table.find_deleteMany ..).trans ?_
      cases s.overrides.find f <;> simp [ne]

theorem reconcile_manual (s : TenantAddons) (feature : Option TenantFeature) :
    (reconcileFeatureOverride catalog s feature).manual = s.manual ∧
      (reconcileFeatureOverride catalog s feature).clock = s.clock := by
  cases feature with
  | none => exact ⟨rfl, rfl⟩
  | some g =>
    rw [reconcileFeatureOverride]
    split <;> exact ⟨rfl, rfl⟩

theorem find_reconcile_trial (found : (reconcileFeatureOverride catalog s feature).overrides.find f = some row)
    (source : row.source = .trial) : s.overrides.find f = some row := by
  by_cases own : feature = some f
  · subst own
    rw [reconcileFeatureOverride] at found
    split at found
    · rw [Table.find_upsert_self] at found
      cases found
      cases there : s.overrides.find f with
      | none =>
        rw [there] at source
        cases source
      | some row =>
        rw [there] at source
        dsimp only [Option.elim_some] at source
        split at source
        · cases source
        · contradiction
    · rw [Table.find_deleteMany] at found
      exact (Option.filter_eq_some_iff.mp found).1
  · rwa [find_reconcile_ne own] at found

/-- The row of the feature whose add-ons have changed, where a courtesy is in force under an add-on. -/
theorem TenantAddons.Sound.reconcile (sound : s.Sound catalog f)
    (assignments : Table SaasAddonId TenantAddon)
    (kept : ∀ row, s.overrides.find f = some row → row.source = .manual →
      ({ s with assignments } : TenantAddons).provides catalog f = true →
      row.enabled = true ∧ liveOverride s.clock row.expiresAt = true) :
    (reconcileFeatureOverride catalog { s with assignments } (some f)).Sound catalog f := by
  have on : (reconcileFeatureOverride catalog { s with assignments } (some f)).provides catalog f =
      TenantAddons.provides catalog { s with assignments } f := provides_reconcile ..
  rw [reconcileFeatureOverride] at on ⊢
  split
  · rename_i given
    rw [if_pos given] at on
    cases sound with
    | absent missing idle alone =>
      refine .addon ?_ (show givenByAddon.source = .addon from rfl) given rfl rfl alone
      exact (Table.find_upsert_self ..).trans (by rw [missing]; rfl)
    | @manual row found source own enabled =>
      obtain ⟨yes, live⟩ := kept row found source given
      refine .manual ?_ source own fun _ => ⟨yes, live⟩
      refine (Table.find_upsert_self ..).trans ?_
      have manual : row.source ≠ .trial := by
        rw [source]
        exact OverrideSource.noConfusion
      rw [found, Option.elim_some, if_neg manual, ← yes]
    | @addon row found source _ enabled lasting alone =>
      refine .addon ?_ source given enabled lasting alone
      refine (Table.find_upsert_self ..).trans ?_
      have addon : row.source ≠ .trial := by
        rw [source]
        exact OverrideSource.noConfusion
      rw [found, Option.elim_some, if_neg addon, ← enabled]
    | trial found source idle alone =>
      refine .addon ?_ (show givenByAddon.source = .addon from rfl) given rfl rfl alone
      refine (Table.find_upsert_self ..).trans ?_
      rw [found, Option.elim_some, if_pos source]
  · rename_i idle
    rw [if_neg idle] at on
    have off := on.trans (Bool.eq_false_iff.mpr idle)
    have kept_row : ∀ row, s.overrides.find f = some row → row.source ≠ .addon →
        (s.overrides.deleteMany fun row => row.1 = f && row.2.source = .addon).find f = some row :=
      fun row found other => by
        rw [Table.find_deleteMany, found]
        simp [other]
    cases sound with
    | absent missing _ alone =>
      refine .absent ?_ off alone
      exact (Table.find_deleteMany ..).trans (by rw [missing]; rfl)
    | @manual row found source own enabled =>
      refine .manual (kept_row row found ?_) source own fun given => ?_
      · rw [source]
        exact OverrideSource.noConfusion
      · rw [off] at given
        cases given
    | addon found source _ enabled lasting alone =>
      refine .absent ?_ off alone
      refine (Table.find_deleteMany ..).trans ?_
      rw [found]
      simp [source]
    | @trial row found source _ alone =>
      refine .trial (kept_row row found ?_) source off alone
      rw [source]
      exact OverrideSource.noConfusion

end StorageOS
