import Mathlib.Data.Finset.Erase
import Mathlib.Data.Finset.Insert
import StorageOS.Billing.Rows

/-! The add-ons of a tenant and the overrides of its features. An override is a courtesy or a block of the
super admin, a free trial, or what an add-on gives; there is one for each feature. -/

namespace StorageOS

abbrev SaasAddonId := ℕ
abbrev StripeItemId := ℕ

inductive TenantFeature
  | aiAssistant
  | sepa
  | bankReconciliation
  | rentIncreases
  | insurance
  | accessControl
  | automations
  | customDomain
  | collections
  | cameras
  | facialAccess
  | webPremium
  | housing
  | multiOwner
  | whatsappBusiness
  | localSeo
  | brandedPanel
  | businessReminders
  deriving DecidableEq

/-- `feature` is `none` also for a name that is not a feature: both are left alone. -/
structure SaasAddon where
  feature : Option TenantFeature
  isActive : Bool

/-- The catalogue of add-ons, and `zonedNextDayStart`. -/
structure AddonCatalog where
  addon : SaasAddonId → Option SaasAddon
  nextDayStart : Date → Instant

inductive AddonBillingMode
  | manual
  | stripe
  deriving DecidableEq

/-- `TenantSubscriptionAddon`, under its add-on. -/
structure TenantAddon where
  quantity : ℕ
  nextChargeAt : Option Instant
  suspendedAt : Option Instant
  billingMode : AddonBillingMode
  stripeSubscriptionItemId : Option StripeItemId

inductive OverrideSource
  | manual
  | addon
  | trial
  deriving DecidableEq

/-- `TenantFeatureOverride`, under its feature. -/
structure FeatureOverride where
  enabled : Bool
  source : OverrideSource
  expiresAt : Option Instant
  trialAddonId : Option SaasAddonId

structure ManualOverride where
  enabled : Bool
  expiresAt : Option Instant

/-- `manual` records the overrides that the super admin last set, whatever has become of their rows. -/
structure TenantAddons where
  clock : Instant
  assignments : Table SaasAddonId TenantAddon
  overrides : Table TenantFeature FeatureOverride
  manual : TenantFeature → Option ManualOverride

def TenantAddons.empty (clock : Instant) : TenantAddons := ⟨clock, .empty, .empty, fun _ => none⟩

/-- `liveOverrideWhere`. -/
def liveOverride (now : Instant) (expiresAt : Option Instant) : Bool := expiresAt.all (now < ·)

/-- `effectiveFeaturesFromList`: the features of the plan, with those that are enabled and without those
that are disabled. -/
def effectiveFeaturesFromList (base : Finset TenantFeature)
    (overrides : List (TenantFeature × Bool)) : Finset TenantFeature :=
  overrides.foldl (fun set o => if o.2 then insert o.1 set else set.erase o.1) base

/-- `tenantFeatures`: the overrides in force, over the plan. -/
def TenantAddons.features (s : TenantAddons) (plan : Finset TenantFeature) : Finset TenantFeature :=
  effectiveFeaturesFromList plan ((s.overrides.rows.filter fun row =>
    liveOverride s.clock row.2.expiresAt).map fun row => (row.1, row.2.enabled))

variable (catalog : AddonCatalog)

def TenantAddons.provides (s : TenantAddons) (feature : TenantFeature) : Bool :=
  s.assignments.rows.any fun row =>
    row.2.suspendedAt.isNone && (catalog.addon row.1).any (·.feature = some feature)

def givenByAddon : FeatureOverride := ⟨true, .addon, none, none⟩

def reconcileFeatureOverride (s : TenantAddons) : Option TenantFeature → TenantAddons
  | none => s
  | some feature =>
    if s.provides catalog feature then
      { s with
        overrides := s.overrides.upsert feature givenByAddon fun existing =>
          if existing.source = .trial then givenByAddon else { existing with enabled := true } }
    else
      { s with
        overrides := s.overrides.deleteMany fun row => row.1 = feature && row.2.source = .addon }

def AddonCatalog.featureOf (addonId : SaasAddonId) : Option TenantFeature :=
  (catalog.addon addonId).bind (·.feature)

def assignAddon (s : TenantAddons) (addonId : SaasAddonId) (quantity : ℕ) : Option TenantAddons :=
  (catalog.addon addonId).bind fun addon =>
    if (s.assignments.find addonId).isNone && !addon.isActive then none
    else some (reconcileFeatureOverride catalog
      { s with
        assignments := s.assignments.upsert addonId ⟨quantity, some s.clock, none, .manual, none⟩
          fun row =>
            { row with
              quantity
              suspendedAt := none
              nextChargeAt := if row.suspendedAt.isSome then some s.clock else row.nextChargeAt } }
      (catalog.featureOf addonId))

def removeAddon (s : TenantAddons) (addonId : SaasAddonId) : Option TenantAddons :=
  (s.assignments.find addonId).map fun _ => reconcileFeatureOverride catalog
    { s with assignments := s.assignments.deleteMany fun row => row.1 = addonId }
    (catalog.featureOf addonId)

def suspendAddon (s : TenantAddons) (addonId : SaasAddonId) : Option TenantAddons :=
  (s.assignments.find addonId).bind fun row =>
    if row.suspendedAt.isSome then none
    else some (reconcileFeatureOverride catalog
      { s with
        assignments := s.assignments.modify addonId fun row =>
          { row with
            suspendedAt := some s.clock
            nextChargeAt := none
            billingMode := .manual
            stripeSubscriptionItemId := none } }
      (catalog.featureOf addonId))

def reactivateAddon (s : TenantAddons) (addonId : SaasAddonId) : Option TenantAddons :=
  (s.assignments.find addonId).bind fun row =>
    if row.suspendedAt.isNone then none
    else some (reconcileFeatureOverride catalog
      { s with
        assignments := s.assignments.modify addonId fun row =>
          { row with suspendedAt := none, nextChargeAt := some s.clock } }
      (catalog.featureOf addonId))

/-- The add-ons to be suspended for non-payment: `days` is `suspendDays` when dunning is enabled, and
`exempt` that the tenant is deleted, exempt, or charged by SEPA or by card. -/
def lapsedManualAddons (s : TenantAddons) (days : Option ℕ) (exempt : Bool) : List SaasAddonId :=
  match days with
  | none => []
  | some days =>
    if exempt then []
    else (s.assignments.rows.filter fun row => row.2.billingMode ≠ .stripe &&
      row.2.suspendedAt.isNone && row.2.nextChargeAt.any (· < s.clock - days * 86400000)).map Prod.fst

def suspendLapsedManualAddons (s : TenantAddons) (days : Option ℕ) (exempt : Bool) : TenantAddons :=
  (lapsedManualAddons s days exempt).foldl
    (fun s addonId => (suspendAddon catalog s addonId).getD s) s

/-- The change to Stripe needs the Stripe subscription of the tenant, and stores the new item. -/
def setAddonBillingMode (s : TenantAddons) (addonId : SaasAddonId) (mode : AddonBillingMode)
    (item : Option StripeItemId) : Option TenantAddons :=
  (s.assignments.find addonId).bind fun row =>
    if row.suspendedAt.isSome || row.billingMode = mode then none
    else match mode with
      | .stripe => item.map fun item =>
        { s with
          assignments := s.assignments.modify addonId fun row =>
            { row with
              billingMode := .stripe, stripeSubscriptionItemId := some item, nextChargeAt := none } }
      | .manual => some
        { s with
          assignments := s.assignments.modify addonId fun row =>
            { row with
              billingMode := .manual
              stripeSubscriptionItemId := none
              nextChargeAt := some s.clock } }

/-- A free trial: the add-on is not assigned, nothing gives its feature but a trial or a block, and the
plan does not include it. -/
def startTrial (s : TenantAddons) (addonId : SaasAddonId) (days : ℕ) (plan : Finset TenantFeature) :
    Option TenantAddons :=
  (catalog.addon addonId).bind fun addon => addon.feature.bind fun feature =>
    let existing := s.overrides.find feature
    if !addon.isActive || (s.assignments.find addonId).any (·.suspendedAt.isNone) ||
        existing.any (·.source = .addon) || feature ∈ plan ||
        existing.any (fun row => row.source = .manual && row.enabled) then none
    else
      let trial := ⟨true, .trial, some (s.clock + days * 86400000), some addonId⟩
      some { s with overrides := s.overrides.upsert feature trial fun _ => trial }

structure FeatureSetting where
  feature : TenantFeature
  enabled : Bool
  expiresAt : Option Date

def FeatureSetting.changes (plan : Finset TenantFeature) (o : FeatureSetting) : Bool :=
  o.enabled ≠ decide (o.feature ∈ plan)

def FeatureSetting.override (o : FeatureSetting) : ManualOverride :=
  ⟨o.enabled, o.expiresAt.map catalog.nextDayStart⟩

/-- The super admin's overrides are written again. Settings for a feature that an add-on or a trial manages
are none: they are dropped. Two settings of one feature break the unique index. -/
def setFeatures (s : TenantAddons) (plan : Finset TenantFeature) (settings : List FeatureSetting) :
    Option TenantAddons :=
  let effective := settings.filter fun o =>
    o.changes plan && (s.overrides.find o.feature).all (·.source = .manual)
  if (effective.map FeatureSetting.feature).Nodup then
    some { s with
      overrides := effective.foldl
        (fun rows o =>
          let row := ⟨o.enabled, .manual, o.expiresAt.map catalog.nextDayStart, none⟩
          rows.upsert o.feature row fun _ => row)
        (s.overrides.deleteMany fun row => row.2.source = .manual)
      manual := fun feature =>
        (effective.find? fun o => o.feature = feature).map (FeatureSetting.override catalog) }
  else none

def expireFeatures (s : TenantAddons) : TenantAddons :=
  { s with overrides := s.overrides.deleteMany fun row => !liveOverride s.clock row.2.expiresAt }

inductive AddonCall
  | assign (addonId : SaasAddonId) (quantity : ℕ)
  | remove (addonId : SaasAddonId)
  | suspend (addonId : SaasAddonId)
  | suspendLapsed (days : Option ℕ) (exempt : Bool)
  | reactivate (addonId : SaasAddonId)
  | setBillingMode (addonId : SaasAddonId) (mode : AddonBillingMode) (item : Option StripeItemId)
  | startTrial (addonId : SaasAddonId) (days : ℕ) (plan : Finset TenantFeature)
  | setFeatures (plan : Finset TenantFeature) (settings : List FeatureSetting)
  | expire
  | wait

def applyAddonCall (s : TenantAddons) : AddonCall → Option TenantAddons
  | .assign addonId quantity => assignAddon catalog s addonId quantity
  | .remove addonId => removeAddon catalog s addonId
  | .suspend addonId => suspendAddon catalog s addonId
  | .suspendLapsed days exempt => some (suspendLapsedManualAddons catalog s days exempt)
  | .reactivate addonId => reactivateAddon catalog s addonId
  | .setBillingMode addonId mode item => setAddonBillingMode s addonId mode item
  | .startTrial addonId days plan => startTrial catalog s addonId days plan
  | .setFeatures plan settings => setFeatures catalog s plan settings
  | .expire => some (expireFeatures s)
  | .wait => some s

def addonStep (s : TenantAddons) (a : Instant × AddonCall) : Option TenantAddons :=
  if s.clock ≤ a.1 then applyAddonCall catalog { s with clock := a.1 } a.2 else none

end StorageOS
