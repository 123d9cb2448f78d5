import StorageOS.Billing.Chain
import StorageOS.Billing.HashInvariant
import StorageOS.Billing.Numbering
import StorageOS.Payments.BundledRefund
import StorageOS.Payments.GatewayEvents
import StorageOS.Billing.ContractCredit
import StorageOS.Contracts.Occupancy
import StorageOS.Contracts.SignalCredit
import StorageOS.Billing.LateFeeSteps
import StorageOS.Sepa.Exclusion
import StorageOS.Sepa.ConfirmedOnce
import StorageOS.Sepa.SequenceHistory
import StorageOS.Access.LimitedUses
import StorageOS.Access.Revocation
import StorageOS.Bank.MovementsOnce
import StorageOS.Bank.N43Decoding
import StorageOS.Collections.Cases
import StorageOS.Collections.Settlement
import StorageOS.Coupons.UsesCounted
import StorageOS.Dunning.DebtorsCut
import StorageOS.Dunning.NeverLate
import StorageOS.Access.ScopeSound
import StorageOS.Payments.RedsysOnce
import StorageOS.Auth.ReuseDetection
import StorageOS.Auth.SessionsClosed
import StorageOS.Collections.PlansExclusive
import StorageOS.Maintenance.VisitsOnce
import StorageOS.Saas.MoneyReturned
import StorageOS.Billing.AeatFaithful
import StorageOS.Payments.ReportRuns
import StorageOS.Auth.GatesHold
import StorageOS.Integrations.DeliveredOnce
import StorageOS.Saas.DebtorsOnly
import StorageOS.Products.StockLedger
import StorageOS.Saas.AddonFeatures
import StorageOS.Accounting.HoldedOnce
import StorageOS.Accounting.HoldedAgree
import StorageOS.Saas.PeriodsPaid
import StorageOS.Saas.ApprovedOnce
import StorageOS.Users.SeatsHold
import StorageOS.Payments.ManualRefunds
import StorageOS.Auth.SecondFactor
import StorageOS.Contracts.IncreasesHold
import StorageOS.Contracts.OffersHold
import StorageOS.Contracts.BookingsExclusive
import StorageOS.Contracts.Signing
import StorageOS.Contracts.AutoRenewal
import StorageOS.Contracts.PrepayCredit
import StorageOS.Common.ZonedDays
import StorageOS.Billing.NextChargeAgrees
import StorageOS.Contracts.RentNonnegative
import StorageOS.Billing.FullCancellation
import StorageOS.Billing.RefundCreditNotes
import StorageOS.Collections.Installments
import StorageOS.Sepa.CollectionDates
import StorageOS.Sepa.CheckDigits
import StorageOS.Routing.CustomDomain
import StorageOS.Bank.AutoMatches
import StorageOS.Reminders.DatesKept
import StorageOS.Security.Ipv6
import StorageOS.Coupons.FirstPayment
import StorageOS.Sepa.Pain008Faithful
import StorageOS.Billing.RegistroAgrees
import StorageOS.Billing.Rewards
import StorageOS.Saas.MonthsOwed
import StorageOS.Analytics.Pricing
import StorageOS.Contracts.Anniversaries
import StorageOS.Saas.CollectedBilled
import StorageOS.Fiscal.Reports
