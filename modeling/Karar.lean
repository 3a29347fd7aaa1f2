import Karar.SubjectPolicy.SupersessionRuns
import Karar.Identity.ResetOnce
import Karar.Identity.AttemptCap
import Karar.Platform.DistributedWindow
import Karar.Tenancy.RedemptionCap
import Karar.TenantBinding.BoundMembership
import Karar.MobileClient.ForwardRuns
import Karar.MobileClient.SendIdentity
import Karar.MobileClient.Abandonment
import Karar.Platform.MigrationRuns
import Karar.Platform.RedactionLaws
import Karar.Platform.PrincipalContext
import Karar.Jurisdiction.VerifiedPrecedence
import Karar.OperatingEntity.MigrationLaw
import Karar.OperatingEntity.Rebinding
import Karar.OperatingEntity.BindingLaw
import Karar.Jurisdiction.Retirement
import Karar.Capability.RestrictOnly
import Karar.Capability.EagerSnapshot
import Karar.Capability.WrongEnvironment
import Karar.Capability.AvailabilityLaw
import Karar.Capability.ClientView
import Karar.JurisdictionPolicy.PackSet
import Karar.JurisdictionPolicy.HistoryStability
import Karar.JurisdictionPolicy.SettingsRestrict
import Karar.Outbox.Fencing
import Karar.Outbox.AggregateOrder
import Karar.Outbox.DeliveryToConsumers
import Karar.Jobs.Fencing
import Karar.Jobs.SingleExecutor
import Karar.Platform.InProcessWindow
import Karar.Platform.CanonicalAddress
import Karar.MobileClient.SendBudget
import Karar.Events.CatalogueProblems
import Karar.Formatting.MoneyText
import Karar.Identity.Lockout
import Karar.Authorization.Revocation
import Karar.Capability.LicenceReason
import Karar.OperatingEntity.AllOrNothing
import Karar.MobileConsent.Overview
import Karar.JurisdictionPolicy.PolicyAnswers
import Karar.Consent.DocumentContent
import Karar.SharedKernel.AllocationFairness
import Karar.Platform.WireFormat
import Karar.MobileClient.StartupRuns
