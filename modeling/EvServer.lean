import EvServer.Billing.InvoiceTotal
import EvServer.Billing.BilledOnce
import EvServer.Json.RequestLock
import EvServer.Json.SettledOnce
import EvServer.Json.Connections
import EvServer.Locking.Expiration
import EvServer.Locking.Takeover
import EvServer.Billing.InvoicePaging
import EvServer.Rest.LogInAttempts
import EvServer.Crypto.Migration
import EvServer.Refund.RefundedOnce
import EvServer.Ocpp.StoppedOnce
import EvServer.Ocpp.InactiveSession
import EvServer.Roaming.PostedOnce
import EvServer.Pricing.AccumulatedPrice
import EvServer.Tags.OneDefault
import EvServer.Tags.PublishedValidity
import EvServer.Roaming.SessionRuns
import EvServer.Roaming.EmspStations
import EvServer.AsyncTask.ExecutedOnce
import EvServer.Assets.ConsumptionChain
import EvServer.Roaming.OicpEvseStatuses
import EvServer.Roaming.OicpHub
import EvServer.Authorization.Interference
import EvServer.Authorization.AssignmentAgreement
import EvServer.Authorization.SiteList
import EvServer.Authorization.TransactionFilters
import EvServer.Authorization.StopAuthorization
import EvServer.Authorization.AuthorizationIDs
import EvServer.Ocpp.ClockReadings
import EvServer.Pricing.ChunkCover
import EvServer.Ocpp.SimplePricing
import EvServer.Ocpp.DatedConsumptions
import EvServer.ChargingStationVendor.CurrentLimit
import EvServer.ChargingStationVendor.StaticLimitation
import EvServer.Rest.StaleStations
import EvServer.SmartCharging.OptimizerFailures
import EvServer.Ocpp.TemplateSections
import EvServer.Rest.CsvExport
import EvServer.Pricing.PricingResolution
import EvServer.Ocpp.OptimizedConsumptions
import EvServer.Assets.LacroixAssetIntegration
import EvServer.Assets.AssetTokenCache
import EvServer.Roaming.OcpiEvseStatuses
import EvServer.Roaming.TokenRequests
import EvServer.SmartCharging.OptimizerPlan
import EvServer.Pricing.TimesOfDay
import EvServer.Authorization.DynamicFilters
import EvServer.Roaming.PulledLocations
import EvServer.Roaming.PaginatedRequests
import EvServer.Rest.StatisticsExport
import EvServer.Organization.AlignOrganizationIDs
import EvServer.Organization.OrganizationRuns
import EvServer.Roaming.CutOffEndpoints
import EvServer.AsyncTask.ImportedOnce
