import FrixelConnect.AddressPlan
import FrixelConnect.Anonymisation
import FrixelConnect.AuditTrail
import FrixelConnect.BillingStatus
import FrixelConnect.ChargedAmounts
import FrixelConnect.Decimals.Context
import FrixelConnect.Enrolment
import FrixelConnect.Etims
import FrixelConnect.FleetIsolation
import FrixelConnect.GracePeriod
import FrixelConnect.GuestPasswords
import FrixelConnect.HonestClient
import FrixelConnect.HotspotServer
import FrixelConnect.ImpersonationTrail
import FrixelConnect.Interleaving.Fenced
import FrixelConnect.Interleaving.Interpret
import FrixelConnect.Interleaving.LoopRule
import FrixelConnect.InvoiceDispatch
import FrixelConnect.InvoiceNumbers
import FrixelConnect.InvoiceTask
import FrixelConnect.ManualBilling
import FrixelConnect.ManualPayment
import FrixelConnect.NetworkRetries
import FrixelConnect.Onboarding
import FrixelConnect.PackageNames
import FrixelConnect.PaidMonth
import FrixelConnect.PaybillCredit
import FrixelConnect.PaymentDelivery
import FrixelConnect.PaymentStatus
import FrixelConnect.PeerRequests
import FrixelConnect.PhoneLogin
import FrixelConnect.Phones
import FrixelConnect.PlatformBilling
import FrixelConnect.PollerReceipts
import FrixelConnect.PppoeServer
import FrixelConnect.ProfileUpdate
import FrixelConnect.Python.Ipaddress
import FrixelConnect.Python.Urls
import FrixelConnect.RadiusAddressing
import FrixelConnect.RadiusBacking
import FrixelConnect.RateLimit
import FrixelConnect.ReadIsolation
import FrixelConnect.RefreshQueue
import FrixelConnect.Renewals
import FrixelConnect.ReplyAttributes
import FrixelConnect.ResellerSale
import FrixelConnect.RouterFleet
import FrixelConnect.RouterHeartbeat
import FrixelConnect.RouterOs
import FrixelConnect.ScriptText
import FrixelConnect.SecondFactor
import FrixelConnect.SessionIsolation
import FrixelConnect.SessionUsage
import FrixelConnect.SetupTokens
import FrixelConnect.Specs.Generation
import FrixelConnect.StoredSession
import FrixelConnect.SuperAdminPages
import FrixelConnect.SuspendedSecrets
import FrixelConnect.Tables.Bags
import FrixelConnect.Tables.Keyed
import FrixelConnect.TenantIsolation
import FrixelConnect.TenantReads
import FrixelConnect.TenantRegistration
import FrixelConnect.TokenCache
import FrixelConnect.TrialLimit
import FrixelConnect.VoucherBacking
import FrixelConnect.VoucherClock
import FrixelConnect.VoucherCredentials
import FrixelConnect.VoucherPayments
import FrixelConnect.VoucherWithdrawal
import FrixelConnect.WalletReferences
