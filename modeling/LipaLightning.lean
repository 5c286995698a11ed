import LipaLightning.Basic.Runs
import LipaLightning.Basic.KeyedTable
import LipaLightning.Basic.Latest
import LipaLightning.Basic.Scanner
import LipaLightning.Basic.Sql
import LipaLightning.Basic.SqlMigration
import LipaLightning.Basic.SqlRebuild
import LipaLightning.Basic.DirectedRounding
import LipaLightning.Basic.CheckedArith
import LipaLightning.Basic.Traced
import LipaLightning.Basic.FirstOfEach
import LipaLightning.Basic.BracketGroups
import LipaLightning.Basic.Transitions
import LipaLightning.Text
import LipaLightning.Errors
import LipaLightning.Amount
import LipaLightning.AmountRounding
import LipaLightning.Offer
import LipaLightning.DataStore.Schema
import LipaLightning.DataStore.Store
import LipaLightning.DataStore.Payments
import LipaLightning.DataStore.HistoricRates
import LipaLightning.DataStore.BackupStatus
import LipaLightning.DataStore.InvoiceTable
import LipaLightning.DataStore.Migrations
import LipaLightning.DataStore.PaymentQuery
import LipaLightning.DataStore.MigratedPayments
import LipaLightning.Backup
import LipaLightning.Recovery.SymmetricEncryption
import LipaLightning.Recovery.Recovery
import LipaLightning.Invoice
import LipaLightning.Support
import LipaLightning.Lightning
import LipaLightning.ExchangeRates
import LipaLightning.HealthCheck
import LipaLightning.FiatTopup
import LipaLightning.NotificationHandling
import LipaLightning.NotificationHandling.LnurlPay
import LipaLightning.NotificationHandling.Dispatch
import LipaLightning.LibraryAction
import LipaLightning.PaymentMetadata
import LipaLightning.RefusedPayments
import LipaLightning.OfferErrors
import LipaLightning.CollectionRecords
import LipaLightning.Activity.Payment
import LipaLightning.Activity.Activity
import LipaLightning.Activity.Activities
import LipaLightning.Activity.Listing
import LipaLightning.Activity.Agreement
import LipaLightning.Activity.Stability
import LipaLightning.LightningAddresses
import LipaLightning.CreatedInvoices
import LipaLightning.Activity.Selection
import LipaLightning.Activity.SettledInvoices
import LipaLightning.Config.Analytics
import LipaLightning.Config.Preferences
import LipaLightning.Config.FeatureFlags
import LipaLightning.Onchain.Resolving
import LipaLightning.Onchain.Swap
import LipaLightning.Onchain.ChannelCloses
import LipaLightning.Onchain.OfferedSwaps
import LipaLightning.Onchain.RecoveredFunds
import LipaLightning.Onchain.PreparedSweeps
import LipaLightning.Onchain.QuotedFees
import LipaLightning.PayoutFee
import LipaLightning.PaymentAffordability
import LipaLightning.DisplayedLimits
import LipaLightning.CheckedAmounts
import LipaLightning.Parser.Nom
import LipaLightning.Parser.LightningAddress
import LipaLightning.Parser.AddressGrammar
import LipaLightning.Parser.AddressScanner
import LipaLightning.Parser.LabelParsing
import LipaLightning.Parser.AddressParsing
import LipaLightning.Parser.PhoneNumber
import LipaLightning.Parser.PhoneNumberPrefix
import LipaLightning.PhoneAddresses
import LipaLightning.RecentRecipients
import LipaLightning.ByteArrays
import LipaLightning.AsyncRuntime
import LipaLightning.Basic.Interleaving
import LipaLightning.TaskManager
import LipaLightning.ReceiveLimits
import LipaLightning.UncompletedOffers
import LipaLightning.DataStore.Frames
import LipaLightning.ActionsRequired
import LipaLightning.NotificationHandling.Waiting
import LipaLightning.DataStore.Integrity
import LipaLightning.WalletLife
import LipaLightning.TopupRegistrations
import LipaLightning.Activity.Lookups
import LipaLightning.Activity.PersonalNotes
import LipaLightning.Basic.ReplaceFirst
import LipaLightning.WebhookUrl
import LipaLightning.AddressHistory
import LipaLightning.Onchain.ReverseSwap
import LipaLightning.DecodedPayments
import LipaLightning.Basic.InFlight
import LipaLightning.LspFees
import LipaLightning.DurableBackups
