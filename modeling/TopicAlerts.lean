import TopicAlerts.Config.Document
import TopicAlerts.Main
import TopicAlerts.Notification.Slack
import TopicAlerts.Proofs.Accounting
import TopicAlerts.Proofs.Admissions
import TopicAlerts.Proofs.Announcements
import TopicAlerts.Proofs.ApiRequests
import TopicAlerts.Proofs.Broker
import TopicAlerts.Proofs.Callers
import TopicAlerts.Proofs.CompactTexts
import TopicAlerts.Proofs.Consumers
import TopicAlerts.Proofs.Delivery
import TopicAlerts.Proofs.Difference
import TopicAlerts.Proofs.Doubles
import TopicAlerts.Proofs.IntegerComparison
import TopicAlerts.Proofs.Interpretation
import TopicAlerts.Proofs.Linked
import TopicAlerts.Proofs.Membership
import TopicAlerts.Proofs.NotificationLaw
import TopicAlerts.Proofs.NumberTexts
import TopicAlerts.Proofs.Order
import TopicAlerts.Proofs.OrderedJson
import TopicAlerts.Proofs.Placeholders
import TopicAlerts.Proofs.Quiet
import TopicAlerts.Proofs.Registry
import TopicAlerts.Proofs.Rounds
import TopicAlerts.Proofs.RuleChanges
import TopicAlerts.Proofs.RuleGrammar
import TopicAlerts.Proofs.RuleStore
import TopicAlerts.Proofs.Settling
import TopicAlerts.Proofs.ShortestDecimals
import TopicAlerts.Proofs.StaleWindows
import TopicAlerts.Proofs.StoreRequests
import TopicAlerts.Proofs.Substitution
import TopicAlerts.Proofs.TestLaws
import TopicAlerts.Proofs.ValueEquality
import TopicAlerts.Proofs.Visits
import TopicAlerts.Proofs.WindowGrid
import TopicAlerts.Proofs.WindowHistory
import TopicAlerts.Rule.Listing
import TopicAlerts.Proofs.Repairs
import TopicAlerts.Proofs.Spellings
import TopicAlerts.Proofs.BareIntegers
import TopicAlerts.Proofs.Searches
import TopicAlerts.Proofs.HarmlessTests
import TopicAlerts.Proofs.Gauge
import TopicAlerts.Proofs.StoreViews
import TopicAlerts.Proofs.Seeding
import TopicAlerts.Proofs.WrittenBack
import TopicAlerts.Proofs.WorkerEnds
import TopicAlerts.Proofs.Exposition
import TopicAlerts.Proofs.Exchanges
import TopicAlerts.Proofs.TakingTurns
import TopicAlerts.Proofs.LockTable
