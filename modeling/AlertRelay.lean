import AlertRelay.Address.DomainName
import AlertRelay.Address.Email
import AlertRelay.Address.Host
import AlertRelay.Address.LabelCharacters
import AlertRelay.Address.LabelContext
import AlertRelay.Address.LabelDirection
import AlertRelay.Address.LabelFolding
import AlertRelay.Address.Punycode
import AlertRelay.Address.Url
import AlertRelay.Alert
import AlertRelay.Channel.Basic
import AlertRelay.Channel.BrowserPush
import AlertRelay.Channel.Calls
import AlertRelay.Channel.Registry
import AlertRelay.Channel.Sms
import AlertRelay.Channel.Telephony
import AlertRelay.Channel.Webhook
import AlertRelay.Configuration.Settings
import AlertRelay.Configuration.Snapshot
import AlertRelay.Delivery.Ledger
import AlertRelay.Delivery.Record
import AlertRelay.Destination
import AlertRelay.Dispatch.Backlog
import AlertRelay.Dispatch.Build
import AlertRelay.Dispatch.Deployment
import AlertRelay.Dispatch.Priority
import AlertRelay.Dispatch.Send
import AlertRelay.Failure.Basic
import AlertRelay.Failure.Foreign
import AlertRelay.Failure.Raised
import AlertRelay.Failure.Unreachable
import AlertRelay.Identifier
import AlertRelay.Json.Equality
import AlertRelay.Json.Reader
import AlertRelay.Json.Value
import AlertRelay.Json.Writer
import AlertRelay.Log.Context
import AlertRelay.Log.Event
import AlertRelay.Log.Masking
import AlertRelay.Log.Pipeline
import AlertRelay.Message
import AlertRelay.Number.Digits
import AlertRelay.Number.Double
import AlertRelay.Number.RealText
import AlertRelay.Outcome.Basic
import AlertRelay.Outcome.Classify
import AlertRelay.Payload
import AlertRelay.Program.Basic
import AlertRelay.Program.Request
import AlertRelay.Proofs.Acceptance
import AlertRelay.Proofs.AlikePrograms
import AlertRelay.Proofs.BatchAccounting
import AlertRelay.Proofs.BuildFailures
import AlertRelay.Proofs.Building
import AlertRelay.Proofs.ChannelFailures
import AlertRelay.Proofs.ChannelRequests
import AlertRelay.Proofs.CheckedValues
import AlertRelay.Proofs.CommutingDispatches
import AlertRelay.Proofs.ConcurrentDispatches
import AlertRelay.Proofs.DeliveryKeys
import AlertRelay.Proofs.DeliveryRows
import AlertRelay.Proofs.DisabledTypes
import AlertRelay.Proofs.DispatchRuns
import AlertRelay.Proofs.DispatchStages
import AlertRelay.Proofs.EgressRouting
import AlertRelay.Proofs.EscapingFailures
import AlertRelay.Proofs.LogPrivacy
import AlertRelay.Proofs.MessageContext
import AlertRelay.Proofs.MessageFootprints
import AlertRelay.Proofs.PriorityPolicy
import AlertRelay.Proofs.ProgramExecution
import AlertRelay.Proofs.Promotion
import AlertRelay.Proofs.PushDeliveries
import AlertRelay.Proofs.RaisedDispatches
import AlertRelay.Proofs.RawFailures
import AlertRelay.Proofs.RequestRoles
import AlertRelay.Proofs.ResultIds
import AlertRelay.Proofs.ResultShapes
import AlertRelay.Proofs.SentMessages
import AlertRelay.Proofs.ServiceCalls
import AlertRelay.Proofs.ServiceFailures
import AlertRelay.Proofs.StatusUpdates
import AlertRelay.Proofs.Surroundings
import AlertRelay.Proofs.TableService
import AlertRelay.Proofs.VoiceGating
import AlertRelay.Push.Store
import AlertRelay.Push.Subscription
import AlertRelay.Schema.Checked
import AlertRelay.Schema.Issue
import AlertRelay.Schema.Scalar
import AlertRelay.SendResult
import AlertRelay.Signal.Store
import AlertRelay.Table.Attribute
import AlertRelay.Table.Call
import AlertRelay.Table.Client
import AlertRelay.Table.Store
import AlertRelay.Text.Blank
import AlertRelay.Text.CodePoints
import AlertRelay.Text.CombiningClass
import AlertRelay.Text.CombiningMark
import AlertRelay.Text.Decomposition
import AlertRelay.Text.Lowercase
import AlertRelay.Text.Markup
import AlertRelay.Text.NormalForm
import AlertRelay.Text.Quoted
import AlertRelay.Text.Split
import AlertRelay.Text.Surrogate
import AlertRelay.Time.Calendar
import AlertRelay.Time.Exchange
import AlertRelay.Time.Iso
import AlertRelay.Time.Moment
import AlertRelay.Wording.Push
import AlertRelay.Wording.Sms
import AlertRelay.Wording.Voice
import AlertRelay.Proofs.RejectedSends
import AlertRelay.Proofs.RecordedDeliveries
import AlertRelay.Proofs.StoredMoments
import AlertRelay.Proofs.FirstDeliveries
import AlertRelay.Proofs.ResentAlerts
import AlertRelay.Proofs.PhoneNumbers
import AlertRelay.Proofs.StoredSubscriptions
import AlertRelay.Proofs.StoppedPushes
import AlertRelay.Proofs.ServedQueries
import AlertRelay.Proofs.PushEffects
import AlertRelay.Proofs.ExactNumbers
import AlertRelay.Proofs.RepeatedCalls
import AlertRelay.Proofs.QueryPages
import AlertRelay.Proofs.RemovedSubscriptions
import AlertRelay.Proofs.BuildContract
import AlertRelay.Proofs.PolicyLaw
import AlertRelay.Proofs.CalendarDays
import AlertRelay.Proofs.RecordedLookups
import AlertRelay.Proofs.ReadMembers
import AlertRelay.Proofs.SignalParameters
import AlertRelay.Proofs.GatewayAnswers
import AlertRelay.Proofs.SpokenScripts
import AlertRelay.Proofs.MaskedRecords
import AlertRelay.Proofs.NestedContexts
import AlertRelay.Proofs.ExchangedMoments
import AlertRelay.Proofs.CodePoints
import AlertRelay.Proofs.WrittenTexts
import AlertRelay.Proofs.DecodedPayloads
import AlertRelay.Proofs.TextParts
import AlertRelay.Proofs.UrlParts
import AlertRelay.Proofs.WebAddresses
import AlertRelay.Proofs.AcceptedDestinations
