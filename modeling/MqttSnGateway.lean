import MqttSnGateway.Lib.CString
import MqttSnGateway.Lib.RecordFile
import MqttSnGateway.Lib.Runs
import MqttSnGateway.Messages
import MqttSnGateway.Store.Entries
import MqttSnGateway.Store.FileSystem
import MqttSnGateway.Core.Gateway
import MqttSnGateway.Core.CoreImpl
import MqttSnGateway.Core.Loop
import MqttSnGateway.Handler
import MqttSnGateway.System
import MqttSnGateway.Store.Registry
import MqttSnGateway.Lib.KeyedRecords
import MqttSnGateway.Store.Counts
import MqttSnGateway.Store.Files
import MqttSnGateway.Core.Transactions
import MqttSnGateway.Requests
import MqttSnGateway.Core.Settles
import MqttSnGateway.Core.SessionSpecs
import MqttSnGateway.Core.TopicSpecs
import MqttSnGateway.Core.ClientSpecs
import MqttSnGateway.Core.Invariant
import MqttSnGateway.Core.Selection
import MqttSnGateway.Core.VisitSpecs
import MqttSnGateway.Core.Touched
import MqttSnGateway.Core.Traversal
import MqttSnGateway.Core.Sound
import MqttSnGateway.Core.ConnectSpecs
import MqttSnGateway.Core.SubscriptionSpecs
import MqttSnGateway.Core.Handled
import MqttSnGateway.Core.LoopSpecs
import MqttSnGateway.Steps
import MqttSnGateway.Datagrams
import MqttSnGateway.Safety.AcknowledgedDelivery
import MqttSnGateway.Safety.FanOut
import MqttSnGateway.Safety.FreshSession
import MqttSnGateway.Core.Regular
import MqttSnGateway.Core.RegularRuns
import MqttSnGateway.Safety.Isolation
import MqttSnGateway.Safety.OfflineGate
import MqttSnGateway.Safety.SinglePublish
import MqttSnGateway.Lib.StructLayout
import MqttSnGateway.Wire
import MqttSnGateway.Safety.SentDatagrams
import MqttSnGateway.Safety.PublishRoundTrip
import MqttSnGateway.Safety.ReceivedBytes
import MqttSnGateway.Stages
import MqttSnGateway.Safety.OneInFlight
import MqttSnGateway.Core.RegularSpecs
import MqttSnGateway.Safety.Reestablishment
import MqttSnGateway.Core.Identity
import MqttSnGateway.Core.Unshared
import MqttSnGateway.Safety.SessionBinding
import MqttSnGateway.Safety.WillFidelity
import MqttSnGateway.Safety.QueueConservation
import MqttSnGateway.Core.Clock
import MqttSnGateway.Lib.WrappingClock
import MqttSnGateway.Safety.PrematureLoss
import MqttSnGateway.Core.Reentrant
import MqttSnGateway.Safety.Reentrancy
import MqttSnGateway.Safety.MissingClient
import MqttSnGateway.Safety.RemovalTermination
import MqttSnGateway.Safety.Acknowledgements
import MqttSnGateway.Safety.TopicIntegrity
import MqttSnGateway.Safety.UnsubscribeEffect
import MqttSnGateway.Core.SubscribeResults
import MqttSnGateway.Safety.SubscribeAtomicity
import MqttSnGateway.Core.TableSteps
import MqttSnGateway.Safety.GrantedQos
import MqttSnGateway.Core.Waking
import MqttSnGateway.Safety.TransactionBalance
import MqttSnGateway.Safety.SleepingClients
import MqttSnGateway.Safety.DisconnectAgreement
import MqttSnGateway.Core.Rewritten
import MqttSnGateway.Safety.ServicedClients
import MqttSnGateway.Core.TopicRequests
import MqttSnGateway.Safety.BrokerAgreement
import MqttSnGateway.Safety.SubscriptionCounts
import MqttSnGateway.Safety.AwaitedAnswers
import MqttSnGateway.Lib.Numbering
import MqttSnGateway.Refinement.RegistrationTable
import MqttSnGateway.Refinement.SubscriptionCounter
import MqttSnGateway.Refinement.PublishBag
import MqttSnGateway.ClientWire
import MqttSnGateway.Safety.SessionRoundTrip
import MqttSnGateway.Safety.SubscribeRoundTrip
import MqttSnGateway.Safety.PayloadLength
import MqttSnGateway.Safety.OfflineTraversal
import MqttSnGateway.Safety.LostClients
import MqttSnGateway.Safety.MessageIds
import MqttSnGateway.Lib.Arrivals
import MqttSnGateway.Safety.PublishOrder
import MqttSnGateway.Lib.LineReader
import MqttSnGateway.Safety.ClockWrap
import MqttSnGateway.Store.Configuration
import MqttSnGateway.Safety.NumericSettings
import MqttSnGateway.Safety.PredefinedTopics
import MqttSnGateway.Safety.LoginIndependence
import MqttSnGateway.Safety.StringSettings
import MqttSnGateway.Safety.TimeAccounting
import MqttSnGateway.Safety.Correspondents
import MqttSnGateway.Core.Links
import MqttSnGateway.Program
import MqttSnGateway.Mqtt.Packet
import MqttSnGateway.Mqtt.Publish
import MqttSnGateway.Mqtt.Connect
import MqttSnGateway.Mqtt.Subscribe
import MqttSnGateway.Mqtt.Client
import MqttSnGateway.Mqtt.ClientSession
import MqttSnGateway.Mqtt.ClientStream
import MqttSnGateway.Mqtt.Incoming
import MqttSnGateway.Mqtt.TopicFilter
import MqttSnGateway.Lib.BinaryFile
import MqttSnGateway.Card.Layout
import MqttSnGateway.Card.SDPersistentImpl
import MqttSnGateway.Refinement.CardFiles
import MqttSnGateway.Refinement.CardStore
import MqttSnGateway.Refinement.CardTables
import MqttSnGateway.Refinement.CardMessages
import MqttSnGateway.Lib.Machines
import MqttSnGateway.Refinement.StoreRuns
