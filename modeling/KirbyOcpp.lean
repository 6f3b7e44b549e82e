import KirbyOcpp.Laws.SmartCharging.Energy
import KirbyOcpp.Ocpp.Messages
import KirbyOcpp.Station.Connector
import KirbyOcpp.Station.Offline
import KirbyOcpp.Station.Actor
import KirbyOcpp.Station.Calls
import KirbyOcpp.Station.Transactions
import KirbyOcpp.Station.Link
import KirbyOcpp.Station.Commands
import KirbyOcpp.Station.Step
import KirbyOcpp.Data.Paths
import KirbyOcpp.Ledger.Basic
import KirbyOcpp.Ledger.Calls
import KirbyOcpp.Ledger.Sync
import KirbyOcpp.Ledger.Transactions
import KirbyOcpp.Ledger.Link
import KirbyOcpp.Ledger.Commands
import KirbyOcpp.Ledger.Step
import KirbyOcpp.Ledger.Runs
import KirbyOcpp.Laws.Station.Calls
import KirbyOcpp.Laws.SmartCharging.ProfileStore
import KirbyOcpp.Laws.SmartCharging.Cap
import KirbyOcpp.Laws.Station.TxProfiles
import KirbyOcpp.Data.Rpc
import KirbyOcpp.Ocpp.Frame
import KirbyOcpp.Ws.Task
import KirbyOcpp.Laws.Ws.Task
import KirbyOcpp.Laws.Station.Metering
import KirbyOcpp.Laws.Station.Meters
import KirbyOcpp.Laws.Station.Gate
import KirbyOcpp.Ledger.TxIds
import KirbyOcpp.Laws.Station.Faults
import KirbyOcpp.Laws.Station.Charging
import KirbyOcpp.Ocpp.Text
import KirbyOcpp.Station.Certificates
import KirbyOcpp.Laws.Security.CertificateStore
import KirbyOcpp.Station.ConfigRegistry
import KirbyOcpp.Station.Secure
import KirbyOcpp.Laws.Security.Configuration
import KirbyOcpp.Laws.Security.Saving
import KirbyOcpp.Laws.Security.Profile
import KirbyOcpp.Data.Rotation
import KirbyOcpp.Laws.Security.Renewal
import KirbyOcpp.Laws.Station.Admission
import KirbyOcpp.Laws.Station.Recovery
import KirbyOcpp.Laws.Station.Restart
import KirbyOcpp.Laws.Security.Crash
import KirbyOcpp.Laws.Station.SecurityEvents
import KirbyOcpp.Ledger.Reservations
import KirbyOcpp.Laws.Station.Permissions
import KirbyOcpp.Laws.Station.Reservations
import KirbyOcpp.Laws.Station.Completion
import KirbyOcpp.Laws.Station.Sync
import KirbyOcpp.Laws.Station.Boots
import KirbyOcpp.Laws.Station.SyncOrder
import KirbyOcpp.Laws.Ocpp.Frame
import KirbyOcpp.Laws.Ocpp.Text
import KirbyOcpp.Laws.Station.Registry
import KirbyOcpp.Csms.Registry
import KirbyOcpp.Csms.Session
import KirbyOcpp.Laws.Csms.Registry
import KirbyOcpp.Laws.Csms.Isolation
import KirbyOcpp.Laws.Csms.Calls
import KirbyOcpp.Ledger.Walks
import KirbyOcpp.Ledger.TieSteps
import KirbyOcpp.Station.Dials
import KirbyOcpp.Laws.Station.Dials
import KirbyOcpp.Station.Notifier
import KirbyOcpp.Laws.Station.Notifier
import KirbyOcpp.Laws.Station.Status
import KirbyOcpp.Ocpp.Schema
import KirbyOcpp.Laws.Ws.Secrets
import KirbyOcpp.Data.Assoc
import KirbyOcpp.Station.LocalAuthList
import KirbyOcpp.Laws.Station.LocalAuthList
import KirbyOcpp.Station.ResponseRules
import KirbyOcpp.Laws.Station.ResponseRules
import KirbyOcpp.Laws.Station.StartReservations
import KirbyOcpp.Laws.Station.Cache
import KirbyOcpp.Laws.SmartCharging.DefaultUnit
import KirbyOcpp.Laws.Csms.History
import KirbyOcpp.Data.LastMatch
import KirbyOcpp.Csms.State
import KirbyOcpp.Laws.Csms.State
import KirbyOcpp.Laws.Station.CertSigning
import KirbyOcpp.Station.CertSigning
import KirbyOcpp.Laws.Station.Sampling
import KirbyOcpp.Station.Sampling
import KirbyOcpp.Laws.Station.MeterMoves
import KirbyOcpp.Laws.SmartCharging.PeriodSelection
import KirbyOcpp.Store
import KirbyOcpp.Laws.Store
import KirbyOcpp.Fleet
import KirbyOcpp.Laws.Fleet
import KirbyOcpp.Station.Timers
import KirbyOcpp.Laws.Station.Timers
import KirbyOcpp.Scenario
import KirbyOcpp.Laws.Scenario
import KirbyOcpp.Laws.Station.SyncProtocol
import KirbyOcpp.Laws.Station.TidyQueue
import KirbyOcpp.Laws.Station.DeliveredEntries
import KirbyOcpp.Data.Queues
import KirbyOcpp.Csms.Answers
import KirbyOcpp.Laws.Csms.Answers
import KirbyOcpp.Station.Maintenance
import KirbyOcpp.Laws.Station.MaintenancePlans
import KirbyOcpp.Laws.Station.Maintenance
import KirbyOcpp.Csms.StdinCmd
import KirbyOcpp.Laws.Csms.StdinCmd
import KirbyOcpp.Csms.Script
import KirbyOcpp.Laws.Csms.Script
import KirbyOcpp.StateFiles
import KirbyOcpp.Laws.StateFiles
import KirbyOcpp.Conversation
import KirbyOcpp.Laws.Conversation.Station
import KirbyOcpp.Laws.Conversation.Csms
import KirbyOcpp.Laws.Conversation.Link
import KirbyOcpp.LinePump
import KirbyOcpp.Laws.LinePump
import KirbyOcpp.Handshake
import KirbyOcpp.Laws.Handshake.Admission
import KirbyOcpp.Laws.Handshake.Head
