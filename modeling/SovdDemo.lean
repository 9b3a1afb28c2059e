import SovdDemo.Foundations.Transition
import SovdDemo.Foundations.CallLog
import SovdDemo.Foundations.ResourcePool
import SovdDemo.Foundations.ByteMask
import SovdDemo.Foundations.KeyedList
import SovdDemo.Foundations.LinearCongruential
import SovdDemo.Foundations.PyInt
import SovdDemo.Foundations.PyData
import SovdDemo.Foundations.BigEndian
import SovdDemo.Foundations.RefinementMapping
import SovdDemo.Foundations.RequestReply
import SovdDemo.Uds.DiagnosticTroubleCode
import SovdDemo.Uds.DtcSimulator
import SovdDemo.Uds.FaultStatus
import SovdDemo.Uds.CompletionStatus
import SovdDemo.Uds.OperationCycle
import SovdDemo.Uds.Service
import SovdDemo.Uds.FaultList
import SovdDemo.Uds.ClearMemory
import SovdDemo.Uds.FaultViews
import SovdDemo.Uds.DemoDtcs
import SovdDemo.Uds.ClearReport
import SovdDemo.Uds.StepEffect
import SovdDemo.Uds.RequestDecision
import SovdDemo.Uds.RequestBuffer
import SovdDemo.Uds.StoreRefinement
import SovdDemo.Uds.SensorWalk
import SovdDemo.Uds.Generators
import SovdDemo.Uds.ComeAndGo
import SovdDemo.Uds.Independence
import SovdDemo.Uds.UdsSystem
import SovdDemo.Cda.Types
import SovdDemo.Cda.Transport
import SovdDemo.Cda.Endpoints
import SovdDemo.Cda.Exchange
import SovdDemo.Cda.Replies
import SovdDemo.Cda.ErrorStatus
import SovdDemo.Cda.Identifiers
import SovdDemo.Cda.RoundTrip
import SovdDemo.Cda.DetailRoundTrip
import SovdDemo.Cda.Poller
import SovdDemo.Cda.Attribution
import SovdDemo.Cda.RecentPast
import SovdDemo.Cda.PollDecoding
import SovdDemo.Cda.SensorSeries
import SovdDemo.Cda.SensorValues
import SovdDemo.Cda.Dashboard
import SovdDemo.Cda.ResponsePending
import SovdDemo.Cda.ReplyTotality
import SovdDemo.Cda.Discovery
import SovdDemo.Doip.Types
import SovdDemo.Doip.Handler
import SovdDemo.Doip.Run
import SovdDemo.Doip.Sending
import SovdDemo.Doip.Operations
import SovdDemo.Doip.Finality
import SovdDemo.Doip.ClosePending
import SovdDemo.Doip.RoutingSuccess
import SovdDemo.Doip.AliveCheck
import SovdDemo.Doip.AliveCheckDeadline
import SovdDemo.Doip.AddressBinding
import SovdDemo.Doip.SendJobs
import SovdDemo.Doip.TesterAcks
import SovdDemo.Doip.Disposal
import SovdDemo.Doip.Payloads
import SovdDemo.Doip.Messages
import SovdDemo.Doip.Announcements
import SovdDemo.Doip.Timeouts
import SovdDemo.Doip.Phases
import SovdDemo.Demo.Ecu
import SovdDemo.Demo.ClosedLoop
import SovdDemo.Demo.Calls
import SovdDemo.Demo.CallSuccess
import SovdDemo.Demo.Histories
import SovdDemo.Demo.ListedFaults
import SovdDemo.Demo.Described
import SovdDemo.Demo.Reads
import SovdDemo.Demo.ReadBack
import SovdDemo.Demo.Alarms
