import LorahamKissTnc.Lib.Machine
import LorahamKissTnc.Lib.Channel
import LorahamKissTnc.Lib.Ring
import LorahamKissTnc.Lib.Counter
import LorahamKissTnc.Lib.Fifo
import LorahamKissTnc.Lib.CString
import LorahamKissTnc.Lib.Buffer
import LorahamKissTnc.Lib.Mask
import LorahamKissTnc.Config
import LorahamKissTnc.ConfigFile
import LorahamKissTnc.Cli
import LorahamKissTnc.Kiss
import LorahamKissTnc.Ax25
import LorahamKissTnc.Ax25Codec
import LorahamKissTnc.Tnc2
import LorahamKissTnc.Tnc2Codec
import LorahamKissTnc.LorahamSock
import LorahamKissTnc.BridgeConf
import LorahamKissTnc.BridgeRx
import LorahamKissTnc.BridgeTxQueue
import LorahamKissTnc.BridgeKiss
import LorahamKissTnc.BridgeLoraham
import LorahamKissTnc.Bridge
import LorahamKissTnc.RxPacket
import LorahamKissTnc.ClientWrites
import LorahamKissTnc.FramedStream
import LorahamKissTnc.TxWait
import LorahamKissTnc.TxOnce
import LorahamKissTnc.TxAccounting
import LorahamKissTnc.TxEvents
import LorahamKissTnc.ClientStream
import LorahamKissTnc.RxFrequency
import LorahamKissTnc.ConfStream
import LorahamKissTnc.OnAir
import LorahamKissTnc.TxGate
import LorahamKissTnc.RxFaults
import LorahamKissTnc.EndToEnd
import LorahamKissTnc.TxRecords
import LorahamKissTnc.TxDrops
import LorahamKissTnc.ConfStatus
import LorahamKissTnc.Connections
import LorahamKissTnc.StepRules
import LorahamKissTnc.TxResult
import LorahamKissTnc.KissStream
import LorahamKissTnc.Lib.Overrides
import LorahamKissTnc.Settings
import LorahamKissTnc.FrontEnd
import LorahamKissTnc.ListenAddress
import LorahamKissTnc.RxExtract
import LorahamKissTnc.FramedCodec
import LorahamKissTnc.ConfLines
import LorahamKissTnc.TxComplete
import LorahamKissTnc.TxDecisions
import LorahamKissTnc.KissIngress
import LorahamKissTnc.Limits
import LorahamKissTnc.AllowList
import LorahamKissTnc.TxRing
import LorahamKissTnc.BindGrammar
import LorahamKissTnc.RfLog
import LorahamKissTnc.RfLogFile
import LorahamKissTnc.CadStats
import LorahamKissTnc.Lib.Progress
import LorahamKissTnc.Shutdown
import LorahamKissTnc.TxAges
import LorahamKissTnc.Recovery
import LorahamKissTnc.ConfigState
import LorahamKissTnc.Counters
import LorahamKissTnc.Lib.Simulation
import LorahamKissTnc.Lib.Relay
import LorahamKissTnc.TxRelay
import LorahamKissTnc.Lib.Timer
import LorahamKissTnc.Schedule
import LorahamKissTnc.RxDelivery
import LorahamKissTnc.DaemonView
import LorahamKissTnc.TwoBridges
import LorahamKissTnc.Lib.Server
import LorahamKissTnc.ClientIngress
import LorahamKissTnc.Lib.Numerals
import LorahamKissTnc.RfJournal
import LorahamKissTnc.TxJournal
import LorahamKissTnc.SettingRanges
import LorahamKissTnc.ReceiveOnly
import LorahamKissTnc.Bounds
