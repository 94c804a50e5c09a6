import BootstrapWifi.Mealy
import BootstrapWifi.Delimited
import BootstrapWifi.GreedyFill
import BootstrapWifi.WrappingClock
import BootstrapWifi.ByteBuffer
import BootstrapWifi.AccessLog
import BootstrapWifi.StreamCipher
import BootstrapWifi.Keystream
import BootstrapWifi.Sponge
import BootstrapWifi.ShiftRegister
import BootstrapWifi.Spritz
import BootstrapWifi.SpritzState
import BootstrapWifi.SpritzCrush
import BootstrapWifi.SpritzAbsorb
import BootstrapWifi.SpritzPeriod
import BootstrapWifi.Crc16
import BootstrapWifi.Crc16Burst
import BootstrapWifi.Crc16Residue
import BootstrapWifi.Instance
import BootstrapWifi.AppSession
import BootstrapWifi.Setup
import BootstrapWifi.Packet
import BootstrapWifi.NetworkInput
import BootstrapWifi.Periodic
import BootstrapWifi.WifiList
import BootstrapWifi.PacketProtection
import BootstrapWifi.Device
import BootstrapWifi.SetupEffect
import BootstrapWifi.InputEffect
import BootstrapWifi.BlobParser
import BootstrapWifi.PeriodicEffect
import BootstrapWifi.Moves
import BootstrapWifi.Commands
import BootstrapWifi.InputFrame
import BootstrapWifi.AppPacket
import BootstrapWifi.Lp64
import BootstrapWifi.AppRun
import BootstrapWifi.PlatformClock
import BootstrapWifi.Overrun
import BootstrapWifi.BoundedSecret
import BootstrapWifi.SessionGate
import BootstrapWifi.Newest
import BootstrapWifi.Link
import BootstrapWifi.LinkMove
import BootstrapWifi.RestartRun
import BootstrapWifi.FailureReason
import BootstrapWifi.AdvancedAttempts
import BootstrapWifi.DestinationRetries
import BootstrapWifi.Announcement
import BootstrapWifi.AttemptSpacing
import BootstrapWifi.AttemptLimits
import BootstrapWifi.SessionRenewal
import BootstrapWifi.LiveSession
import BootstrapWifi.SessionExclusive
import BootstrapWifi.PendingRequests
import BootstrapWifi.DestinationMode
import BootstrapWifi.StoredBlobs
import BootstrapWifi.WaitingInterval
import BootstrapWifi.StationConfig
import BootstrapWifi.WifiFraming
import BootstrapWifi.OfferedNetworks
import BootstrapWifi.WifiPacketBounds
import BootstrapWifi.Credentials
import BootstrapWifi.ConfirmationGate
import BootstrapWifi.FactoryReset
import BootstrapWifi.FirstStart
import BootstrapWifi.LayoutFree
import BootstrapWifi.AppReader
import BootstrapWifi.InSession
import BootstrapWifi.Instructed
import BootstrapWifi.Dialogue
import BootstrapWifi.RightNetwork
import BootstrapWifi.StoreOrigin
import BootstrapWifi.AnswerCount
import BootstrapWifi.MessageKinds
import BootstrapWifi.ResetPending
import BootstrapWifi.Ranking
import BootstrapWifi.KeepsLooking
import BootstrapWifi.SessionKeystream
import BootstrapWifi.Button
import BootstrapWifi.Esp8266
import BootstrapWifi.ScanDone
import BootstrapWifi.Board
import BootstrapWifi.LongPress
import BootstrapWifi.DeviceNonce
import BootstrapWifi.Walk
import BootstrapWifi.Stage
import BootstrapWifi.Crossing
import BootstrapWifi.Lifecycle
import BootstrapWifi.Tampering
import BootstrapWifi.HelloFlood
