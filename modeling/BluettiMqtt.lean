import BluettiMqtt.Library.Transition
import BluettiMqtt.Bluetooth.SessionRetry
import BluettiMqtt.Bluetooth.SessionPending
import BluettiMqtt.Bluetooth.SessionOverlap
import BluettiMqtt.Bluetooth.SessionReady
import BluettiMqtt.Bluetooth.SessionInitialization
import BluettiMqtt.Bluetooth.HelperSettlement
import BluettiMqtt.Bluetooth.NotificationRouting
import BluettiMqtt.Bluetooth.ManagerLifecycle
import BluettiMqtt.Bluetooth.NativeSessions
import BluettiMqtt.Library.FairMutex
import BluettiMqtt.App.StopRequest
import BluettiMqtt.App.TransportRecovery
import BluettiMqtt.App.PackSelection
import BluettiMqtt.Core.CrcDetection
import BluettiMqtt.Core.CrcResidue
import BluettiMqtt.Core.RequestFrames
import BluettiMqtt.Core.ResponseGrammar
import BluettiMqtt.App.RunCleanup
import BluettiMqtt.App.WorkQueueOrder
import BluettiMqtt.App.SleepWaiters
import BluettiMqtt.Broker.PayloadRoundTrip
import BluettiMqtt.Broker.WriteSafety
import BluettiMqtt.Broker.BridgeLifecycle
import BluettiMqtt.Cli.FlagPrecedence
import BluettiMqtt.App.PollingLoops
import BluettiMqtt.App.IntervalOrder
import BluettiMqtt.App.DeviceExecutor
import BluettiMqtt.Bluetooth.ControlMessages
import BluettiMqtt.Bluetooth.HelperLineRouter
import BluettiMqtt.Cli.ConnectedDevice
import BluettiMqtt.Devices.WindowDecoding
import BluettiMqtt.Devices.SetterRoundTrip
import BluettiMqtt.Devices.FieldDecoding
import BluettiMqtt.Cli.BluetoothAddress
import BluettiMqtt.Broker.DeviceIdentity
import BluettiMqtt.Core.EventDelivery
import BluettiMqtt.Broker.SubscriptionRollback
import BluettiMqtt.App.TelemetrySums
import BluettiMqtt.App.TimerDelays
import BluettiMqtt.Bluetooth.LinkProgress
import BluettiMqtt.Library.Base64
import BluettiMqtt.Broker.CommandLoop
import BluettiMqtt.Bluetooth.RequestLines
import BluettiMqtt.Bluetooth.OutputLock
import BluettiMqtt.Bluetooth.NativeConnection
import BluettiMqtt.Bluetooth.SettlementReasons
import BluettiMqtt.Bluetooth.RequestLoop
import BluettiMqtt.Bluetooth.RemoteCalls
import BluettiMqtt.Cli.Discovery
