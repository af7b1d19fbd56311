import Fetchline.Library.Program
import Fetchline.Library.Discipline
import Fetchline.Library.Recording
import Fetchline.Library.Machine
import Fetchline.Library.BoundedVec
import Fetchline.Library.Json
import Fetchline.Library.Sync
import Fetchline.Library.Log
import Fetchline.Controller.Packet
import Fetchline.Controller.Admission
import Fetchline.Controller.AdmissionHistory
import Fetchline.Firmware.Bus
import Fetchline.Firmware.Rpc
import Fetchline.Firmware.BusRules
import Fetchline.Firmware.Envelope
import Fetchline.Firmware.Ownership
import Fetchline.Firmware.Tasks
import Fetchline.Firmware.TaskSteps
import Fetchline.Firmware.RawTunnel
import Fetchline.Firmware.TunnelClosing
import Fetchline.Firmware.Roster
import Fetchline.Firmware.Handover
import Fetchline.Firmware.Stages
import Fetchline.Firmware.Custody
import Fetchline.Firmware.BusOwner
import Fetchline.Firmware.Frames
import Fetchline.Firmware.Freshness
import Fetchline.Library.Text
import Fetchline.Library.JsonReader
import Fetchline.Library.JsonSize
import Fetchline.Firmware.Responses
import Fetchline.Library.Utf8
import Fetchline.Firmware.WebSocket
import Fetchline.Firmware.ClientStream
import Fetchline.Firmware.WifiCredentials
import Fetchline.Host.Config
import Fetchline.Host.Saves
import Fetchline.Host.ProvisionWifi
import Fetchline.Host.Bridge
import Fetchline.Host.Calls
import Fetchline.Host.Conversation
import Fetchline.Host.Servos
import Fetchline.Host.Sessions
import Fetchline.Host.Guarded
import Fetchline.Host.InSync
import Fetchline.Host.BrowserTruth
import Fetchline.Library.Related
import Fetchline.Modes.Bench
import Fetchline.Modes.Transaction
import Fetchline.Modes.Noise
import Fetchline.Modes.Scan
import Fetchline.Modes.Call
import Fetchline.Modes.Agreement
import Fetchline.Modes.Readers
import Fetchline.Modes.OneMachine
import Fetchline.Firmware.ClientFrames
import Fetchline.Host.WifiCorruption
import Fetchline.Controller.StatusGrammar
import Fetchline.Modes.Encoders
import Fetchline.Firmware.Handshake
import Fetchline.Firmware.ServerFrames
import Fetchline.Firmware.ServerOutput
import Fetchline.Modes.ReadPositions
import Fetchline.Scripts.Scanner
import Fetchline.Library.Directory
import Fetchline.Host.LogRotation
import Fetchline.Browser.Joints
import Fetchline.Browser.SliderMoves
import Fetchline.Scripts.EchoFilter
import Fetchline.Scripts.UartBridge
import Fetchline.Firmware.ControllerSession
import Fetchline.Firmware.SessionAnswers
import Fetchline.Firmware.Upgrade
import Fetchline.Library.Dialogue
import Fetchline.Firmware.Connection
import Fetchline.Library.Heads
import Fetchline.Scripts.TakeoverCheck
import Fetchline.Scripts.CheckedConnection
import Fetchline.Firmware.TextFrames
import Fetchline.Scripts.Scanners
import Fetchline.Modes.RemoteCall
import Fetchline.Browser.Settings
import Fetchline.Browser.Readers
import Fetchline.Browser.Accepted
import Fetchline.Modes.Orders
import Fetchline.Browser.Commands
import Fetchline.Host.Dialing
import Fetchline.Host.Serial
