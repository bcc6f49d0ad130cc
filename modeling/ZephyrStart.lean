import ZephyrStart.CanMonitor.Capture
import ZephyrStart.Regex.Backtracking
import ZephyrStart.T1SDevice.Dashboard
import ZephyrStart.T1SDevice.WebSocketBroadcast
import ZephyrStart.T1SDevice.WebSocketWrites
import ZephyrStart.T1SDevice.WebSocketSlots
import ZephyrStart.T1SDevice.PendingImage
import ZephyrStart.T1SDevice.UploadReport
import ZephyrStart.CanGenerator.Credits
import ZephyrStart.WebSerial.CommandOwnership
import ZephyrStart.CanGenerator.Trace
import ZephyrStart.CanGenerator.NoAck
import ZephyrStart.CanGenerator.Arguments
import ZephyrStart.T1SDevice.Registry
import ZephyrStart.T1SDevice.Throttle
import ZephyrStart.T1SDevice.Fragments
import ZephyrStart.CanMonitor.Filters
import ZephyrStart.CanMonitor.Prompts
import ZephyrStart.WebSerial.Answers
import ZephyrStart.Json.Lexer
import ZephyrStart.Json.Parse
import ZephyrStart.Libc.Printf
import ZephyrStart.T1SDevice.StateMessage
import ZephyrStart.CanMonitor.CaptureStatus
import ZephyrStart.Regex.Pieces
import ZephyrStart.BenchTool.Terminal
import ZephyrStart.BenchTool.Lines
import ZephyrStart.BenchTool.Hex
import ZephyrStart.BenchTool.I2cScan
import ZephyrStart.BenchTool.I2cPage
import ZephyrStart.BenchTool.Hexdump
import ZephyrStart.CanMonitor.FrameGrammar
import ZephyrStart.CanCounter.Board
import ZephyrStart.BenchTool.GpioInfo
import ZephyrStart.BenchTool.GpioPanel
import ZephyrStart.BenchTool.Scrollback
import ZephyrStart.BenchTool.Temperature
import ZephyrStart.BleShell.HeartRate
import ZephyrStart.CanCounter.BusState
import ZephyrStart.CanCounter.Network
import ZephyrStart.CanMonitor.FrameTable
import ZephyrStart.CanMonitor.Pane
import ZephyrStart.Display.Screen
import ZephyrStart.Lan8651Demo.Messages
import ZephyrStart.Lan8651Demo.Servers
import ZephyrStart.LittleFs.Boots
import ZephyrStart.Synchronization.HelloLoop
import ZephyrStart.WebSerial.Camera
import ZephyrStart.CanGenerator.Shell
import ZephyrStart.T1SDevice.ColorPanel
import ZephyrStart.T1SDevice.Led
import ZephyrStart.WebSerial.Ports
