import MultisensorStation.Base.Runs
import MultisensorStation.Base.Ring
import MultisensorStation.Base.BoundedQueue
import MultisensorStation.Base.Lines
import MultisensorStation.Base.Bytes
import MultisensorStation.Base.Separator
import MultisensorStation.Base.Simulation
import MultisensorStation.Base.Trail
import MultisensorStation.Base.MapTotal
import MultisensorStation.Base.Mutex
import MultisensorStation.Patterns.CircularBuffer
import MultisensorStation.Patterns.BufferRuns
import MultisensorStation.Patterns.FailingPush
import MultisensorStation.Patterns.StaleSlots
import MultisensorStation.FileSystem.Stream
import MultisensorStation.FileSystem.SDCardFileSystem
import MultisensorStation.FileSystem.LineQueue
import MultisensorStation.FileSystem.RemoveFirstLine
import MultisensorStation.FileSystem.SuccessReports
import MultisensorStation.FileSystem.Mount
import MultisensorStation.Connectivity.WifiManager
import MultisensorStation.Connectivity.RetryBudget
import MultisensorStation.Connectivity.Backoff
import MultisensorStation.Connectivity.LostDisconnect
import MultisensorStation.Connectivity.DriverState
import MultisensorStation.Connectivity.Credentials
import MultisensorStation.Connectivity.MqttManager
import MultisensorStation.Logger.EventLogger
import MultisensorStation.Logger.DistinctLines
import MultisensorStation.Logger.LogHistory
import MultisensorStation.Logger.ConcurrentLogging
import MultisensorStation.Logger.ConcurrentSetState
import MultisensorStation.Patterns.StateMachine
import MultisensorStation.Patterns.Announcements
import MultisensorStation.Patterns.Reentrancy
import MultisensorStation.Patterns.FailingHandlers
import MultisensorStation.Ota.OtaManager
import MultisensorStation.Profiler.TaskProfiler
import MultisensorStation.Profiler.ExecutionTime
import MultisensorStation.Profiler.SnapshotDiffs
import MultisensorStation.Profiler.HeapFigure
import MultisensorStation.Profiler.TrueDifferences
import MultisensorStation.Led.LedManager
import MultisensorStation.Led.Blinking
import MultisensorStation.Connectivity.InternetCheck
import MultisensorStation.Base.CriticalSections
import MultisensorStation.FileSystem.ExampleMain
import MultisensorStation.FileSystem.FaultyRuns
import MultisensorStation.Base.Remnants
import MultisensorStation.FileSystem.FaultyQueue
import MultisensorStation.Led.ConcurrentLeds
import MultisensorStation.Logger.ManyObjects
import MultisensorStation.Logger.Console
import MultisensorStation.Connectivity.Downtime
import MultisensorStation.Connectivity.Boot
import MultisensorStation.Connectivity.MqttSession
import MultisensorStation.Profiler.ProfilerMain
import MultisensorStation.Ota.RacingUpdates
