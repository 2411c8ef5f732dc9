import HardwareMonitor.ControlCenter.FrameColumns
import HardwareMonitor.ControlCenter.MainLoop
import HardwareMonitor.ControlCenter.Retries
import HardwareMonitor.ControlCenter.Screen
import HardwareMonitor.ControlCenter.SensorTypes
import HardwareMonitor.ControlCenter.Settled
import HardwareMonitor.Drivers.CoreLoad
import HardwareMonitor.Drivers.CoreNameBuffer
import HardwareMonitor.Drivers.CorePower
import HardwareMonitor.Drivers.Handshake
import HardwareMonitor.Drivers.PackagePower
import HardwareMonitor.Drivers.ReplyRanges
import HardwareMonitor.Drivers.SmnAccess
import HardwareMonitor.OpcUa.Provisioning
import HardwareMonitor.SystemInfo.AdlxMetrics
import HardwareMonitor.SystemInfo.AmdPool
import HardwareMonitor.SystemInfo.CpuRanges
import HardwareMonitor.SystemInfo.CpuReplies
import HardwareMonitor.SystemInfo.Delivery
import HardwareMonitor.SystemInfo.NodeCreation
import HardwareMonitor.SystemInfo.NvidiaMetrics
import HardwareMonitor.SystemInfo.PlaceIds
import HardwareMonitor.SystemInfo.PollingRate
import HardwareMonitor.SystemInfo.Progress
import HardwareMonitor.SystemInfo.SensorStore
import HardwareMonitor.SystemInfo.StorageInventory
import HardwareMonitor.SystemInfo.WorkerRaces
import HardwareMonitor.UserSpace.PerformanceLogger
