import PowerCapping.Lib.Run
import PowerCapping.Lib.Python
import PowerCapping.Lib.Exec
import PowerCapping.Pip.Basic
import PowerCapping.Pip.Simulate
import PowerCapping.Pip.Capping
import PowerCapping.Parse.CpuPower
import PowerCapping.Pip.Loop
import PowerCapping.Pip.Invariant
import PowerCapping.Predxnd.Merge
import PowerCapping.Lib.Priority
import PowerCapping.Thunderbolt.Loop
import PowerCapping.Thunderbolt.Invariant
import PowerCapping.Parse.Perf
import PowerCapping.Parse.Agreement
import PowerCapping.Train.FeatureExtract
import PowerCapping.Predxnd.Monitor
import PowerCapping.Lib.Deadband
import PowerCapping.Thunderbolt.CpuMax
import PowerCapping.Lib.Frame
import PowerCapping.Thunderbolt.Overload
import PowerCapping.Lib.Framing
import PowerCapping.Predxnd.Remote
import PowerCapping.Predxnd.Server
import PowerCapping.Rapl.Loop
import PowerCapping.Attribution.Usage
import PowerCapping.Scripts.Sweep
import PowerCapping.Lib.Counter
import PowerCapping.Rapl.Wrap
import PowerCapping.Pip.Direction
import PowerCapping.Predxnd.Placement
import PowerCapping.Attribution.Features
import PowerCapping.Lib.Format
import PowerCapping.Lib.Grouping
import PowerCapping.Parse.CoreTemp
import PowerCapping.Attribution.Report
import PowerCapping.Lib.Ramp
import PowerCapping.Ms.Loop
import PowerCapping.Lib.Select
import PowerCapping.Oracle.Control
import PowerCapping.Lib.Regex
import PowerCapping.Predxnd.Results
import PowerCapping.Predxnd.ThrottleResults
