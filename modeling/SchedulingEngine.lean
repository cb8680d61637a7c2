import SchedulingEngine.Benchmark.BarrierReturns
import SchedulingEngine.Benchmark.CallbackReturns
import SchedulingEngine.Benchmark.Indices
import SchedulingEngine.Benchmark.Ranges
import SchedulingEngine.Benchmark.Statistics
import SchedulingEngine.Concurrency.Embedding
import SchedulingEngine.Observability.Exactness
import SchedulingEngine.Observability.Format
import SchedulingEngine.Observability.Truncation
import SchedulingEngine.Queue.Agreement
import SchedulingEngine.Queue.Liveness
import SchedulingEngine.Queue.ProfilingIdentities
import SchedulingEngine.Queue.Refinement
import SchedulingEngine.Queue.Ring
import SchedulingEngine.Queue.Signaling
import SchedulingEngine.Queue.Transparency
import SchedulingEngine.Scheduler.Captures
import SchedulingEngine.Scheduler.Dispatch
import SchedulingEngine.Scheduler.EarlyStart
import SchedulingEngine.Scheduler.FaultHistory
import SchedulingEngine.Scheduler.Freshness
import SchedulingEngine.Scheduler.Locking
import SchedulingEngine.Scheduler.PartialStart
import SchedulingEngine.Scheduler.Progress
import SchedulingEngine.Scheduler.Quiescence
import SchedulingEngine.Scheduler.Rejoin
import SchedulingEngine.Scheduler.Submissions
import SchedulingEngine.Scheduler.Unreachable
import SchedulingEngine.Scheduler.Wrapper
import SchedulingEngine.Task.Work
