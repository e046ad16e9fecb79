import TaskQueue.Context
import TaskQueue.Database.Script
import TaskQueue.Entity.Codec
import TaskQueue.Json.Printer
import TaskQueue.Json.Reader
import TaskQueue.Manager.Options
import TaskQueue.Manager.Queues
import TaskQueue.Manager.Tasks
import TaskQueue.PollPeriod
import TaskQueue.Pool.Session
import TaskQueue.Proofs.Manager.CleanupTicker
import TaskQueue.Proofs.Pool.Deadline
import TaskQueue.Proofs.TaskLoop.Conservation
import TaskQueue.Proofs.TaskLoop.Session
import TaskQueue.Proofs.TickerLoop.Delivery
import TaskQueue.Proofs.TickerLoop.Session
import TaskQueue.Proofs.Worker.Failure
import TaskQueue.Proofs.Worker.Session
import TaskQueue.Proofs.Worker.Unstarted
import TaskQueue.Shutdown
import TaskQueue.Signal.Session
import TaskQueue.TaskLoop.Session
import TaskQueue.TickerLoop.Session
import TaskQueue.Worker.Report
import TaskQueue.Proofs.TickerLoop.Pace
import TaskQueue.Proofs.Worker.Pace
import TaskQueue.Proofs.Signal.Ending
import TaskQueue.Proofs.Signal.Session
import TaskQueue.Proofs.TaskLoop.Wakeup
import TaskQueue.Proofs.Migration.Bootstrap
import TaskQueue.Proofs.Pool.Isolation
import TaskQueue.Proofs.Worker.Prefetch
import TaskQueue.Proofs.Name.Channel
import TaskQueue.Proofs.Entity.Codec
import TaskQueue.Proofs.Entity.Survival
import TaskQueue.Proofs.Pool.Outcome
import TaskQueue.Proofs.Manager.Names
import TaskQueue.Proofs.Worker.Periods
import TaskQueue.Proofs.TickerLoop.Fires
import TaskQueue.Proofs.Time.Saturation
import TaskQueue.Proofs.PollPeriod.Course
import TaskQueue.Proofs.Name.Normal
import TaskQueue.Proofs.Manager.CleanupNames
import TaskQueue.Proofs.Worker.Sweep
import TaskQueue.Proofs.Time.Order
import TaskQueue.Proofs.Pool.Expiry
import TaskQueue.Proofs.Manager.CleanupInterval
import TaskQueue.Proofs.Migration.Pattern
import TaskQueue.Proofs.Migration.Reading
import TaskQueue.Proofs.Migration.Substitution
