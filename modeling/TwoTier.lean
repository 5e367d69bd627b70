import TwoTier.Buffer.HandDriven
import TwoTier.Looper.Interleaving
import TwoTier.Main
import TwoTier.Program.Interleaving
import TwoTier.Proofs.Steps
import TwoTier.Proofs.Outline
import TwoTier.Proofs.Journal
import TwoTier.Proofs.Bands
import TwoTier.Proofs.Custody
import TwoTier.Proofs.Gate
import TwoTier.Proofs.StopRace
import TwoTier.Proofs.Stranding
import TwoTier.Pool.Interleaving
import TwoTier.Proofs.PoolSteps
import TwoTier.Proofs.Ledger
import TwoTier.Proofs.Attendance
import TwoTier.Proofs.ServiceSteps
import TwoTier.Proofs.ShutdownRace
import TwoTier.Proofs.PoolLine
import TwoTier.Proofs.SingleFile
import TwoTier.Proofs.MainThread
import TwoTier.Proofs.Closures
import TwoTier.Proofs.Handles
import TwoTier.Proofs.PoolAccount
import TwoTier.Proofs.Roster
import TwoTier.Proofs.Tickets
import TwoTier.Proofs.Drain
import TwoTier.Proofs.Sheets
import TwoTier.Service.Pacing
import TwoTier.Proofs.Posts
import TwoTier.Proofs.Settling
import TwoTier.Proofs.Settled
import TwoTier.Proofs.Fates
import TwoTier.Proofs.Counters
import TwoTier.Proofs.AfterShutdown
import TwoTier.Proofs.Watch
import TwoTier.Proofs.Entrusted
import TwoTier.Proofs.Traces
import TwoTier.Proofs.Register
import TwoTier.Proofs.Callouts
import TwoTier.Proofs.LooperSteps
import TwoTier.Proofs.HandleCount
import TwoTier.Proofs.MainLoop
import TwoTier.Proofs.Schedules
import TwoTier.Proofs.Diagnostics
import TwoTier.Proofs.PoolNaturality
import TwoTier.Proofs.Deafness
import TwoTier.Proofs.Panics
import TwoTier.Proofs.Refusals
import TwoTier.Proofs.Configurations
import TwoTier.Proofs.Settings
import TwoTier.Proofs.ProgramSteps
import TwoTier.Proofs.OneExecutor
import TwoTier.Proofs.FirstUse
import TwoTier.Proofs.Wakeups
import TwoTier.Proofs.Headcount
import TwoTier.Proofs.Retirement
import TwoTier.Proofs.CoreUse
import TwoTier.Proofs.Minutes
import TwoTier.Proofs.CoreSize
import TwoTier.Proofs.Leftovers
import TwoTier.Proofs.HandedBack
import TwoTier.Proofs.Rereading
import TwoTier.Proofs.Readiness
import TwoTier.Proofs.Overtime
import TwoTier.Proofs.Conduct
import TwoTier.Proofs.Assisted
import TwoTier.Proofs.AllResults
import TwoTier.Proofs.FirstResult
import TwoTier.Proofs.PoolConduct
import TwoTier.Proofs.Encodings
import TwoTier.Proofs.Environments
import TwoTier.Proofs.Deadlines
