import ServiceSupervisor.Binary64
import ServiceSupervisor.Binary64.Shortest
import ServiceSupervisor.Calendar
import ServiceSupervisor.CommandLine
import ServiceSupervisor.Component
import ServiceSupervisor.Configuration
import ServiceSupervisor.Configuration.Decode
import ServiceSupervisor.Configuration.File
import ServiceSupervisor.Consumer
import ServiceSupervisor.Disposal
import ServiceSupervisor.Document
import ServiceSupervisor.Duration
import ServiceSupervisor.Failure
import ServiceSupervisor.Http.Message
import ServiceSupervisor.Http.Routes
import ServiceSupervisor.Http.Server
import ServiceSupervisor.Http.Session
import ServiceSupervisor.Json
import ServiceSupervisor.Json.Reader
import ServiceSupervisor.Log
import ServiceSupervisor.Main
import ServiceSupervisor.Network
import ServiceSupervisor.Payload
import ServiceSupervisor.Preparation
import ServiceSupervisor.Probe
import ServiceSupervisor.Process
import ServiceSupervisor.Program
import ServiceSupervisor.Report
import ServiceSupervisor.Routine
import ServiceSupervisor.Schedule
import ServiceSupervisor.Schedule.Expression
import ServiceSupervisor.Scheduler
import ServiceSupervisor.Scheduler.Session
import ServiceSupervisor.Scheduler.Usage
import ServiceSupervisor.Service
import ServiceSupervisor.ServiceError
import ServiceSupervisor.Signals
import ServiceSupervisor.SocketAddress
import ServiceSupervisor.Startup
import ServiceSupervisor.Supervisor
import ServiceSupervisor.SystemError
import ServiceSupervisor.Task
import ServiceSupervisor.Teardown
import ServiceSupervisor.Text.Quoted
import ServiceSupervisor.Text.Reader
import ServiceSupervisor.Text.Unprintable
import ServiceSupervisor.Toml
import ServiceSupervisor.Toml.Lexeme
import ServiceSupervisor.Toml.Tree
import ServiceSupervisor.World
import ServiceSupervisor.Proofs.Effects
import ServiceSupervisor.Proofs.Moves
import ServiceSupervisor.Proofs.Gathering
import ServiceSupervisor.Proofs.Reached
import ServiceSupervisor.Proofs.Entries
import ServiceSupervisor.Proofs.Verdict
import ServiceSupervisor.Proofs.Ledger
import ServiceSupervisor.Proofs.TeardownTiming
import ServiceSupervisor.Proofs.Drain
import ServiceSupervisor.Proofs.Beginnings
import ServiceSupervisor.Proofs.Phases
import ServiceSupervisor.Proofs.Calm
import ServiceSupervisor.Proofs.Listening
import ServiceSupervisor.Proofs.Repetition
import ServiceSupervisor.Proofs.Arguments
import ServiceSupervisor.Proofs.Configured
import ServiceSupervisor.Proofs.Exits
import ServiceSupervisor.Proofs.Hearing
import ServiceSupervisor.Proofs.Orderly
import ServiceSupervisor.Proofs.SignalScope
import ServiceSupervisor.Proofs.Quiet
import ServiceSupervisor.Proofs.FireTimes
import ServiceSupervisor.Proofs.Past
import ServiceSupervisor.Proofs.Twins
import ServiceSupervisor.Proofs.Termination
import ServiceSupervisor.Proofs.Noninterference
import ServiceSupervisor.Proofs.FirstFireTime
import ServiceSupervisor.Proofs.Courses
import ServiceSupervisor.Proofs.Polls
import ServiceSupervisor.Proofs.InMotion
import ServiceSupervisor.Proofs.InUse
import ServiceSupervisor.Proofs.FireAccount
import ServiceSupervisor.Proofs.SchedulerStop
import ServiceSupervisor.Proofs.JobIndependence
import ServiceSupervisor.Proofs.JobOverlap
import ServiceSupervisor.Proofs.ServerSteps
import ServiceSupervisor.Proofs.FirstCall
import ServiceSupervisor.Proofs.Responses
import ServiceSupervisor.Proofs.ServerLife
import ServiceSupervisor.Proofs.ServerStop
import ServiceSupervisor.Proofs.Exchange
import ServiceSupervisor.Proofs.ExchangedStages
import ServiceSupervisor.Proofs.PanicAsError
import ServiceSupervisor.Proofs.Containment
import ServiceSupervisor.Proofs.Handling
import ServiceSupervisor.Proofs.SignalDelivery
import ServiceSupervisor.Proofs.Overlay
import ServiceSupervisor.Proofs.Judgement
import ServiceSupervisor.Proofs.Diagnostics
import ServiceSupervisor.Proofs.Probing
