import RateIsolation.Number.Shortest
import RateIsolation.Text.Printable
import RateIsolation.Text.CharClass
import RateIsolation.Text.UpperCase
import RateIsolation.Text.Quoted
import RateIsolation.Text.Point
import RateIsolation.Json.Printer
import RateIsolation.Json.Reader
import RateIsolation.Json.Body
import RateIsolation.Report
import RateIsolation.Metrics.Exposition
import RateIsolation.Log.Record
import RateIsolation.Number.Reading
import RateIsolation.Text.Base64
import RateIsolation.Http.Percent
import RateIsolation.Http.HostAddress
import RateIsolation.Http.HostName
import RateIsolation.Http.Url
import RateIsolation.Session
import RateIsolation.Login
import RateIsolation.Traffic
import RateIsolation.Alignment
import RateIsolation.Settings.Report
import RateIsolation.Scenario
import RateIsolation.Reporter
import RateIsolation.Command.Run
import RateIsolation.Gateway.Simulation
import RateIsolation.Main
import RateIsolation.Proofs.Limiter
import RateIsolation.Proofs.Action
import RateIsolation.Proofs.Frame
import RateIsolation.Proofs.Run
import RateIsolation.Proofs.Verdict
import RateIsolation.Proofs.Accepted
import RateIsolation.Proofs.Transcript
import RateIsolation.Proofs.Utf8
import RateIsolation.Proofs.ReadBack
import RateIsolation.Proofs.Gateway
import RateIsolation.Proofs.Counting
import RateIsolation.Proofs.Service
import RateIsolation.Proofs.Hosted
import RateIsolation.Proofs.Isolation
import RateIsolation.Proofs.Detection
import RateIsolation.Proofs.Noninterference
import RateIsolation.Proofs.FatalLogin
import RateIsolation.Proofs.Sending
import RateIsolation.Proofs.Reporting
import RateIsolation.Proofs.Trace
import RateIsolation.Proofs.Conduct
import RateIsolation.Proofs.Causes
import RateIsolation.Proofs.Ending
import RateIsolation.Proofs.Counters
import RateIsolation.Proofs.Samples
import RateIsolation.Proofs.Bookkeeping
import RateIsolation.Proofs.Conservation
import RateIsolation.Proofs.Twins
import RateIsolation.Proofs.Secrets
import RateIsolation.Proofs.AccessControl
import RateIsolation.Proofs.Hermetic
import RateIsolation.Proofs.Tagging
import RateIsolation.Proofs.Correlation
import RateIsolation.Proofs.LoginReplies
import RateIsolation.Proofs.Burst
import RateIsolation.Proofs.Landings
import RateIsolation.Proofs.Alignable
import RateIsolation.Proofs.Guards
import RateIsolation.Proofs.Scalars
import RateIsolation.Proofs.RoundTrip
import RateIsolation.Proofs.Summary
import RateIsolation.Proofs.Masking
import RateIsolation.Proofs.Timeout
