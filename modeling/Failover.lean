import Failover.Builder
import Failover.Client.Basic
import Failover.Client.Execution
import Failover.Configuration.Basic
import Failover.Configuration.Continuation
import Failover.Configuration.Json
import Failover.Configuration.Node
import Failover.Configuration.Strategy
import Failover.Context
import Failover.Duration
import Failover.Endpoint
import Failover.Endpoint.Reader
import Failover.Event
import Failover.Failure
import Failover.Fault
import Failover.HeaderFilter
import Failover.Http.Header
import Failover.Http.Request
import Failover.Http.Response
import Failover.Json.Reader
import Failover.Json.Token
import Failover.Json.Value
import Failover.Net.Address
import Failover.Pattern.Basic
import Failover.Pattern.Property
import Failover.Pattern.Reader
import Failover.Provider.Source
import Failover.Provider.Tree
import Failover.Resolver
import Failover.Transport
import Failover.Session
import Failover.Shuffle
import Failover.Stats
import Failover.Text.Basic
import Failover.Text.Case
import Failover.Text.Category.Basic
import Failover.Text.Category.Ranges
import Failover.Text.Classes
import Failover.Text.Composition
import Failover.Text.Script
import Failover.Text.Utf8
import Failover.Url.Basic
import Failover.Url.Host
import Failover.Url.Idna
import Failover.Url.Idna.Tables
import Failover.Url.Percent
import Failover.Url.Punycode
import Failover.Url.Reader
import Failover.Proofs.Script
import Failover.Proofs.Shuffle
import Failover.Proofs.Session.Next
import Failover.Proofs.Session.Usage
import Failover.Proofs.Session.Stopped
import Failover.Proofs.Session.Supply
import Failover.Proofs.Duration
import Failover.Proofs.Session.Pauses
import Failover.Proofs.Client.Run
import Failover.Proofs.Builder
import Failover.Proofs.Endpoint
import Failover.Proofs.Fault
import Failover.Proofs.Response
import Failover.Proofs.Client.Uncertain
import Failover.Proofs.Session.Course
import Failover.Proofs.Client.Outcome
import Failover.Proofs.Pattern
import Failover.Proofs.Provider.Leaves
import Failover.Proofs.Provider.Feedback
import Failover.Proofs.Provider.Flat
import Failover.Proofs.Client.Representation
import Failover.Proofs.Client.Enclosed
import Failover.Proofs.Client.Likeness
import Failover.Proofs.Client.Log
import Failover.Proofs.Client.Policies
import Failover.Proofs.HeaderFilter
import Failover.Proofs.Client.Secrecy
import Failover.Proofs.Client.Severity
import Failover.Proofs.Client.Feedback
import Failover.Client.Traffic
import Failover.Proofs.Stats
import Failover.Proofs.Text
import Failover.Proofs.Client.Traffic
import Failover.Proofs.Url.Host
import Failover.Proofs.Url.Idna
import Failover.Proofs.Url.Authority
import Failover.Proofs.Client.Prepared
import Failover.Proofs.Provider.Steady
import Failover.Proofs.Request
import Failover.Proofs.Configuration.Nodes
import Failover.Proofs.Configuration.Acceptance
import Failover.Proofs.Configuration.Addressing
import Failover.Proofs.Json.Scan
import Failover.Proofs.Json.Written
import Failover.Proofs.Configuration.Written
import Failover.Proofs.Configuration.RoundTrip
import Failover.Proofs.Client.OwnNodes
import Failover.Proofs.Client.Bodies
import Failover.Proofs.Client.Schedule
import Failover.Proofs.Client.Cancellation
import Failover.Proofs.Url.Address
import Failover.Proofs.Endpoint.Reader
import Failover.Proofs.Resolver
import Failover.Proofs.Client.Candidates
import Failover.Proofs.Provider.Choice
import Failover.Proofs.Client.Repetition
import Failover.Proofs.Builder.Acceptance
import Failover.Proofs.Client.Naming
import Failover.Proofs.Text.Utf8
import Failover.Proofs.Client.Correlation
import Failover.Proofs.Client.Entries
