import RequestDispatch.Assoc
import RequestDispatch.Assoc.Buckets
import RequestDispatch.Chain.Interceptor
import RequestDispatch.Chain.Run
import RequestDispatch.Chain.Scope
import RequestDispatch.Config.Decode
import RequestDispatch.Config.EnvFile.Line
import RequestDispatch.Config.EnvFile.Reader
import RequestDispatch.Config.EnvText
import RequestDispatch.Config.Environment
import RequestDispatch.Config.Error
import RequestDispatch.Config.Format
import RequestDispatch.Config.Manager
import RequestDispatch.Config.Rule
import RequestDispatch.Config.Settings
import RequestDispatch.Config.Store
import RequestDispatch.Config.Typed
import RequestDispatch.Cors.Config
import RequestDispatch.Cors.Enforce
import RequestDispatch.Cors.Origin
import RequestDispatch.Data.Json
import RequestDispatch.Data.Toml.DateTime
import RequestDispatch.Data.Toml.Number
import RequestDispatch.Data.Toml.Quoted
import RequestDispatch.Data.Toml.Reader
import RequestDispatch.Data.Toml.Table
import RequestDispatch.Data.Value
import RequestDispatch.Error
import RequestDispatch.Handler.Bean
import RequestDispatch.Handler.Container
import RequestDispatch.Handler.HandlerMethod
import RequestDispatch.Handler.Signature
import RequestDispatch.Http.Attributes
import RequestDispatch.Http.Method
import RequestDispatch.Http.Request
import RequestDispatch.Http.Response
import RequestDispatch.Log.Event
import RequestDispatch.Log.Setup
import RequestDispatch.Mapping.Discovery
import RequestDispatch.Mapping.Fallback
import RequestDispatch.Mapping.HandlerMapping
import RequestDispatch.Mapping.Lookup
import RequestDispatch.Mapping.Registration
import RequestDispatch.Mapping.Registry
import RequestDispatch.Mapping.Strategy
import RequestDispatch.Mapping.UrlMapping
import RequestDispatch.Number.Binary64
import RequestDispatch.Number.Literal
import RequestDispatch.Number.Shortest
import RequestDispatch.Path.Match
import RequestDispatch.Path.Rank
import RequestDispatch.Path.Segment
import RequestDispatch.Proofs.Attempts
import RequestDispatch.Proofs.Chain.Protocol
import RequestDispatch.Proofs.Config.Integers
import RequestDispatch.Proofs.Config.Overrides
import RequestDispatch.Proofs.Config.Precedence
import RequestDispatch.Proofs.Config.Quoting
import RequestDispatch.Proofs.Config.Variables
import RequestDispatch.Proofs.Config.Writes
import RequestDispatch.Proofs.Cors.Allowing
import RequestDispatch.Proofs.Cors.Combination
import RequestDispatch.Proofs.Cors.Decision
import RequestDispatch.Proofs.Cors.Enforcement
import RequestDispatch.Proofs.Cors.Wildcards
import RequestDispatch.Proofs.Handler.Asking
import RequestDispatch.Proofs.Handler.Beans
import RequestDispatch.Proofs.Handler.Creation
import RequestDispatch.Proofs.Handler.History
import RequestDispatch.Proofs.Handler.Shadowing
import RequestDispatch.Proofs.Http.LookupPath
import RequestDispatch.Proofs.Http.MethodNames
import RequestDispatch.Proofs.Mapping.Chains
import RequestDispatch.Proofs.Mapping.Detection
import RequestDispatch.Proofs.Mapping.Discovery
import RequestDispatch.Proofs.Mapping.Guards
import RequestDispatch.Proofs.Mapping.HeadRequests
import RequestDispatch.Proofs.Mapping.Laziness
import RequestDispatch.Proofs.Mapping.Notes
import RequestDispatch.Proofs.Mapping.Preflight
import RequestDispatch.Proofs.Mapping.Probe
import RequestDispatch.Proofs.Mapping.Resolution
import RequestDispatch.Proofs.Mapping.Served
import RequestDispatch.Proofs.Mapping.UrlDetection
import RequestDispatch.Proofs.Mapping.Winner
import RequestDispatch.Proofs.Number.Decimals
import RequestDispatch.Proofs.Path.Alignment
import RequestDispatch.Proofs.Path.Caching
import RequestDispatch.Proofs.Path.Counting
import RequestDispatch.Proofs.Path.Expression
import RequestDispatch.Proofs.Path.Filling
import RequestDispatch.Proofs.Path.Specificity
import RequestDispatch.Proofs.Path.Wildcards
import RequestDispatch.Proofs.Ranked
import RequestDispatch.Proofs.Regex.Matches
import RequestDispatch.Proofs.Registry.History
import RequestDispatch.Proofs.Registry.Indexes
import RequestDispatch.Proofs.Registry.Listing
import RequestDispatch.Proofs.Registry.Order
import RequestDispatch.Proofs.Registry.Refusal
import RequestDispatch.Proofs.Registry.RoundTrip
import RequestDispatch.Proofs.Route.Narrowing
import RequestDispatch.Proofs.Route.Ranking
import RequestDispatch.Proofs.Text.Recasing
import RequestDispatch.Regex.CharSet
import RequestDispatch.Regex.Node
import RequestDispatch.Regex.Program
import RequestDispatch.Regex.Property
import RequestDispatch.Regex.Reader
import RequestDispatch.Route.RouteMapping
import RequestDispatch.Route.Table
import RequestDispatch.Text.Blank
import RequestDispatch.Text.Case
import RequestDispatch.Text.Case.Table
import RequestDispatch.Text.Category
import RequestDispatch.Text.Category.Table
import RequestDispatch.Text.Hex
import RequestDispatch.Text.Percent
import RequestDispatch.Text.Property.Table
import RequestDispatch.Text.Quoted
import RequestDispatch.Text.Runs
import RequestDispatch.Text.Script
import RequestDispatch.Text.Script.Table
import RequestDispatch.Text.Split
import RequestDispatch.View.Basic
import RequestDispatch.View.Config
import RequestDispatch.View.Dispatch
