import Reattempt.AbortCondition
import Reattempt.Argument
import Reattempt.Base64
import Reattempt.Binary64
import Reattempt.Builder
import Reattempt.CommandLine
import Reattempt.CommandLine.Options
import Reattempt.Construction
import Reattempt.Decimal.Digits
import Reattempt.Decimal.Layout
import Reattempt.Decimal.Lenient
import Reattempt.Decimal.Limit
import Reattempt.Decimal.Reading
import Reattempt.Decimal.Spoken
import Reattempt.Decision
import Reattempt.Delay
import Reattempt.Duration
import Reattempt.Duration.Suffixed
import Reattempt.Duration.Written
import Reattempt.ErrorClass
import Reattempt.ErrorName
import Reattempt.ErrorName.Catalogue
import Reattempt.ErrorName.Listing
import Reattempt.ErrorName.Standard
import Reattempt.Event
import Reattempt.Execution
import Reattempt.Execution.Handoff
import Reattempt.Failure
import Reattempt.Field.Duration
import Reattempt.Field.Number
import Reattempt.Field.Validation
import Reattempt.History
import Reattempt.Identity
import Reattempt.Main
import Reattempt.PathName
import Reattempt.Platform
import Reattempt.Policy
import Reattempt.Policy.Arguments
import Reattempt.PolicyFile
import Reattempt.PolicyFile.Reading
import Reattempt.PolicyFile.Section
import Reattempt.Predicate
import Reattempt.Preview
import Reattempt.Problem
import Reattempt.Random.Numbers
import Reattempt.Random.Source
import Reattempt.Random.Twister
import Reattempt.Settings
import Reattempt.Subject
import Reattempt.Text.Blank
import Reattempt.Text.Cased
import Reattempt.Text.Digit
import Reattempt.Text.Loose
import Reattempt.Text.Lowercase
import Reattempt.Text.Printable
import Reattempt.Text.Quoted
import Reattempt.Text.Similar
import Reattempt.Value
import Reattempt.Value.Display
import Reattempt.Value.Equality
import Reattempt.Value.Mapping
import Reattempt.Value.Ordering
import Reattempt.Verdict
import Reattempt.Yaml.Cursor
import Reattempt.Yaml.Document
import Reattempt.Yaml.Node
import Reattempt.Yaml.Node.Entries
import Reattempt.Yaml.Node.Reading
import Reattempt.Yaml.Node.Survey
import Reattempt.Yaml.Scalar.Block
import Reattempt.Yaml.Scalar.Meaning
import Reattempt.Yaml.Scalar.Plain
import Reattempt.Yaml.Scalar.Quoted
import Reattempt.Yaml.Tag
import Reattempt.Yaml.Timestamp
import Reattempt.Yaml.Token
import Reattempt.Yaml.Token.Lexer
import Reattempt.Proofs.Builder.Acceptance
import Reattempt.Proofs.Builder.Invariant
import Reattempt.Proofs.Builder.Completeness
import Reattempt.Proofs.PolicyFile.SectionPolicy
import Reattempt.Proofs.Binary64.Sign
import Reattempt.Proofs.Binary64.HalfEven
import Reattempt.Proofs.Decision.Evaluation
import Reattempt.Proofs.Execution.Stopping
import Reattempt.Proofs.Execution.Trace
import Reattempt.Proofs.Execution.Observers
import Reattempt.Proofs.Execution.RetryLimit
import Reattempt.Proofs.Preview.Agreement
import Reattempt.Proofs.Duration.Overflow
import Reattempt.Proofs.Field.Interruption
import Reattempt.Proofs.PolicyFile.LoadFailures
import Reattempt.Proofs.Binary64.Rounding
import Reattempt.Proofs.Binary64.Arithmetic
import Reattempt.Proofs.Duration.Conversion
import Reattempt.Proofs.Binary64.Bounds
import Reattempt.Proofs.Delay.Seconds
import Reattempt.Proofs.Delay.Draws
import Reattempt.Proofs.Delay.Clamp
import Reattempt.Proofs.Delay.Overflow
import Reattempt.Proofs.Decision.Totality
import Reattempt.Proofs.Execution.Handoff
import Reattempt.Proofs.Decision.Draws
import Reattempt.Proofs.Decision.Interleaving
import Reattempt.Proofs.Value.Mapping
import Reattempt.Proofs.Value.Equality
import Reattempt.Proofs.Value.Overlay
import Reattempt.Proofs.Value.Places
import Reattempt.Proofs.Yaml.Document
import Reattempt.Proofs.PolicyFile.Overrides
import Reattempt.Proofs.PolicyFile.RootMapping
import Reattempt.Proofs.Decision.Conditions
import Reattempt.Proofs.Decision.Verdicts
import Reattempt.Proofs.Binary64.Order
import Reattempt.Proofs.Delay.Bounds
import Reattempt.Proofs.Execution.Limits
import Reattempt.Proofs.Builder.Requests
import Reattempt.Proofs.Builder.ArgumentFaults
import Reattempt.Proofs.Builder.Order
import Reattempt.Proofs.Builder.RoundTrip
import Reattempt.Proofs.Preview.Course
import Reattempt.Proofs.Text.Runs
import Reattempt.Proofs.PolicyFile.ShortForm
import Reattempt.Proofs.PolicyFile.ErrorNames
import Reattempt.Proofs.Random.Twister
import Reattempt.Proofs.Preview.Completion
import Reattempt.Proofs.PolicyFile.Loaded
import Reattempt.Proofs.CommandLine.Options
import Reattempt.Proofs.CommandLine.Simulation
