import RuleStack.Cli.Arguments
import RuleStack.Cli.Run
import RuleStack.Compiler
import RuleStack.Config.Basic
import RuleStack.Config.Load
import RuleStack.Definition.RuleFile
import RuleStack.Digest
import RuleStack.Files
import RuleStack.Fragment.Function
import RuleStack.Fragment.Kind
import RuleStack.Fragment.Trigger
import RuleStack.Handler
import RuleStack.Json.Basic
import RuleStack.Json.Parser
import RuleStack.Json.Printer
import RuleStack.Json.Record
import RuleStack.Key
import RuleStack.KeyMap
import RuleStack.Main
import RuleStack.Notification
import RuleStack.Number
import RuleStack.Proofs.Assembly.Content
import RuleStack.Proofs.Assembly.Gateway
import RuleStack.Proofs.Assembly.InPlace
import RuleStack.Proofs.Assembly.Methods
import RuleStack.Proofs.Assembly.Step
import RuleStack.Proofs.Bundle.Build
import RuleStack.Proofs.Bundle.Endings
import RuleStack.Proofs.Bundle.Keys
import RuleStack.Proofs.Bundle.Requirements
import RuleStack.Proofs.Bundle.RoundTrip
import RuleStack.Proofs.Cli.Check
import RuleStack.Proofs.Cli.Fragment
import RuleStack.Proofs.Cli.Reread
import RuleStack.Proofs.Cli.Traces
import RuleStack.Proofs.Compiler.Ambiguity
import RuleStack.Proofs.Compiler.Collisions
import RuleStack.Proofs.Compiler.Fragment
import RuleStack.Proofs.Compiler.Handlers
import RuleStack.Proofs.Compiler.Names
import RuleStack.Proofs.Compiler.Run
import RuleStack.Proofs.Config.Faults
import RuleStack.Proofs.Config.Placement
import RuleStack.Proofs.Definition.Read
import RuleStack.Proofs.Files.Directories
import RuleStack.Proofs.Files.Write
import RuleStack.Proofs.Fragment.Environment
import RuleStack.Proofs.Fragment.References
import RuleStack.Proofs.Fragment.Sizing
import RuleStack.Proofs.Json.Canonical
import RuleStack.Proofs.Json.Decoded
import RuleStack.Proofs.Json.Literal
import RuleStack.Proofs.Json.Numbers
import RuleStack.Proofs.Json.Printed
import RuleStack.Proofs.Json.Record
import RuleStack.Proofs.Json.Settled
import RuleStack.Proofs.Json.Spelling
import RuleStack.Proofs.Json.Structure
import RuleStack.Proofs.Json.Tokens
import RuleStack.Proofs.Json.Written
import RuleStack.Proofs.KeyMap
import RuleStack.Proofs.Namer
import RuleStack.Proofs.Notification
import RuleStack.Proofs.Number.Rounding
import RuleStack.Proofs.Outcome
import RuleStack.Proofs.Rule.Requirement
import RuleStack.Proofs.Rule.RoundTrip
import RuleStack.Proofs.Stack.Acceptance
import RuleStack.Proofs.Stack.Compile
import RuleStack.Proofs.Stack.Document
import RuleStack.Proofs.Stack.Layers
import RuleStack.Proofs.Stack.Order
import RuleStack.Proofs.Stack.Revision
import RuleStack.Proofs.Stack.RoundTrip
import RuleStack.Proofs.Stack.Rules
import RuleStack.Proofs.Stack.Settled
import RuleStack.Proofs.Template.Reference
import RuleStack.Proofs.Template.RoundTrip
import RuleStack.Proofs.Template.Sections
import RuleStack.Proofs.Text.Blank
import RuleStack.Proofs.Text.CommaList
import RuleStack.Rule
import RuleStack.Stack
import RuleStack.Template
import RuleStack.Text.Basic
import RuleStack.Text.Lowercase
import RuleStack.Text.Quoted
import RuleStack.Toml.Basic
import RuleStack.Toml.Parser
import RuleStack.Toml.Scalar
