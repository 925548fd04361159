import ApiStubs.Alias
import ApiStubs.Alias.Ledger
import ApiStubs.ApiModule
import ApiStubs.ApiModule.Fault
import ApiStubs.ApiModule.Load
import ApiStubs.ApiModule.Reader
import ApiStubs.Cli.Advice
import ApiStubs.Cli.Arguments
import ApiStubs.Cli.Command
import ApiStubs.Cli.Configuration
import ApiStubs.Cli.Help
import ApiStubs.Constant
import ApiStubs.Constant.Catalog
import ApiStubs.Decimal
import ApiStubs.Decimal.Binary64
import ApiStubs.Document.Json
import ApiStubs.Document.Json.Grammar
import ApiStubs.Document.Toml
import ApiStubs.Document.Toml.Calendar
import ApiStubs.Document.Toml.Number
import ApiStubs.Document.Toml.Scan
import ApiStubs.Document.Toml.Text
import ApiStubs.Document.Toml.Tree
import ApiStubs.Document.Value
import ApiStubs.Emission
import ApiStubs.Event
import ApiStubs.Files.Path
import ApiStubs.Files.Tree
import ApiStubs.Generation
import ApiStubs.Log
import ApiStubs.Log.Text
import ApiStubs.Main
import ApiStubs.Markup.Builder
import ApiStubs.Markup.Builder.Adoption
import ApiStubs.Markup.Builder.Body
import ApiStubs.Markup.Builder.Foreign
import ApiStubs.Markup.Builder.Run
import ApiStubs.Markup.Builder.Select
import ApiStubs.Markup.Builder.Table
import ApiStubs.Markup.CharacterName
import ApiStubs.Markup.Draft
import ApiStubs.Markup.Element
import ApiStubs.Markup.Forest
import ApiStubs.Markup.Formatting
import ApiStubs.Markup.Markdown
import ApiStubs.Markup.Reference
import ApiStubs.Markup.Stack
import ApiStubs.Markup.Token
import ApiStubs.Markup.Token.Lexer
import ApiStubs.Pattern.Escape
import ApiStubs.Pattern.Matcher
import ApiStubs.Pattern.Parser
import ApiStubs.Pattern.Syntax
import ApiStubs.Prefix.Candidate
import ApiStubs.Prefix.Inference
import ApiStubs.Prefix.Partition
import ApiStubs.Prefix.Tokens
import ApiStubs.Proofs.Alias
import ApiStubs.Proofs.Alias.Ledger
import ApiStubs.Proofs.Alias.MemberSets
import ApiStubs.Proofs.Alias.Narrowest
import ApiStubs.Proofs.Alias.OneSpace
import ApiStubs.Proofs.Alias.Repetition
import ApiStubs.Proofs.ApiModule
import ApiStubs.Proofs.ApiModule.Description
import ApiStubs.Proofs.ApiModule.Merge
import ApiStubs.Proofs.ApiModule.RoundTrip
import ApiStubs.Proofs.ApiModule.Schema
import ApiStubs.Proofs.Cli.Arguments
import ApiStubs.Proofs.Cli.DryRun
import ApiStubs.Proofs.Cli.Grammar
import ApiStubs.Proofs.Cli.Precedence
import ApiStubs.Proofs.Cli.Prediction
import ApiStubs.Proofs.Constant.Catalog
import ApiStubs.Proofs.Constant.Growth
import ApiStubs.Proofs.Constant.Names
import ApiStubs.Proofs.Constant.Registration
import ApiStubs.Proofs.Document.Json
import ApiStubs.Proofs.Document.Json.Lexical
import ApiStubs.Proofs.Document.Json.Writer
import ApiStubs.Proofs.Document.Shape
import ApiStubs.Proofs.Emission
import ApiStubs.Proofs.Emission.Footprint
import ApiStubs.Proofs.Emission.Stages
import ApiStubs.Proofs.Emission.Units
import ApiStubs.Proofs.Except
import ApiStubs.Proofs.Files.Below
import ApiStubs.Proofs.Files.Containment
import ApiStubs.Proofs.Files.Inside
import ApiStubs.Proofs.Files.Path
import ApiStubs.Proofs.Files.Tree
import ApiStubs.Proofs.Generation
import ApiStubs.Proofs.Generation.Accounting
import ApiStubs.Proofs.Generation.AliasBlocks
import ApiStubs.Proofs.Generation.ConstantFields
import ApiStubs.Proofs.Generation.ElementOrder
import ApiStubs.Proofs.Generation.FinalState
import ApiStubs.Proofs.Generation.Independence
import ApiStubs.Proofs.Generation.Lines
import ApiStubs.Proofs.Generation.Locality
import ApiStubs.Proofs.Generation.ModuleOrder
import ApiStubs.Proofs.Generation.Strictness
import ApiStubs.Proofs.Keyed
import ApiStubs.Proofs.Markup.Markdown
import ApiStubs.Proofs.Pattern.Escape
import ApiStubs.Proofs.Pattern.Parser
import ApiStubs.Proofs.Pattern.Whole
import ApiStubs.Proofs.Prefix.Candidate
import ApiStubs.Proofs.Prefix.CommonRun
import ApiStubs.Proofs.Prefix.Groups
import ApiStubs.Proofs.Prefix.Inference
import ApiStubs.Proofs.Prefix.Locality
import ApiStubs.Proofs.Prefix.NameSet
import ApiStubs.Proofs.Prefix.Partition
import ApiStubs.Proofs.Prefix.Report
import ApiStubs.Proofs.Prefix.Selection
import ApiStubs.Proofs.Prefix.Specific
import ApiStubs.Proofs.Prefix.Tokens
import ApiStubs.Proofs.QualifiedName
import ApiStubs.Proofs.Reference.Agreement
import ApiStubs.Proofs.Reference.CommonRun
import ApiStubs.Proofs.Reference.Delimited
import ApiStubs.Proofs.Reference.Dotted
import ApiStubs.Proofs.Reference.Fold
import ApiStubs.Proofs.Reference.Locality
import ApiStubs.Proofs.Reference.Mention
import ApiStubs.Proofs.Reference.Outcome
import ApiStubs.Proofs.Reference.Rebuild
import ApiStubs.Proofs.Reference.Registrations
import ApiStubs.Proofs.Reference.Repetition
import ApiStubs.Proofs.Reference.Replacement
import ApiStubs.Proofs.Reference.Resolution
import ApiStubs.Proofs.Reference.Scope
import ApiStubs.Proofs.Registry
import ApiStubs.Proofs.Registry.History
import ApiStubs.Proofs.Registry.OneSpace
import ApiStubs.Proofs.Registry.Operation
import ApiStubs.Proofs.Rendering
import ApiStubs.Proofs.Rendering.Callable
import ApiStubs.Proofs.Rendering.Generics
import ApiStubs.Proofs.Rendering.Lines
import ApiStubs.Proofs.Rendering.LocalEntries
import ApiStubs.Proofs.Rendering.Locality
import ApiStubs.Proofs.Rendering.Reports
import ApiStubs.Proofs.Rendering.Requests
import ApiStubs.Proofs.Rendering.Strictness
import ApiStubs.Proofs.Rendering.Unknown
import ApiStubs.Proofs.Settings.Environment
import ApiStubs.Proofs.Settings.Override
import ApiStubs.Proofs.Settings.Patterns
import ApiStubs.Proofs.Settings.Reader
import ApiStubs.Proofs.Settings.Schema
import ApiStubs.Proofs.Sorting
import ApiStubs.Proofs.Stub.Fields
import ApiStubs.Proofs.Stub.Generics
import ApiStubs.Proofs.Stub.Header
import ApiStubs.Proofs.Stub.Lines
import ApiStubs.Proofs.Stub.Members
import ApiStubs.Proofs.Stub.Rules
import ApiStubs.Proofs.Table
import ApiStubs.Proofs.Text.Blank
import ApiStubs.Proofs.Text.CodeUnits
import ApiStubs.Proofs.Text.Lines
import ApiStubs.Proofs.Text.Replace
import ApiStubs.Proofs.Text.Search
import ApiStubs.Proofs.Text.Split
import ApiStubs.Proofs.Text.UnitOrder
import ApiStubs.Proofs.Text.UnitText
import ApiStubs.QualifiedName
import ApiStubs.Reference.Fold
import ApiStubs.Reference.Mention
import ApiStubs.Registry
import ApiStubs.Settings
import ApiStubs.Settings.Check
import ApiStubs.Settings.Environment
import ApiStubs.Settings.Override
import ApiStubs.Settings.Reader
import ApiStubs.Signature
import ApiStubs.Stub.Comment
import ApiStubs.Stub.Declaration
import ApiStubs.Stub.Header
import ApiStubs.Stub.Layout
import ApiStubs.Stub.Members
import ApiStubs.Stub.Rules
import ApiStubs.Table
import ApiStubs.Text.Blank
import ApiStubs.Text.Digit
import ApiStubs.Text.Form
import ApiStubs.Text.Identifier
import ApiStubs.Text.Lowercase
import ApiStubs.Text.Search
import ApiStubs.Text.UnitText
import ApiStubs.Text.Units
