import SchemaBinding.Main
import SchemaBinding.Proofs.Table
import SchemaBinding.Proofs.Generation.Visit
import SchemaBinding.Proofs.Generation.Moment
import SchemaBinding.Proofs.Generation.TopLevel
import SchemaBinding.Proofs.Generation.Agenda
import SchemaBinding.Proofs.Generation.Calls
import SchemaBinding.Proofs.Generation.Report
import SchemaBinding.Proofs.Generation.Accounts
import SchemaBinding.Proofs.Generation.Queue
import SchemaBinding.Proofs.Generation.Fate
import SchemaBinding.Proofs.Generation.Order
import SchemaBinding.Proofs.Model
import SchemaBinding.Proofs.Preorder
import SchemaBinding.Proofs.Mixed.Chain
import SchemaBinding.Proofs.Mixed.Round
import SchemaBinding.Proofs.Diagnostics
import SchemaBinding.Proofs.Mixed.Settled
import SchemaBinding.Proofs.Builder.Built
import SchemaBinding.Proofs.Groups.Reference
import SchemaBinding.Proofs.Groups.Expansion
import SchemaBinding.Proofs.Groups.Substitution
import SchemaBinding.Proofs.Groups.Walk
import SchemaBinding.Proofs.Groups.Note
import SchemaBinding.Proofs.Groups.Exact
import SchemaBinding.Proofs.Groups.Plain
import SchemaBinding.Proofs.Groups.Remainder
import SchemaBinding.Proofs.Groups.Safety
import SchemaBinding.Proofs.Builder.Document
import SchemaBinding.Proofs.Builder.Forest
import SchemaBinding.Proofs.Builder.OpenTags
import SchemaBinding.Proofs.Builder.Wrappers
import SchemaBinding.Proofs.Builder.Runs
import SchemaBinding.Proofs.Builder.SimpleTypes
import SchemaBinding.Proofs.Builder.ValueSpaces
import SchemaBinding.Proofs.Builder.InlineTypes
import SchemaBinding.Proofs.Builder.NamedTables
import SchemaBinding.Proofs.Generation.Blocks
import SchemaBinding.Proofs.Generation.Fields
import SchemaBinding.Proofs.Generation.Protocol
import SchemaBinding.Proofs.Resolve.Kept
import SchemaBinding.Proofs.Resolve.Extended
import SchemaBinding.Proofs.Resolve.ExtensionChains
import SchemaBinding.Proofs.Resolve.Registration
import SchemaBinding.Proofs.Resolve.Registered
import SchemaBinding.Proofs.Resolve.Registry
import SchemaBinding.Proofs.Resolve.Typed
import SchemaBinding.Proofs.Resolve.Once
import SchemaBinding.Proofs.Resolve.Content
import SchemaBinding.Proofs.Resolve.Placed
import SchemaBinding.Proofs.Generation.Derived
import SchemaBinding.Proofs.Generation.References
import SchemaBinding.Proofs.Resolve.AttributeNames
import SchemaBinding.Proofs.Resolve.InlineTypes
import SchemaBinding.Proofs.Resolve.Particles
import SchemaBinding.Proofs.Generation.Particles
import SchemaBinding.Proofs.Code.Structs
import SchemaBinding.Proofs.Code.WireNames
import SchemaBinding.Proofs.Resolve.Annotation
import SchemaBinding.Proofs.Text.Occurrence
import SchemaBinding.Proofs.Text.Casing
import SchemaBinding.Proofs.Code.Classes
import SchemaBinding.Proofs.Code.Containment
import SchemaBinding.Proofs.Code.Identifiers
import SchemaBinding.Proofs.Markup.Escaped
import SchemaBinding.Proofs.Markup.Tags
import SchemaBinding.Proofs.Markup.Written
import SchemaBinding.Proofs.Command
import SchemaBinding.Proofs.Trail
import SchemaBinding.Proofs.Builder.AttributeKeys
import SchemaBinding.Proofs.Resolve.SimpleChains
import SchemaBinding.Proofs.Resolve.ElementChains
import SchemaBinding.Proofs.Resolve.Disambiguation
import SchemaBinding.Proofs.Text.CaseMap
import SchemaBinding.Proofs.Text.Words
import SchemaBinding.Proofs.Code.NameLetters
import SchemaBinding.Proofs.Code.Completed
import SchemaBinding.Proofs.Builder.Started
import SchemaBinding.Proofs.Builder.SchemaPrefix
import SchemaBinding.Proofs.Builder.TypeNames
import SchemaBinding.Proofs.Builder.Choices
import SchemaBinding.Proofs.Resolve.NameSpaces
import SchemaBinding.Proofs.Resolve.NamedTables
import SchemaBinding.Proofs.Resolve.AttributeGroups
import SchemaBinding.Proofs.Resolve.Findings
import SchemaBinding.Proofs.Generation.ReversedChain
import SchemaBinding.Proofs.Generation.Validators
import SchemaBinding.Proofs.Generation.HiddenBases
import SchemaBinding.Proofs.OrderedMap
