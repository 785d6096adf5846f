import ObjectMapping.CollectionKind
import ObjectMapping.CommandLine.Arguments
import ObjectMapping.CommandLine.Command
import ObjectMapping.CommandLine.File
import ObjectMapping.CommandLine.Response
import ObjectMapping.CommandLine.Word
import ObjectMapping.Delegation
import ObjectMapping.Diagnostic
import ObjectMapping.Directive
import ObjectMapping.EnumFunction
import ObjectMapping.Expr
import ObjectMapping.Fault.Basic
import ObjectMapping.Fault.Sharing
import ObjectMapping.Host.Accessor
import ObjectMapping.Host.Basic
import ObjectMapping.Host.FieldOption
import ObjectMapping.Host.Type
import ObjectMapping.Json.Basic
import ObjectMapping.Location
import ObjectMapping.Main
import ObjectMapping.Mapper.Configuration
import ObjectMapping.Mapper.Declaration
import ObjectMapping.Mapper.Inclusion
import ObjectMapping.Mapper.Instruction
import ObjectMapping.Mapper.Spans
import ObjectMapping.Mapper.Transform
import ObjectMapping.Name
import ObjectMapping.Plan
import ObjectMapping.Problem
import ObjectMapping.Program.Basic
import ObjectMapping.Program.Generate
import ObjectMapping.Proofs.Concat
import ObjectMapping.Proofs.EnumFunction
import ObjectMapping.Proofs.EnumNaming
import ObjectMapping.Proofs.Expr
import ObjectMapping.Proofs.Fallible
import ObjectMapping.Proofs.Fault.Sharing
import ObjectMapping.Proofs.Host.Accessor
import ObjectMapping.Proofs.Host.Addressable
import ObjectMapping.Proofs.Host.Basic
import ObjectMapping.Proofs.Host.Collected
import ObjectMapping.Proofs.Host.Displayed
import ObjectMapping.Proofs.Host.Interface
import ObjectMapping.Proofs.Host.Lent
import ObjectMapping.Proofs.Host.Named
import ObjectMapping.Proofs.Host.Offered
import ObjectMapping.Proofs.Host.OwnFields
import ObjectMapping.Proofs.Host.OwnMembers
import ObjectMapping.Proofs.Host.Rearranged
import ObjectMapping.Proofs.Host.Unplaced
import ObjectMapping.Proofs.Inlining
import ObjectMapping.Proofs.Mapper.Acyclic
import ObjectMapping.Proofs.Mapper.Cycle
import ObjectMapping.Proofs.Mapper.Declaration
import ObjectMapping.Proofs.Mapper.Inclusion
import ObjectMapping.Proofs.Mapper.Inline
import ObjectMapping.Proofs.Mapper.Instruction
import ObjectMapping.Proofs.Mapper.Locations
import ObjectMapping.Proofs.Mapper.Selector
import ObjectMapping.Proofs.Mapper.Statements
import ObjectMapping.Proofs.Mapper.Transform
import ObjectMapping.Proofs.Name
import ObjectMapping.Proofs.Program.Basic
import ObjectMapping.Proofs.Program.Defaults
import ObjectMapping.Proofs.Program.Emission
import ObjectMapping.Proofs.Program.EnumConversion
import ObjectMapping.Proofs.Program.Generate
import ObjectMapping.Proofs.Program.GeneratedNames
import ObjectMapping.Proofs.Program.IncludedMappers
import ObjectMapping.Proofs.Program.Lending
import ObjectMapping.Proofs.Program.PublicInterface
import ObjectMapping.Proofs.Program.Rendered
import ObjectMapping.Proofs.Program.Reporting
import ObjectMapping.Proofs.Rendering.Body
import ObjectMapping.Proofs.Rendering.Calls
import ObjectMapping.Proofs.Rendering.EnumFunction
import ObjectMapping.Proofs.Rendering.Identifier
import ObjectMapping.Proofs.Rendering.Lexemes
import ObjectMapping.Proofs.Rendering.Parts
import ObjectMapping.Proofs.Rendering.Value
import ObjectMapping.Proofs.Renumbering.Basic
import ObjectMapping.Proofs.Renumbering.Relation
import ObjectMapping.Proofs.Renumbering.Resolution
import ObjectMapping.Proofs.Request
import ObjectMapping.Proofs.Resolution.Access
import ObjectMapping.Proofs.Resolution.Accounting
import ObjectMapping.Proofs.Resolution.Agreement
import ObjectMapping.Proofs.Resolution.Collecting
import ObjectMapping.Proofs.Resolution.Completeness
import ObjectMapping.Proofs.Resolution.Construction
import ObjectMapping.Proofs.Resolution.EnumCalls
import ObjectMapping.Proofs.Resolution.Feeding
import ObjectMapping.Proofs.Resolution.Forwarding
import ObjectMapping.Proofs.Resolution.FurtherMappers
import ObjectMapping.Proofs.Resolution.Insertion
import ObjectMapping.Proofs.Resolution.Locality
import ObjectMapping.Proofs.Resolution.Locations
import ObjectMapping.Proofs.Resolution.Naming
import ObjectMapping.Proofs.Resolution.Nullability
import ObjectMapping.Proofs.Resolution.Parts
import ObjectMapping.Proofs.Resolution.Refusal
import ObjectMapping.Proofs.Resolution.Reordering
import ObjectMapping.Proofs.Resolution.Rules
import ObjectMapping.Proofs.Resolution.Typing
import ObjectMapping.Proofs.Resolution.Unassigned
import ObjectMapping.Proofs.Resolution.Values
import ObjectMapping.Proofs.Schema.BaseChain
import ObjectMapping.Proofs.Schema.Built
import ObjectMapping.Proofs.Schema.Description
import ObjectMapping.Proofs.Schema.Flattening
import ObjectMapping.Proofs.Schema.Places
import ObjectMapping.Proofs.Schema.Reordering
import ObjectMapping.Proofs.Schema.Steps
import ObjectMapping.Proofs.Schema.WellFormed
import ObjectMapping.Proofs.Source.Balance
import ObjectMapping.Proofs.Source.Decimal
import ObjectMapping.Proofs.Source.File
import ObjectMapping.Proofs.Source.Grammar.Attribute
import ObjectMapping.Proofs.Source.Grammar.Basic
import ObjectMapping.Proofs.Source.Grammar.Expression
import ObjectMapping.Proofs.Source.Grammar.Generics
import ObjectMapping.Proofs.Source.Grammar.Item
import ObjectMapping.Proofs.Source.Grammar.Member
import ObjectMapping.Proofs.Source.Grammar.Operator
import ObjectMapping.Proofs.Source.Grammar.Path
import ObjectMapping.Proofs.Source.Grammar.Pattern
import ObjectMapping.Proofs.Source.Grammar.Signature
import ObjectMapping.Proofs.Source.Grammar.Statement
import ObjectMapping.Proofs.Source.Grammar.Type
import ObjectMapping.Proofs.Source.Lexeme
import ObjectMapping.Proofs.Source.Literal
import ObjectMapping.Proofs.Source.Number
import ObjectMapping.Proofs.Source.Phrase
import ObjectMapping.Proofs.Source.PlainType
import ObjectMapping.Proofs.Source.Primitive
import ObjectMapping.Proofs.Source.Print
import ObjectMapping.Proofs.Source.Progress
import ObjectMapping.Proofs.Source.Quoted
import ObjectMapping.Proofs.Source.Reader
import ObjectMapping.Proofs.Source.Rename
import ObjectMapping.Proofs.Source.Scan
import ObjectMapping.Proofs.Source.Spelling
import ObjectMapping.Proofs.Source.Takes
import ObjectMapping.Proofs.Strict.Basic
import ObjectMapping.Proofs.Strict.Resolution
import ObjectMapping.Proofs.Text.CharClass
import ObjectMapping.Proofs.Text.LetterCase
import ObjectMapping.Proofs.Text.Words
import ObjectMapping.Proofs.TypeRelation
import ObjectMapping.Rendering.Body
import ObjectMapping.Rendering.EnumFunction
import ObjectMapping.Rendering.Fault
import ObjectMapping.Rendering.Lexemes
import ObjectMapping.Rendering.Mapper
import ObjectMapping.Rendering.Value
import ObjectMapping.Report.Basic
import ObjectMapping.Report.Encode
import ObjectMapping.Report.Text
import ObjectMapping.Request
import ObjectMapping.Resolution.Constructors
import ObjectMapping.Resolution.Convert
import ObjectMapping.Resolution.Members
import ObjectMapping.Resolution.Resolve
import ObjectMapping.Scalar
import ObjectMapping.Schema.Basic
import ObjectMapping.Schema.Build
import ObjectMapping.Schema.Draft
import ObjectMapping.Schema.Member
import ObjectMapping.Source.Ahead
import ObjectMapping.Source.Comment
import ObjectMapping.Source.File
import ObjectMapping.Source.Grammar.Attribute
import ObjectMapping.Source.Grammar.Basic
import ObjectMapping.Source.Grammar.Expression
import ObjectMapping.Source.Grammar.FieldName
import ObjectMapping.Source.Grammar.Generics
import ObjectMapping.Source.Grammar.Item
import ObjectMapping.Source.Grammar.Level
import ObjectMapping.Source.Grammar.Member
import ObjectMapping.Source.Grammar.Operator
import ObjectMapping.Source.Grammar.Path
import ObjectMapping.Source.Grammar.Pattern
import ObjectMapping.Source.Grammar.PlainPath
import ObjectMapping.Source.Grammar.Signature
import ObjectMapping.Source.Grammar.Statement
import ObjectMapping.Source.Grammar.Type
import ObjectMapping.Source.Literal
import ObjectMapping.Source.Quoted
import ObjectMapping.Source.Reader
import ObjectMapping.Source.Scan
import ObjectMapping.Source.Syntax
import ObjectMapping.Source.Token
import ObjectMapping.Text.CharClass
import ObjectMapping.Text.CharTable
import ObjectMapping.Text.CodeRange
import ObjectMapping.Text.LetterCase
import ObjectMapping.Text.Words
import ObjectMapping.TypeRef
import ObjectMapping.TypeRelation
