import Phrasebook.Depth
import Phrasebook.Diagnostic.Basic
import Phrasebook.Diagnostic.Catalog
import Phrasebook.Diagnostic.Format
import Phrasebook.Duration
import Phrasebook.Expr.Basic
import Phrasebook.Expr.Lexer
import Phrasebook.Expr.Parser
import Phrasebook.Expr.Place
import Phrasebook.Expr.Reading
import Phrasebook.Expr.StringBody
import Phrasebook.Facade
import Phrasebook.Fault
import Phrasebook.Format.Printf
import Phrasebook.Format.Spec
import Phrasebook.Limits
import Phrasebook.Loading.Directory
import Phrasebook.Loading.File
import Phrasebook.Loading.Json
import Phrasebook.Loading.Yaml.Document
import Phrasebook.Loading.Yaml.Node
import Phrasebook.Loading.Yaml.Scalar
import Phrasebook.Loading.Yaml.Token
import Phrasebook.Locale.Tag
import Phrasebook.Method.Call
import Phrasebook.Method.Construct
import Phrasebook.Method.Container
import Phrasebook.Method.Dispatch
import Phrasebook.Method.Text
import Phrasebook.Number.Arithmetic
import Phrasebook.Number.Basic
import Phrasebook.Number.Binary
import Phrasebook.Number.Complex
import Phrasebook.Number.Decimal
import Phrasebook.Number.FloatText
import Phrasebook.Number.Places
import Phrasebook.OrderedMap
import Phrasebook.Plural.Engine
import Phrasebook.Plural.Rule
import Phrasebook.Proofs.Context.Default
import Phrasebook.Proofs.Context.Fallback
import Phrasebook.Proofs.Expr.Span
import Phrasebook.Proofs.Locale.NormalForm
import Phrasebook.Proofs.Nesting.Origin
import Phrasebook.Proofs.OrderedMap
import Phrasebook.Proofs.Plural.Engine
import Phrasebook.Proofs.Render.Data
import Phrasebook.Proofs.Render.Isolation
import Phrasebook.Proofs.Resource.Depth
import Phrasebook.Proofs.Resource.Joint
import Phrasebook.Proofs.Resource.Leaves
import Phrasebook.Proofs.Resource.Merge
import Phrasebook.Proofs.Resource.Visit
import Phrasebook.Proofs.Store.Coverage
import Phrasebook.Proofs.Store.Depth
import Phrasebook.Proofs.Store.Faults
import Phrasebook.Proofs.Store.History
import Phrasebook.Proofs.Store.KeyCache
import Phrasebook.Proofs.Store.Lookup
import Phrasebook.Proofs.Store.RoundTrip
import Phrasebook.Proofs.Store.Run
import Phrasebook.Proofs.Store.Together
import Phrasebook.Proofs.Template.Split
import Phrasebook.Proofs.Text.LowerCase
import Phrasebook.Render.Config
import Phrasebook.Render.Context
import Phrasebook.Render.Eval
import Phrasebook.Render.Invoke
import Phrasebook.Render.State
import Phrasebook.Resource.Compile
import Phrasebook.Resource.KeyCache
import Phrasebook.Resource.Store
import Phrasebook.Resource.Tree
import Phrasebook.Sorting.Merge
import Phrasebook.Sorting.Runs
import Phrasebook.Template.Compile
import Phrasebook.Template.Segment
import Phrasebook.Text.Basic
import Phrasebook.Text.Case
import Phrasebook.Text.CaseTable
import Phrasebook.Text.Charset
import Phrasebook.Text.Charset.Name
import Phrasebook.Text.Charset.Page
import Phrasebook.Text.Class
import Phrasebook.Text.ClassTable
import Phrasebook.Text.Compose
import Phrasebook.Text.Encoding
import Phrasebook.Text.Encoding.Domain
import Phrasebook.Text.Encoding.Escaped
import Phrasebook.Text.Encoding.Punycode
import Phrasebook.Text.Encoding.Seven
import Phrasebook.Text.Encoding.Treatment
import Phrasebook.Text.Encoding.Wide
import Phrasebook.Text.Fill
import Phrasebook.Text.FoldTable
import Phrasebook.Text.Quoted
import Phrasebook.Text.Search
import Phrasebook.Value.Attribute
import Phrasebook.Value.Basic
import Phrasebook.Value.Compare
import Phrasebook.Value.Datum
import Phrasebook.Value.Identity
import Phrasebook.Value.Operator
import Phrasebook.Value.Sequence
import Phrasebook.Value.Show
import Phrasebook.Proofs.Ordinary.Fault
import Phrasebook.Proofs.Ordinary.Value
import Phrasebook.Proofs.Evaluation.Faults
import Phrasebook.Proofs.Evaluation.Level
import Phrasebook.Proofs.Evaluation.Names
import Phrasebook.Proofs.Config.Override
import Phrasebook.Proofs.Plural.Warning
import Phrasebook.Proofs.Loading.Directory
import Phrasebook.Proofs.Format.Width
import Phrasebook.Proofs.Limits.Product
import Phrasebook.Proofs.Limits.Check
import Phrasebook.Proofs.Text.Length
import Phrasebook.Proofs.Limits.Growth
import Phrasebook.Proofs.Evaluation.Operand
import Phrasebook.Proofs.Evaluation.Order
import Phrasebook.Proofs.Evaluation.Unpacking
import Phrasebook.Proofs.Plural.Language
import Phrasebook.Proofs.Render.Segmentwise
import Phrasebook.Proofs.Resource.Overlay
import Phrasebook.Proofs.Template.Closing
import Phrasebook.Proofs.Plural.Category
import Phrasebook.Proofs.Number.Decimal
import Phrasebook.Proofs.Plural.Exact
import Phrasebook.Proofs.Plural.Selection
import Phrasebook.Proofs.Resource.Offence
import Phrasebook.Proofs.Resource.Document
import Phrasebook.Proofs.Evaluation.Height
import Phrasebook.Proofs.Binding.Call
import Phrasebook.Proofs.Context.Relocation
import Phrasebook.Proofs.Diagnostic.Sanitize
import Phrasebook.Proofs.Format.Spec
import Phrasebook.Proofs.Store.Reload
import Phrasebook.Proofs.Loading.Json
import Phrasebook.Proofs.Diagnostic.Fields
