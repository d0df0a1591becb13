import Sieve.Command.Action
import Sieve.Command.Failure
import Sieve.Command.Flag
import Sieve.Command.Help
import Sieve.Command.Invocation
import Sieve.Command.Options
import Sieve.Command.Run
import Sieve.Dict
import Sieve.Entity
import Sieve.Entity.Resolve
import Sieve.File
import Sieve.Json
import Sieve.Json.Numeral
import Sieve.Json.Printer
import Sieve.Json.Reader
import Sieve.Main
import Sieve.Matching
import Sieve.Number.Binary64
import Sieve.Number.Layout
import Sieve.Number.Reader
import Sieve.Number.Rounding
import Sieve.Number.Saturating
import Sieve.Number.Scaling
import Sieve.Number.Shortest
import Sieve.Operator
import Sieve.Predicate
import Sieve.Predicate.Error
import Sieve.Predicate.Expression
import Sieve.Predicate.Input
import Sieve.Predicate.Printer
import Sieve.Predicate.Wire
import Sieve.Settings
import Sieve.Settings.Catalog
import Sieve.Settings.Decode
import Sieve.Settings.Error
import Sieve.Settings.Layer
import Sieve.Settings.Source
import Sieve.Sql.Argument
import Sieve.Sql.Catalog
import Sieve.Sql.Compile
import Sieve.Sql.Expr
import Sieve.Sql.Quote
import Sieve.Sql.Statement
import Sieve.Sql.Token
import Sieve.Store
import Sieve.Store.Connection
import Sieve.Store.Error
import Sieve.Store.Location
import Sieve.Store.Mapper
import Sieve.Store.Operation
import Sieve.Store.Page
import Sieve.Store.Sites
import Sieve.Text.Ascii
import Sieve.Text.Blank
import Sieve.Text.CaseTable
import Sieve.Text.Lower
import Sieve.Text.Search
import Sieve.Toml
import Sieve.Toml.Moment
import Sieve.Toml.Reader
import Sieve.Toml.Table
import Sieve.Url
import Sieve.Url.Address
import Sieve.Url.Direction
import Sieve.Url.DirectionTable
import Sieve.Url.Domain
import Sieve.Url.DomainTable
import Sieve.Url.Host
import Sieve.Url.Joining
import Sieve.Url.JoiningTable
import Sieve.Url.Percent
import Sieve.Url.Punycode
import Sieve.Value
import Sieve.Value.Order
import Sieve.Proofs.Number.Rounding
import Sieve.Proofs.Number.Decimal
import Sieve.Proofs.Number.Shortest
import Sieve.Proofs.Number.Text
import Sieve.Proofs.Sql.Datum
import Sieve.Proofs.Sql.Evaluation
import Sieve.Proofs.Json.Path
import Sieve.Proofs.Sql.Accessor
import Sieve.Proofs.Sql.DocumentTest
import Sieve.Proofs.Sql.DocumentLeaf
import Sieve.Proofs.Number.Characters
import Sieve.Proofs.Predicate.Reading
import Sieve.Proofs.Predicate.Operands
import Sieve.Proofs.Predicate.Collapse
import Sieve.Proofs.Predicate.Grammar
import Sieve.Proofs.Predicate.RoundTrip
import Sieve.Proofs.Sql.Lexer
import Sieve.Proofs.Sql.ExprTokens
import Sieve.Proofs.Sql.Numbering
import Sieve.Proofs.Sql.Grouping
import Sieve.Proofs.Sql.Outline
import Sieve.Proofs.Sql.Formula
import Sieve.Proofs.Sql.Structure
import Sieve.Proofs.Sql.Names
import Sieve.Proofs.Sql.Opacity
import Sieve.Proofs.Sql.Renaming
import Sieve.Proofs.Predicate.Derivation
import Sieve.Proofs.Predicate.Comparisons
import Sieve.Proofs.Predicate.Recognition
import Sieve.Proofs.Json.Literals
import Sieve.Proofs.Json.Documents
import Sieve.Proofs.Predicate.Wire
import Sieve.Proofs.Sql.DocumentEquality
import Sieve.Proofs.Matching.Judgement
import Sieve.Proofs.Matching.Leaves
import Sieve.Proofs.Predicate.Draft
import Sieve.Proofs.Sql.Staging
import Sieve.Proofs.Store.Rows
import Sieve.Proofs.Store.Calls
import Sieve.Proofs.Store.Interleaving
import Sieve.Proofs.Store.Versions
import Sieve.Proofs.Predicate.Transparency
import Sieve.Proofs.Sql.ColumnLeaf
import Sieve.Proofs.Store.Queries
import Sieve.Proofs.Store.Paging
import Sieve.Proofs.Sql.Harmless
import Sieve.Proofs.Sql.Like
import Sieve.Proofs.Sql.Safety
import Sieve.Proofs.Sql.ContainerEnd
import Sieve.Proofs.Sql.StatementTokens
import Sieve.Proofs.Store.Tasks
import Sieve.Proofs.Store.Requests
import Sieve.Proofs.Store.Failures
import Sieve.Proofs.Predicate.Misreading
import Sieve.Proofs.Settings.Overlay
import Sieve.Proofs.Settings.Loading
import Sieve.Proofs.Sql.TextualLeaf
import Sieve.Proofs.Store.Writing
import Sieve.Proofs.Predicate.FirstFault
import Sieve.Proofs.Text.Lower
import Sieve.Proofs.Json.LowerKeys
import Sieve.Proofs.Sql.StoredPaths
import Sieve.Proofs.Matching.Consistency
import Sieve.Proofs.Value.Integers
import Sieve.Proofs.Sql.IntegerLeaf
import Sieve.Proofs.Predicate.Detection
import Sieve.Proofs.Predicate.Settled
import Sieve.Proofs.Text.LetterCase
import Sieve.Proofs.Predicate.LetterCase
import Sieve.Proofs.Text.Bytes
import Sieve.Proofs.Sql.TextOrder
import Sieve.Proofs.Settings.Spellings
import Sieve.Proofs.Sql.ReservedWords
import Sieve.Proofs.Json.NumberLiterals
import Sieve.Proofs.Predicate.NumberLiterals
import Sieve.Proofs.Predicate.Formats
