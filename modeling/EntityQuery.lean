import EntityQuery.Batch.Request
import EntityQuery.Batch.Response
import EntityQuery.Body.Basic
import EntityQuery.Body.Rows
import EntityQuery.Calendar.Date
import EntityQuery.Calendar.Iso
import EntityQuery.Codec.Basic
import EntityQuery.Codec.Conversion
import EntityQuery.Codec.Hint
import EntityQuery.Codec.Moment
import EntityQuery.Codec.Typed
import EntityQuery.CommandLine
import EntityQuery.Data.Container
import EntityQuery.Data.Json
import EntityQuery.Data.Path
import EntityQuery.Data.Value
import EntityQuery.Dialect.Basic
import EntityQuery.Dialect.Paging
import EntityQuery.Entity.Basic
import EntityQuery.Entity.DataType
import EntityQuery.Entity.Options
import EntityQuery.Error
import EntityQuery.Execution.Introspection
import EntityQuery.Execution.Read
import EntityQuery.Execution.Write
import EntityQuery.Filter.Basic
import EntityQuery.Filter.Evaluation
import EntityQuery.Gateway.Basic
import EntityQuery.Gateway.Check
import EntityQuery.Gateway.Form
import EntityQuery.Graphql.Document
import EntityQuery.Graphql.Schema
import EntityQuery.Graphql.Selection
import EntityQuery.Html.Address
import EntityQuery.Html.Cache
import EntityQuery.Html.NamedCharacter
import EntityQuery.Html.Page
import EntityQuery.Html.Reference
import EntityQuery.Html.Selector.Basic
import EntityQuery.Html.Selector.Reader
import EntityQuery.Html.Selector.Selection
import EntityQuery.Html.Selector.Token
import EntityQuery.Html.Site
import EntityQuery.Html.Structure
import EntityQuery.Html.Table
import EntityQuery.Html.Token
import EntityQuery.Html.Written
import EntityQuery.Main
import EntityQuery.Markup.Node
import EntityQuery.Number.Binary64
import EntityQuery.Number.Decimal
import EntityQuery.Number.FloatText
import EntityQuery.Number.Integer
import EntityQuery.Number.Shortest
import EntityQuery.Pattern.Basic
import EntityQuery.Pattern.Reader
import EntityQuery.Pattern.Replace
import EntityQuery.Plan.Basic
import EntityQuery.Plan.Endpoint
import EntityQuery.Plan.Read
import EntityQuery.Proofs.AnswerDocument
import EntityQuery.Proofs.AnswerReading
import EntityQuery.Proofs.AnswerRoundTrip
import EntityQuery.Proofs.ArgumentConditions
import EntityQuery.Proofs.BareToken
import EntityQuery.Proofs.BatchBody
import EntityQuery.Proofs.BatchOutcome
import EntityQuery.Proofs.BatchTarget
import EntityQuery.Proofs.BodyText
import EntityQuery.Proofs.ClockLiteral
import EntityQuery.Proofs.ClockReading
import EntityQuery.Proofs.ColumnOrder
import EntityQuery.Proofs.CommentedText
import EntityQuery.Proofs.ConditionObjects
import EntityQuery.Proofs.ConsumedConditions
import EntityQuery.Proofs.CountRequest
import EntityQuery.Proofs.CreatedItems
import EntityQuery.Proofs.DayCount
import EntityQuery.Proofs.Deletion
import EntityQuery.Proofs.DocumentLiteral
import EntityQuery.Proofs.ElementRow
import EntityQuery.Proofs.EndpointValue
import EntityQuery.Proofs.Exchange
import EntityQuery.Proofs.ExpressionMeaning
import EntityQuery.Proofs.ExpressionReading
import EntityQuery.Proofs.ExpressionTrace
import EntityQuery.Proofs.ExtraRow
import EntityQuery.Proofs.FilterSplit
import EntityQuery.Proofs.ForcedFilters
import EntityQuery.Proofs.Framing
import EntityQuery.Proofs.InstantAgreement
import EntityQuery.Proofs.IntegerReading
import EntityQuery.Proofs.ItemAddress
import EntityQuery.Proofs.ItemTable
import EntityQuery.Proofs.KeptLocally
import EntityQuery.Proofs.LegalLiteral
import EntityQuery.Proofs.Likeness
import EntityQuery.Proofs.LineEnds
import EntityQuery.Proofs.LiteralConfinement
import EntityQuery.Proofs.LiteralReading
import EntityQuery.Proofs.LiteralRoundTrip
import EntityQuery.Proofs.MomentReading
import EntityQuery.Proofs.MutationTarget
import EntityQuery.Proofs.NestedValues
import EntityQuery.Proofs.NumberReading
import EntityQuery.Proofs.NumberText
import EntityQuery.Proofs.Numeral
import EntityQuery.Proofs.Outcome
import EntityQuery.Proofs.OwnLiteral
import EntityQuery.Proofs.PageBound
import EntityQuery.Proofs.PageColumns
import EntityQuery.Proofs.PageCount
import EntityQuery.Proofs.PageWalk
import EntityQuery.Proofs.PartHead
import EntityQuery.Proofs.PathEscapes
import EntityQuery.Proofs.PercentDecoding
import EntityQuery.Proofs.PlaceholderFilling
import EntityQuery.Proofs.PlaceholderScan
import EntityQuery.Proofs.PlainRead
import EntityQuery.Proofs.Projection
import EntityQuery.Proofs.QueryRoundTrip
import EntityQuery.Proofs.ReadBack
import EntityQuery.Proofs.RecentTexts
import EntityQuery.Proofs.RefusedOperator
import EntityQuery.Proofs.RemotePage
import EntityQuery.Proofs.RenderedConditions
import EntityQuery.Proofs.RequestLog
import EntityQuery.Proofs.Rounding
import EntityQuery.Proofs.RowCount
import EntityQuery.Proofs.RowEntries
import EntityQuery.Proofs.RowOrder
import EntityQuery.Proofs.Selection
import EntityQuery.Proofs.SentConjunction
import EntityQuery.Proofs.SentOrder
import EntityQuery.Proofs.Separation
import EntityQuery.Proofs.SilentConditions
import EntityQuery.Proofs.SilentExpression
import EntityQuery.Proofs.SmallLetters
import EntityQuery.Proofs.SortedRows
import EntityQuery.Proofs.StableSort
import EntityQuery.Proofs.SteadyService
import EntityQuery.Proofs.StrayCounter
import EntityQuery.Proofs.TableQuery
import EntityQuery.Proofs.TextLikeness
import EntityQuery.Proofs.TickRoundTrip
import EntityQuery.Proofs.Trichotomy
import EntityQuery.Proofs.UnbrokenText
import EntityQuery.Proofs.UncheckedRange
import EntityQuery.Proofs.UniversalSeconds
import EntityQuery.Proofs.UnreadableText
import EntityQuery.Proofs.UpdateAddress
import EntityQuery.Proofs.UrlTarget
import EntityQuery.Proofs.WrappedValue
import EntityQuery.Proofs.WriteAddress
import EntityQuery.Proofs.WriteBody
import EntityQuery.Proofs.WriteToken
import EntityQuery.Query
import EntityQuery.Remote.Expression
import EntityQuery.Remote.FilterStyle
import EntityQuery.Remote.Parameters
import EntityQuery.Request
import EntityQuery.Response
import EntityQuery.Sorter
import EntityQuery.Text.Basic
import EntityQuery.Text.Casing
import EntityQuery.Text.Digit
import EntityQuery.Text.Encoding
import EntityQuery.Text.Placeholder
import EntityQuery.Text.Quoted
import EntityQuery.Text.Word
import EntityQuery.Transport.Connection
import EntityQuery.Transport.Session
import EntityQuery.Url.Percent
import EntityQuery.Url.Query
import EntityQuery.Url.Split
import EntityQuery.Write
import EntityQuery.Xml.Basic
import EntityQuery.Xml.Document
import EntityQuery.Xml.DocumentType
import EntityQuery.Xml.Token
