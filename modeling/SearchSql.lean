import SearchSql.Main
import SearchSql.Mapping.Cache
import SearchSql.Mapping.Source
import SearchSql.Sink.Channel
import SearchSql.Sink.Writer
import SearchSql.Proofs.Geometry.Readability
import SearchSql.Proofs.Geometry.WellFormed
import SearchSql.Proofs.Mapping.Descent
import SearchSql.Proofs.Mapping.Memory
import SearchSql.Proofs.Session.Budget
import SearchSql.Proofs.Session.Continuation
import SearchSql.Proofs.Session.Cursor
import SearchSql.Proofs.Session.Limited
import SearchSql.Proofs.Session.Output
import SearchSql.Proofs.Session.Pagination
import SearchSql.Proofs.Output.LoneChunks
import SearchSql.Proofs.Query.Dropped
import SearchSql.Proofs.Query.Grouping
import SearchSql.Proofs.Query.NativeSort
import SearchSql.Proofs.Query.SelectList
import SearchSql.Proofs.Query.SelectedCalls
import SearchSql.Proofs.Query.Settled
import SearchSql.Proofs.Row.GroupedLabel
import SearchSql.Proofs.Row.InPlace
import SearchSql.Proofs.Row.NormalNames
import SearchSql.Proofs.Row.PlainLabels
import SearchSql.Proofs.Row.Repetition
import SearchSql.Proofs.Row.SelectedCells
