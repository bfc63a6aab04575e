import EventQuery.Proofs.Binding.Failure
import EventQuery.Proofs.Span.Statistics
import EventQuery.Proofs.Literal.Deltas
import EventQuery.Proofs.Literal.Machine
import EventQuery.Proofs.Pattern.Failure
import EventQuery.Proofs.Pattern.Faithful
import EventQuery.Proofs.Pattern.Folding
import EventQuery.Proofs.Pattern.Operators
import EventQuery.Proofs.Pattern.Policy
import EventQuery.Proofs.Pattern.ReadBack
import EventQuery.Proofs.Service.Calls
import EventQuery.Proofs.Service.Dialogue
import EventQuery.Proofs.Slice.Paging
import EventQuery.Proofs.Span.Session
import EventQuery.Proofs.Url.Deletion
import EventQuery.Proofs.Slice.Bounds
import EventQuery.Proofs.Shape.Building
import EventQuery.Proofs.Shape.Equality
import EventQuery.Proofs.Binding.EqualShapes
import EventQuery.Proofs.Shape.Documents
import EventQuery.Proofs.Span.Lengths
import EventQuery.Proofs.Span.Totals
import EventQuery.Proofs.Stream.Matching
import EventQuery.Proofs.Stream.FieldNames
import EventQuery.Proofs.Time.Order
