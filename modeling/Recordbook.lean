import Recordbook.Calendar
import Recordbook.Envelope
import Recordbook.Failure
import Recordbook.Fault
import Recordbook.Identifier
import Recordbook.Number.Binary64
import Recordbook.Number.Decimal
import Recordbook.Number.DecimalArithmetic
import Recordbook.Number.Rounding
import Recordbook.Number.Shortest
import Recordbook.Page
import Recordbook.Proofs.AddressedRow
import Recordbook.Proofs.Answered
import Recordbook.Proofs.Call
import Recordbook.Proofs.CellOrder
import Recordbook.Proofs.Cells
import Recordbook.Proofs.Changes
import Recordbook.Proofs.CompanyPages
import Recordbook.Proofs.ConditionMeaning
import Recordbook.Proofs.Constraints
import Recordbook.Proofs.Creation
import Recordbook.Proofs.Criteria
import Recordbook.Proofs.Deletion
import Recordbook.Proofs.FailureLog
import Recordbook.Proofs.FilterAnswer
import Recordbook.Proofs.FilterMeaning
import Recordbook.Proofs.IncludeComparison
import Recordbook.Proofs.IncludeCopy
import Recordbook.Proofs.IncludeCycles
import Recordbook.Proofs.IncludeDepth
import Recordbook.Proofs.IncludeForms
import Recordbook.Proofs.IncludeKinds
import Recordbook.Proofs.IncludeOutcome
import Recordbook.Proofs.IncludePlan
import Recordbook.Proofs.IncludeReferences
import Recordbook.Proofs.IncludeSteps
import Recordbook.Proofs.IncludedRecords
import Recordbook.Proofs.Invariant
import Recordbook.Proofs.Keyed
import Recordbook.Proofs.ListOperators
import Recordbook.Proofs.Mapping
import Recordbook.Proofs.Masking
import Recordbook.Proofs.MembershipFilter
import Recordbook.Proofs.OperatorObjects
import Recordbook.Proofs.OrderedAnswer
import Recordbook.Proofs.OtherRelations
import Recordbook.Proofs.PageBounds
import Recordbook.Proofs.PageCount
import Recordbook.Proofs.Pages
import Recordbook.Proofs.QueryFailure
import Recordbook.Proofs.ReadAgreement
import Recordbook.Proofs.Reading
import Recordbook.Proofs.Replies
import Recordbook.Proofs.ReservedNames
import Recordbook.Proofs.ReservedOperators
import Recordbook.Proofs.Resolution
import Recordbook.Proofs.Scope
import Recordbook.Proofs.Secrecy
import Recordbook.Proofs.Selection
import Recordbook.Proofs.SortedRows
import Recordbook.Proofs.StoredValues
import Recordbook.Proofs.UnitOfWork
import Recordbook.Proofs.Updates
import Recordbook.Proofs.Upserts
import Recordbook.Proofs.Writable
import Recordbook.Query.Access
import Recordbook.Query.Compiled
import Recordbook.Query.Criterion
import Recordbook.Query.Filter
import Recordbook.Query.Include
import Recordbook.Query.Order
import Recordbook.Query.Select
import Recordbook.Redaction
import Recordbook.Repository.Basic
import Recordbook.Repository.Read
import Recordbook.Repository.Unit
import Recordbook.Repository.Write
import Recordbook.Sample
import Recordbook.Schema
import Recordbook.Schema.Attribute
import Recordbook.Schema.Description
import Recordbook.Schema.Lookup
import Recordbook.Script
import Recordbook.Session
import Recordbook.Settings
import Recordbook.Store.Binding
import Recordbook.Store.Cell
import Recordbook.Store.Constraint
import Recordbook.Store.Draft
import Recordbook.Store.Loading
import Recordbook.Store.Table
import Recordbook.Text.Case
import Recordbook.Text.CaseTable
import Recordbook.Text.Digit
import Recordbook.Text.Octets
import Recordbook.Text.Printable
import Recordbook.Text.Quoted
import Recordbook.Text.Whole
import Recordbook.Uuid
import Recordbook.Validation
import Recordbook.Value.Arithmetic
import Recordbook.Value.Basic
import Recordbook.Value.Equality
import Recordbook.Value.Mapping
import Recordbook.Value.Payload
import Recordbook.Value.Reference
import Recordbook.Value.Shape
import Recordbook.Value.Text
