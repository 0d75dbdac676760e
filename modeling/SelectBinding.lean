import SelectBinding.Main
import SelectBinding.Proofs.Build.Sorting
import SelectBinding.Proofs.Query.Consistency
import SelectBinding.Proofs.Build.Rebuilt
import SelectBinding.Proofs.Build.Reread
import SelectBinding.Proofs.Sql.Beginnings
import SelectBinding.Proofs.Sql.Calls
import SelectBinding.Proofs.Sql.Clauses
import SelectBinding.Proofs.Sql.Statements
import SelectBinding.Proofs.Scope.Calling
import SelectBinding.Proofs.Text.Spelling
import SelectBinding.Proofs.Sql.Stripping
import SelectBinding.Proofs.Sql.Levels
import SelectBinding.Proofs.Text.Regrouping
import SelectBinding.Proofs.Text.Derivations
import SelectBinding.Proofs.Text.Queries
import SelectBinding.Proofs.Text.Filters
import SelectBinding.Proofs.Place.Building
import SelectBinding.Proofs.Place.Reports
import SelectBinding.Proofs.Text.Ordering
import SelectBinding.Proofs.Query.Presence
import SelectBinding.Proofs.Build.Removal
import SelectBinding.Proofs.Build.Internal
import SelectBinding.Proofs.Build.Positional
import SelectBinding.Proofs.Scope.Reordering
import SelectBinding.Proofs.Sql.Reserving
import SelectBinding.Proofs.Build.Casing
import SelectBinding.Proofs.Build.FirstFault
import SelectBinding.Proofs.Catalog.Contents
import SelectBinding.Proofs.Sql.Quoting
import SelectBinding.Proofs.Json.Rereading
import SelectBinding.Proofs.Report.Reloading
import SelectBinding.Proofs.Sql.Literals
import SelectBinding.Proofs.Query.Renumbering
import SelectBinding.Proofs.Query.Removal
import SelectBinding.Proofs.Query.Numbers
import SelectBinding.Proofs.Scope.Renaming
import SelectBinding.Proofs.Build.Renaming
import SelectBinding.Proofs.Scope.Owners
import SelectBinding.Proofs.Scope.Qualifiers
import SelectBinding.Proofs.Scope.Offences
import SelectBinding.Proofs.Build.Shapes
import SelectBinding.Proofs.Sql.Shapes
import SelectBinding.Proofs.Sql.Meaning
import SelectBinding.Proofs.Text.Readability
import SelectBinding.Proofs.Build.Asterisks
import SelectBinding.Proofs.Text.Calls
import SelectBinding.Proofs.Build.LeadingParts
import SelectBinding.Proofs.Catalog.Snapshots
import SelectBinding.Proofs.Build.PrimaryKey
import SelectBinding.Proofs.Place.Offsets
import SelectBinding.Proofs.Sql.Spending
import SelectBinding.Proofs.Sql.Criteria
import SelectBinding.Proofs.Place.Sortings
import SelectBinding.Proofs.Query.Generated
import SelectBinding.Proofs.Scope.KeyMap
import SelectBinding.Proofs.Place.Lists
import SelectBinding.Proofs.Place.Lines
import SelectBinding.Proofs.Query.Frames
