import CsvSchema.Compilation
import CsvSchema.Run.Validation
import CsvSchema.Storage.Disk
import CsvSchema.Report.Json
import CsvSchema.Proofs.Outcome
import CsvSchema.Proofs.Reporting
import CsvSchema.Proofs.Independence.Columns
import CsvSchema.Proofs.WellFormed.Documents
import CsvSchema.Proofs.Memoization
import CsvSchema.Proofs.Integrity.Runs
import CsvSchema.Proofs.Independence.Rows
import CsvSchema.Proofs.Uniqueness
import CsvSchema.Proofs.Rendering.Equality
import CsvSchema.Proofs.Rendering.Determinacy
import CsvSchema.Proofs.Csv.EntryPoints
import CsvSchema.Proofs.Trivia
import CsvSchema.Proofs.Fields
import CsvSchema.Proofs.Headers
import CsvSchema.Proofs.Diagnostics.Nesting
import CsvSchema.Proofs.Severities.Reports
import CsvSchema.Proofs.Json.Trees
import CsvSchema.Proofs.Json.Reports
import CsvSchema.Proofs.Constancy
import CsvSchema.Proofs.Versions
import CsvSchema.Proofs.Notes.Lines
import CsvSchema.Proofs.Pattern.Anchoring
import CsvSchema.Proofs.Notes.Exactness
import CsvSchema.Proofs.Widening
import CsvSchema.Proofs.Storage.Spellings
import CsvSchema.Proofs.Storage.Trees
import CsvSchema.Proofs.Integrity.BaseFolders
import CsvSchema.Proofs.Calendar.Instants
import CsvSchema.Proofs.Calendar.Completions
import CsvSchema.Proofs.Alternatives
import CsvSchema.Proofs.Switches
import CsvSchema.Proofs.Decoding
import CsvSchema.Proofs.Report.Listing
