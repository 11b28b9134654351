import TextTables.Channel.Service
import TextTables.Invocation.Execution
import TextTables.Main
import TextTables.Proofs.Session.Atomicity
import TextTables.Store.Catalog
import TextTables.Proofs.Dictionary
import TextTables.Proofs.Number.Whole
import TextTables.Proofs.Table.Encoding
import TextTables.Proofs.Token.Lexed
import TextTables.Proofs.Token.Literals
import TextTables.Proofs.Statement.Scanning
import TextTables.Proofs.Statement.Admissible
import TextTables.Proofs.Ledger
import TextTables.Proofs.Ledger.WellFormed
import TextTables.Proofs.Ledger.Simulation
import TextTables.Proofs.Ledger.Transcript
import TextTables.Proofs.Session.WellFormed
import TextTables.Proofs.Text.Lines
import TextTables.Proofs.Files.Walk
import TextTables.Proofs.Store.Directory
import TextTables.Proofs.Table.Damage
import TextTables.Proofs.Session.Files
import TextTables.Proofs.Channel.Lines
import TextTables.Proofs.Statement.Spelling
import TextTables.Proofs.Condition.Agreement
import TextTables.Proofs.Statement.Agreement
import TextTables.Proofs.Fault
import TextTables.Proofs.Text.Cut
import TextTables.Proofs.Text.Utf8
import TextTables.Proofs.Channel.Framing
import TextTables.Proofs.Store.Calls
import TextTables.Proofs.Session.Isolation
import TextTables.Proofs.Session.Selection
import TextTables.Proofs.Session.Case
import TextTables.Proofs.Session.Restart
import TextTables.Proofs.Channel.Serving
import TextTables.Proofs.Text.Trim
import TextTables.Proofs.Table.Assignment
import TextTables.Proofs.Token.Adjacent
import TextTables.Proofs.Condition.Equality
import TextTables.Proofs.Statement.Composed
import TextTables.Proofs.Table.Matching
import TextTables.Proofs.Session.Matching
import TextTables.Proofs.Condition.Grammar
import TextTables.Proofs.Condition.Rendering
import TextTables.Proofs.Condition.Tests
import TextTables.Proofs.Statement.Filtering
import TextTables.Proofs.Session.Rewriting
import TextTables.Proofs.Table.Columns
import TextTables.Proofs.Session.Altering
import TextTables.Proofs.Token.Fragments
import TextTables.Proofs.Comparison.Equivalence
import TextTables.Proofs.Comparison.Order
import TextTables.Proofs.Table.Addressing
import TextTables.Proofs.Session.Addressing
import TextTables.Proofs.Channel.LineEnds
import TextTables.Proofs.Text.Pieces
import TextTables.Proofs.Comparison.Containment
import TextTables.Proofs.Table.Joining
import TextTables.Proofs.Session.Joining
import TextTables.Proofs.Strict.Access
import TextTables.Proofs.Strict.Token
import TextTables.Proofs.Strict.Statement
import TextTables.Proofs.Strict.Table
import TextTables.Proofs.Strict.Session
import TextTables.Proofs.Table.Repeating
import TextTables.Proofs.Session.Repeating
import TextTables.Proofs.Table.Headings
import TextTables.Proofs.Session.Headings
import TextTables.Proofs.Table.Numbering
import TextTables.Proofs.Store.Lines
import TextTables.Proofs.Session.Numbering
import TextTables.Proofs.Files.Opening
import TextTables.Proofs.Invocation.Database
import TextTables.Proofs.Channel.Limit
import TextTables.Proofs.Table.RoundTrip
import TextTables.Proofs.Strict.Routine
import TextTables.Proofs.Store.Entries
import TextTables.Proofs.Session.Listing
