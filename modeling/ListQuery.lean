import ListQuery.Event
import ListQuery.Proofs.Binding
import ListQuery.Proofs.Document
import ListQuery.Proofs.Pagination
import ListQuery.Proofs.ParentScope
import ListQuery.Proofs.Shown
import ListQuery.Proofs.Tables
import ListQuery.Proofs.Tests
import ListQuery.Proofs.Address
import ListQuery.Proofs.Outcome
import ListQuery.Proofs.Tiling
import ListQuery.Proofs.Grammar
import ListQuery.Proofs.FirstMention
import ListQuery.Proofs.FirstUse
import ListQuery.Proofs.Precedence
import ListQuery.Proofs.Projection
import ListQuery.Proofs.Route
import ListQuery.Proofs.Growth
import ListQuery.Proofs.LoadTree
import ListQuery.Proofs.Interleaving
import ListQuery.Proofs.Paging
import ListQuery.Proofs.Entries
import ListQuery.Proofs.ReadBack
import ListQuery.Proofs.Stripping
import ListQuery.Proofs.ColumnLists
import ListQuery.Proofs.LeadingInteger
import ListQuery.Proofs.ValueLists
import ListQuery.Proofs.Traversal
import ListQuery.Proofs.History
import ListQuery.Proofs.Spelling
import ListQuery.Proofs.Integers
