import LibraryDetection.ClassDump.Class
import LibraryDetection.ClassDump.File
import LibraryDetection.ClassDump.Kind
import LibraryDetection.ClassDump.Reader
import LibraryDetection.ClassDump.Signature
import LibraryDetection.ClassDump.Statistics
import LibraryDetection.Collection.Bag
import LibraryDetection.Collection.Sorted
import LibraryDetection.Collection.Total
import LibraryDetection.CommandLine.ArgumentPath
import LibraryDetection.CommandLine.Command
import LibraryDetection.CommandLine.Completion
import LibraryDetection.CommandLine.Execution
import LibraryDetection.CommandLine.Option
import LibraryDetection.Digest.Md5
import LibraryDetection.Digest.Structural
import LibraryDetection.Fingerprint.Basic
import LibraryDetection.Fingerprint.File
import LibraryDetection.Fingerprint.Record
import LibraryDetection.Fingerprint.Restore
import LibraryDetection.HashTree.Build
import LibraryDetection.HashTree.Node
import LibraryDetection.Json.Display
import LibraryDetection.Json.Reader
import LibraryDetection.Json.Value
import LibraryDetection.Json.Writer
import LibraryDetection.Library.Date
import LibraryDetection.Library.Description
import LibraryDetection.Library.Metadata
import LibraryDetection.Library.ReleaseDate
import LibraryDetection.Log.Entry
import LibraryDetection.Log.Logged
import LibraryDetection.Main
import LibraryDetection.Matching.Alignment
import LibraryDetection.Matching.Evidence
import LibraryDetection.Matching.Index
import LibraryDetection.Matching.Ranking
import LibraryDetection.Matching.Settings
import LibraryDetection.Matching.Verdict
import LibraryDetection.Number.Binary64
import LibraryDetection.Number.Layout
import LibraryDetection.Number.Literal
import LibraryDetection.Number.Shortest
import LibraryDetection.Package.Descriptor
import LibraryDetection.Package.Path
import LibraryDetection.Package.Roots
import LibraryDetection.Package.Tree
import LibraryDetection.Proofs.ClassDump.File
import LibraryDetection.Proofs.ClassDump.Grammar
import LibraryDetection.Proofs.ClassDump.Masking
import LibraryDetection.Proofs.ClassDump.Order
import LibraryDetection.Proofs.ClassDump.Reader
import LibraryDetection.Proofs.ClassDump.Renaming
import LibraryDetection.Proofs.Collection.Bag
import LibraryDetection.Proofs.Collection.Pairs
import LibraryDetection.Proofs.Collection.Sorted
import LibraryDetection.Proofs.Collection.Total
import LibraryDetection.Proofs.Digest.Content
import LibraryDetection.Proofs.Digest.Structural
import LibraryDetection.Proofs.Fingerprint.Consistency
import LibraryDetection.Proofs.Fingerprint.Order
import LibraryDetection.Proofs.Fingerprint.Outcome
import LibraryDetection.Proofs.Fingerprint.Profile
import LibraryDetection.Proofs.Fingerprint.Record
import LibraryDetection.Proofs.Fingerprint.Restore
import LibraryDetection.Proofs.HashTree.Flat
import LibraryDetection.Proofs.HashTree.Growth
import LibraryDetection.Proofs.HashTree.Hashing
import LibraryDetection.Proofs.HashTree.Invariance
import LibraryDetection.Proofs.HashTree.Isomorphism
import LibraryDetection.Proofs.HashTree.Lookup
import LibraryDetection.Proofs.HashTree.Places
import LibraryDetection.Proofs.HashTree.Renaming
import LibraryDetection.Proofs.HashTree.Roots
import LibraryDetection.Proofs.HashTree.Splitting
import LibraryDetection.Proofs.Json.Extent
import LibraryDetection.Proofs.Json.Numeral
import LibraryDetection.Proofs.Json.Reread
import LibraryDetection.Proofs.Json.Text
import LibraryDetection.Proofs.Json.Writer
import LibraryDetection.Proofs.Library.Description
import LibraryDetection.Proofs.Library.Metadata
import LibraryDetection.Proofs.Library.ReleaseDate
import LibraryDetection.Proofs.Matching.Agreement
import LibraryDetection.Proofs.Matching.Alignment
import LibraryDetection.Proofs.Matching.Anchor
import LibraryDetection.Proofs.Matching.Degradation
import LibraryDetection.Proofs.Matching.Embedding
import LibraryDetection.Proofs.Matching.Evidence
import LibraryDetection.Proofs.Matching.Exact
import LibraryDetection.Proofs.Matching.Index
import LibraryDetection.Proofs.Matching.Order
import LibraryDetection.Proofs.Matching.Overlap
import LibraryDetection.Proofs.Matching.Pairing
import LibraryDetection.Proofs.Matching.Presence
import LibraryDetection.Proofs.Matching.Priority
import LibraryDetection.Proofs.Matching.Ranking
import LibraryDetection.Proofs.Matching.Renaming
import LibraryDetection.Proofs.Matching.Reported
import LibraryDetection.Proofs.Matching.Shortcuts
import LibraryDetection.Proofs.Matching.Tables
import LibraryDetection.Proofs.Matching.Threshold
import LibraryDetection.Proofs.Matching.Verdict
import LibraryDetection.Proofs.Number.Mixture
import LibraryDetection.Proofs.Number.Monotone
import LibraryDetection.Proofs.Number.Order
import LibraryDetection.Proofs.Number.Quotient
import LibraryDetection.Proofs.Number.Unsigned
import LibraryDetection.Proofs.Package.Calls
import LibraryDetection.Proofs.Package.Members
import LibraryDetection.Proofs.Package.Queries
import LibraryDetection.Proofs.Package.Renaming
import LibraryDetection.Proofs.Package.Tree
import LibraryDetection.Proofs.Package.Walk
import LibraryDetection.Proofs.Run.Batch
import LibraryDetection.Proofs.Run.Containment
import LibraryDetection.Proofs.Run.Corpus
import LibraryDetection.Proofs.Run.Detection
import LibraryDetection.Proofs.Run.Effects
import LibraryDetection.Proofs.Run.MatchIsolation
import LibraryDetection.Proofs.Run.Order
import LibraryDetection.Proofs.Run.Partition
import LibraryDetection.Proofs.Run.Pool
import LibraryDetection.Proofs.Run.ProfileIsolation
import LibraryDetection.Proofs.Run.Profiling
import LibraryDetection.Proofs.Run.RoundTrip
import LibraryDetection.Proofs.Run.Storage
import LibraryDetection.Proofs.Store.Contents
import LibraryDetection.Proofs.Store.FileEntry
import LibraryDetection.Proofs.Store.FilePath
import LibraryDetection.Proofs.Store.FileTree
import LibraryDetection.Proofs.Store.Layout
import LibraryDetection.Proofs.Store.Saving
import LibraryDetection.Proofs.Text.Fields
import LibraryDetection.Proofs.Text.Utf8
import LibraryDetection.Proofs.Validation.Checked
import LibraryDetection.Report.Match
import LibraryDetection.Report.Profile
import LibraryDetection.Report.Schema
import LibraryDetection.Run.Corpus
import LibraryDetection.Run.Failure
import LibraryDetection.Run.Matching
import LibraryDetection.Run.Pool
import LibraryDetection.Run.Profiling
import LibraryDetection.Store.FilePath
import LibraryDetection.Store.FileTree
import LibraryDetection.Text.Blank
import LibraryDetection.Text.CharSet
import LibraryDetection.Text.Digit
import LibraryDetection.Text.Fields
import LibraryDetection.Text.Hex
import LibraryDetection.Text.LowerCase
import LibraryDetection.Text.Newline
import LibraryDetection.Text.Printable
import LibraryDetection.Text.Quoted
import LibraryDetection.Text.Utf8
import LibraryDetection.Validation.Day
import LibraryDetection.Validation.Library
import LibraryDetection.Validation.Scalar
import LibraryDetection.Validation.Violation
import LibraryDetection.Xml.Declaration
import LibraryDetection.Xml.Doctype
import LibraryDetection.Xml.Document
import LibraryDetection.Xml.Entity
import LibraryDetection.Xml.Markup
import LibraryDetection.Xml.Name
import LibraryDetection.Xml.Namespace
import LibraryDetection.Xml.Tag
