import AnnotatedSql.Comparison
import AnnotatedSql.Failure.Raised
import AnnotatedSql.Json.Reader
import AnnotatedSql.Loading.Files
import AnnotatedSql.Log.Journal
import AnnotatedSql.Operation.Call
import AnnotatedSql.Proofs.Compilation
import AnnotatedSql.Proofs.Compilation.CarriageReturns
import AnnotatedSql.Proofs.Compilation.Concatenation
import AnnotatedSql.Proofs.Compilation.FirstError
import AnnotatedSql.Proofs.Compilation.Skipping
import AnnotatedSql.Proofs.Compilation.Summary
import AnnotatedSql.Proofs.Document
import AnnotatedSql.Proofs.Engine.AtMost
import AnnotatedSql.Proofs.Engine.Cursor
import AnnotatedSql.Proofs.Engine.Opening
import AnnotatedSql.Proofs.Engine.Run
import AnnotatedSql.Proofs.Engine.Translation
import AnnotatedSql.Proofs.Entries
import AnnotatedSql.Proofs.Failure.Foreign
import AnnotatedSql.Proofs.Failure.Message
import AnnotatedSql.Proofs.Json.Encoder
import AnnotatedSql.Proofs.Json.Line
import AnnotatedSql.Proofs.Json.Number
import AnnotatedSql.Proofs.Json.RoundTrip
import AnnotatedSql.Proofs.Json.Text
import AnnotatedSql.Proofs.Loading.CarriageReturns
import AnnotatedSql.Proofs.Loading.FileTree
import AnnotatedSql.Proofs.Loading.Files
import AnnotatedSql.Proofs.Loading.Folder
import AnnotatedSql.Proofs.Loading.Listing
import AnnotatedSql.Proofs.Loading.Reading
import AnnotatedSql.Proofs.Loading.Reloading
import AnnotatedSql.Proofs.Loading.Text
import AnnotatedSql.Proofs.Log.Logger
import AnnotatedSql.Proofs.Log.Structured
import AnnotatedSql.Proofs.Operation.Arguments
import AnnotatedSql.Proofs.Operation.Attempt
import AnnotatedSql.Proofs.Operation.Basic
import AnnotatedSql.Proofs.Operation.Call
import AnnotatedSql.Proofs.Operation.Checking
import AnnotatedSql.Proofs.Operation.Cursor
import AnnotatedSql.Proofs.Operation.Delivery
import AnnotatedSql.Proofs.Operation.Signature
import AnnotatedSql.Proofs.Operation.Translation
import AnnotatedSql.Proofs.Operation.Uniform
import AnnotatedSql.Proofs.Outcome
import AnnotatedSql.Proofs.Query.Agreement
import AnnotatedSql.Proofs.Query.Dynamic
import AnnotatedSql.Proofs.Query.Filling
import AnnotatedSql.Proofs.Query.Numbering
import AnnotatedSql.Proofs.Query.ReadBack
import AnnotatedSql.Proofs.Query.Static
import AnnotatedSql.Proofs.Registry.Changes
import AnnotatedSql.Proofs.Registry.Listing
import AnnotatedSql.Proofs.Registry.Loading
import AnnotatedSql.Proofs.Registry.Places
import AnnotatedSql.Proofs.Settings
import AnnotatedSql.Proofs.Statement.Account
import AnnotatedSql.Proofs.Statement.Canonical
import AnnotatedSql.Proofs.Statement.Deciding
import AnnotatedSql.Proofs.Statement.Declaration
import AnnotatedSql.Proofs.Statement.Draft
import AnnotatedSql.Proofs.Statement.Grammar
import AnnotatedSql.Proofs.Statement.Partition
import AnnotatedSql.Proofs.Statement.Reference
import AnnotatedSql.Proofs.Statement.Region
import AnnotatedSql.Proofs.Statement.ReturnedBody
import AnnotatedSql.Proofs.Statement.ReturnedHeader
import AnnotatedSql.Proofs.Statement.Rule
import AnnotatedSql.Proofs.Statement.Sections
import AnnotatedSql.Proofs.Statement.Shifting
import AnnotatedSql.Proofs.Statement.Spelling
import AnnotatedSql.Proofs.Statement.Token
import AnnotatedSql.Proofs.Text.CarriageReturns
import AnnotatedSql.Proofs.Text.Encoding
import AnnotatedSql.Proofs.Text.Lines
