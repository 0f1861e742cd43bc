import CodeSearch.Breakpoint
import CodeSearch.Breakpoint.Component
import CodeSearch.Breakpoint.Walk
import CodeSearch.Chunk
import CodeSearch.ChunkType
import CodeSearch.Chunking
import CodeSearch.Chunking.Pool
import CodeSearch.Classification
import CodeSearch.Cli.Arguments
import CodeSearch.Cli.Checkup
import CodeSearch.Cli.OutputFormat
import CodeSearch.Cli.Report
import CodeSearch.Cli.Run
import CodeSearch.Cli.Workspace
import CodeSearch.Clock
import CodeSearch.Decimal
import CodeSearch.DeclaredName
import CodeSearch.Digest
import CodeSearch.DocumentText
import CodeSearch.Embedding.BatchSize
import CodeSearch.Embedding.Generation
import CodeSearch.Embedding.Hosted
import CodeSearch.Embedding.Ollama
import CodeSearch.Embedding.Provider
import CodeSearch.Embedding.Service
import CodeSearch.Embedding.TokenBucket
import CodeSearch.Engine
import CodeSearch.Error
import CodeSearch.Files.Discovery
import CodeSearch.Files.Glob
import CodeSearch.Files.IgnoreRules
import CodeSearch.Files.Tree
import CodeSearch.Grammar.Access
import CodeSearch.Grammar.NodeTable
import CodeSearch.Grammar.Registry
import CodeSearch.Http.Exchange
import CodeSearch.Http.Status
import CodeSearch.Identifier
import CodeSearch.Json
import CodeSearch.Json.Reader
import CodeSearch.Json.Record
import CodeSearch.Json.Writer
import CodeSearch.Keyword.Index
import CodeSearch.Keyword.Query
import CodeSearch.Keyword.Token
import CodeSearch.Language
import CodeSearch.Main
import CodeSearch.Path
import CodeSearch.Pattern
import CodeSearch.Progress
import CodeSearch.Quantity
import CodeSearch.Rank
import CodeSearch.Settings
import CodeSearch.Sorting
import CodeSearch.Span
import CodeSearch.Store
import CodeSearch.Store.Row
import CodeSearch.Store.Search
import CodeSearch.Syntax.Tree
import CodeSearch.Text.Alphanumeric
import CodeSearch.Text.Blank
import CodeSearch.Text.LetterCase
import CodeSearch.Text.Line
import CodeSearch.Text.Toggle
import CodeSearch.Timestamp
import CodeSearch.Toml
import CodeSearch.Toml.Reader
import CodeSearch.Toml.Scalar
import CodeSearch.Total
import CodeSearch.Vector
import CodeSearch.Proofs.Grammar.Access
import CodeSearch.Proofs.Grammar.Registry
import CodeSearch.Proofs.Grammar.Epoch
import CodeSearch.Proofs.Chunking.Partition
import CodeSearch.Proofs.Chunking.Naming
import CodeSearch.Proofs.Chunking.Independence
import CodeSearch.Proofs.Store.Columns
import CodeSearch.Proofs.Store.Files
import CodeSearch.Proofs.Store.Writing
import CodeSearch.Proofs.Store.Representation
import CodeSearch.Proofs.Embedding.Stages
import CodeSearch.Proofs.Embedding.Accounting
import CodeSearch.Proofs.Embedding.Recording
import CodeSearch.Proofs.Embedding.Conservation
import CodeSearch.Proofs.Embedding.Sequential
import CodeSearch.Proofs.Engine.Storing
import CodeSearch.Proofs.Engine.Outcome
import CodeSearch.Proofs.Engine.History
import CodeSearch.Proofs.Engine.Atomicity
import CodeSearch.Proofs.Engine.Rebuild
import CodeSearch.Proofs.Engine.Operations
import CodeSearch.Proofs.Chunking.Pool
import CodeSearch.Proofs.Sorting
import CodeSearch.Proofs.Store.Replacement
import CodeSearch.Proofs.Quantity
import CodeSearch.Proofs.Store.Nearest
import CodeSearch.Proofs.Store.Keywords
import CodeSearch.Proofs.Store.Renumbering
import CodeSearch.Proofs.Engine.Summary
import CodeSearch.Proofs.Engine.Resumption
import CodeSearch.Proofs.Rank
import CodeSearch.Proofs.Rank.Fusion
import CodeSearch.Proofs.Rank.Rescoring
import CodeSearch.Proofs.Rank.Display
import CodeSearch.Proofs.Store.Hits
import CodeSearch.Proofs.Engine.Search
import CodeSearch.Proofs.Text.LetterCase
import CodeSearch.Proofs.Identifier
import CodeSearch.Proofs.Keyword.Expression
import CodeSearch.Proofs.Keyword.Token
import CodeSearch.Proofs.Store.Findable
import CodeSearch.Proofs.Engine.Identity
import CodeSearch.Proofs.Embedding.Agreement
import CodeSearch.Proofs.Chunking.Marking
import CodeSearch.Proofs.Chunking.Governing
import CodeSearch.Proofs.Chunking.Normalization
import CodeSearch.Proofs.Chunking.Merging
import CodeSearch.Proofs.Chunking.Packing
import CodeSearch.Proofs.Chunking.Opening
import CodeSearch.Proofs.Embedding.Retrying
import CodeSearch.Proofs.Embedding.Sizing
import CodeSearch.Proofs.Embedding.Reporting
import CodeSearch.Proofs.Chunking.Visiting
import CodeSearch.Proofs.Syntax.Rows
import CodeSearch.Proofs.Chunking.Scripts
import CodeSearch.Proofs.Embedding.TokenBucket
import CodeSearch.Proofs.Embedding.Budget
import CodeSearch.Proofs.Embedding.Waiting
import CodeSearch.Proofs.Identifier.Lossless
import CodeSearch.Proofs.Identifier.Spelling
import CodeSearch.Proofs.Identifier.Terms
import CodeSearch.Proofs.Text.Blank
import CodeSearch.Proofs.Embedding.Pairing
import CodeSearch.Proofs.Chunking.Attaching
import CodeSearch.Proofs.Text.Line
import CodeSearch.Proofs.Classification
import CodeSearch.Proofs.Files.Discovery
