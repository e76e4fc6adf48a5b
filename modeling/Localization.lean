import Localization.Text.Utf8
import Localization.Text.Quoted
import Localization.Text.Blank
import Localization.Text.Word
import Localization.Text.Case
import Localization.Text.Name
import Localization.Number.Shortest
import Localization.Json.Printer
import Localization.Json.Reader
import Localization.Digest.Sha1
import Localization.Digest.Md5
import Localization.Reference.Decode
import Localization.Escape
import Localization.Syntax.Tree
import Localization.Syntax.Lexeme
import Localization.Syntax.Reading
import Localization.Syntax.Parse
import Localization.Files
import Localization.Regex.Reader
import Localization.Regex.Matcher
import Localization.Filter
import Localization.Key.Registry
import Localization.Extraction.Scan
import Localization.Extraction.Wrap
import Localization.Catalog.Basic
import Localization.Catalog.Clean
import Localization.Catalog.Merge
import Localization.Catalog.Digest
import Localization.Catalog.Document
import Localization.Text.Lines
import Localization.Store.Operations
import Localization.Sync.Hashes
import Localization.Placeholder
import Localization.Provider.Chat
import Localization.Provider.Gemini
import Localization.Provider.DeepL
import Localization.Sync.Run
import Localization.Extraction.Folder
import Localization.Config.Load
import Localization.Provider.Choice
import Localization.Command.Run
import Localization.Main
import Localization.Proofs.Results
import Localization.Proofs.Entries
import Localization.Proofs.Text.Utf8
import Localization.Proofs.Text.Parts
import Localization.Proofs.Text.Order
import Localization.Proofs.Text.Encodable
import Localization.Proofs.Text.Words
import Localization.Proofs.Reference.Table
import Localization.Proofs.Reference.Decode
import Localization.Proofs.Path
import Localization.Proofs.Json.Reading
import Localization.Proofs.Json.Texts
import Localization.Proofs.Escape
import Localization.Proofs.Key.Registry
import Localization.Proofs.Source
import Localization.Proofs.Syntax.Visits
import Localization.Proofs.Catalog.Paths
import Localization.Proofs.Catalog.Clean
import Localization.Proofs.Catalog.Merge
import Localization.Proofs.Catalog.Preserving
import Localization.Proofs.Catalog.Cleaned
import Localization.Proofs.Extraction.Edits
import Localization.Proofs.Extraction.Spots
import Localization.Proofs.Extraction.Asked
import Localization.Proofs.Extraction.Wrap
import Localization.Proofs.Extraction.Replacements
import Localization.Proofs.Extraction.ReadBack
import Localization.Proofs.Extraction.Kept
import Localization.Proofs.Extraction.Fresh
import Localization.Proofs.Extraction.Again
import Localization.Proofs.Extraction.Keys
import Localization.Proofs.Extraction.FolderScan
import Localization.Proofs.Extraction.NewKeys
import Localization.Proofs.Extraction.Walk
import Localization.Proofs.Extraction.SourceFiles
import Localization.Proofs.Extraction.DryRun
import Localization.Proofs.Extraction.Stopped
import Localization.Proofs.Extraction.Marked
import Localization.Proofs.Extraction.ReadAlike
import Localization.Proofs.Extraction.Collapsed
import Localization.Proofs.Extraction.ImportPlace
import Localization.Proofs.Extraction.Visible
import Localization.Proofs.Sync.Selection
import Localization.Proofs.Sync.Settle
import Localization.Proofs.Sync.Dispatch
import Localization.Proofs.Sync.Incremental
import Localization.Proofs.Sync.Writes
import Localization.Proofs.Sync.Placeholders
import Localization.Proofs.Sync.Seeded
import Localization.Proofs.Sync.Concurrency
import Localization.Proofs.Sync.Resume
import Localization.Proofs.Sync.Cancelled
import Localization.Proofs.Files
import Localization.Proofs.Folders
import Localization.Proofs.Contents
import Localization.Proofs.Store.Writing
import Localization.Proofs.Store.Documents
import Localization.Proofs.Store.Written
import Localization.Proofs.Store.Map
import Localization.Proofs.Store.Merge
import Localization.Proofs.Store.Names
import Localization.Proofs.Store.Interleaving
import Localization.Proofs.Store.Listing
import Localization.Proofs.Store.Failing
import Localization.Proofs.Command.Translate
import Localization.Proofs.Command.MergeKeys
import Localization.Proofs.Command.ScannedKeys
import Localization.Proofs.Config.Usable
import Localization.Proofs.Config.Search
import Localization.Proofs.Config.ReadScript
import Localization.Proofs.Command.InsertedName
import Localization.Proofs.Key.Requests
import Localization.Proofs.Escape.Quoted
import Localization.Proofs.Escape.StringValue
import Localization.Proofs.Regex.Matcher
import Localization.Proofs.Filter.Rules
import Localization.Proofs.Filter.Expressions
import Localization.Proofs.Text.Classes
import Localization.Proofs.Text.Case
import Localization.Proofs.Provider.DeepL
import Localization.Proofs.Provider.Reply
import Localization.Proofs.Extraction.Position
import Localization.Proofs.Extraction.EditOrder
import Localization.Proofs.Source.Lines
import Localization.Proofs.Extraction.Locations
import Localization.Proofs.Command.Stats
import Localization.Proofs.Command.SetUp
import Localization.Proofs.Command.Targets
import Localization.Proofs.Json.Strings
import Localization.Proofs.Json.Numbers
import Localization.Proofs.Json.Grammar
import Localization.Proofs.Json.Documents
import Localization.Proofs.Store.Loading
import Localization.Proofs.Catalog.Order
import Localization.Proofs.Catalog.Access
import Localization.Proofs.Digest
import Localization.Proofs.Key.Slug
