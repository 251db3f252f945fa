import KeywordSearch.Config.File
import KeywordSearch.Json.Format
import KeywordSearch.Service.Call
import KeywordSearch.Proofs.Index.Holding
import KeywordSearch.Proofs.Index.Points
import KeywordSearch.Proofs.Index.Walk
import KeywordSearch.Proofs.Catalogue
import KeywordSearch.Proofs.Ranking
import KeywordSearch.Proofs.Service.History
import KeywordSearch.Proofs.Index.Mirror
import KeywordSearch.Proofs.Cache.Coherence
import KeywordSearch.Proofs.Cache.Slots
import KeywordSearch.Proofs.Service.Consistency
import KeywordSearch.Proofs.Service.Search
import KeywordSearch.Proofs.Service.Replies
import KeywordSearch.Proofs.Service.Atomicity
import KeywordSearch.Proofs.Service.Renumbering
import KeywordSearch.Proofs.Index.Edits
import KeywordSearch.Proofs.Index.DeadBranches
import KeywordSearch.Proofs.Engine.Upkeep
import KeywordSearch.Proofs.Service.Previews
import KeywordSearch.Proofs.Engine.Likeness
import KeywordSearch.Proofs.Service.Lockstep
import KeywordSearch.Proofs.Service.Updates
import KeywordSearch.Proofs.Engine.Replay
import KeywordSearch.Proofs.Decimal
import KeywordSearch.Proofs.Json.Reading
import KeywordSearch.Proofs.FileTree
import KeywordSearch.Proofs.Json.Records
import KeywordSearch.Proofs.Toml.PlainLines
import KeywordSearch.Proofs.Toml.Range
import KeywordSearch.Proofs.Config.RoundTrip
import KeywordSearch.Proofs.Service.Resolution
import KeywordSearch.Proofs.Service.Races
import KeywordSearch.Proofs.Service.StalePuts
import KeywordSearch.Proofs.Unicode.CodeSets
import KeywordSearch.Proofs.Unicode.Hangul
import KeywordSearch.Proofs.Unicode.Decomposition
import KeywordSearch.Proofs.Unicode.Composition
import KeywordSearch.Proofs.Unicode.Recomposition
import KeywordSearch.Proofs.Renormalizing
import KeywordSearch.Proofs.Index.Pruning
import KeywordSearch.Proofs.Service.Narrowing
import KeywordSearch.Proofs.Unicode.Words
import KeywordSearch.Proofs.Service.Queries
import KeywordSearch.Proofs.Unicode.Beginnings
import KeywordSearch.Proofs.Service.PlainWords
import KeywordSearch.Proofs.Unicode.Blank
import KeywordSearch.Proofs.Shape
import KeywordSearch.Proofs.Engine.Reversal
import KeywordSearch.Proofs.Service.Repair
import KeywordSearch.Proofs.Service.Frame
import KeywordSearch.Proofs.Service.OwnKeywords
import KeywordSearch.Proofs.Json.Canonical
import KeywordSearch.Proofs.Json.Slots
import KeywordSearch.Proofs.Json.Acceptance
import KeywordSearch.Proofs.Toml.Numerals
import KeywordSearch.Proofs.Toml.Lines
import KeywordSearch.Proofs.Config.Settings
import KeywordSearch.Proofs.Config.DefaultText
import KeywordSearch.Proofs.Config.FileCalls
import KeywordSearch.Proofs.Ranking.Uniqueness
import KeywordSearch.Proofs.Writes
import KeywordSearch.Proofs.Engine.Wildcards
import KeywordSearch.Proofs.Service.Upkeep
