import RecordSearch.Command.Run
import RecordSearch.Config.Loading
import RecordSearch.Config.Template
import RecordSearch.Files.Program
import RecordSearch.Index.Tokens
import RecordSearch.Inflection
import RecordSearch.Json.Printer
import RecordSearch.Json.Reader
import RecordSearch.Main
import RecordSearch.Query.Compile
import RecordSearch.Registry.Resolution
import RecordSearch.Store
import RecordSearch.Text.Quoted
import RecordSearch.Toml.Reader
import RecordSearch.Proofs.Registry.Derivation
import RecordSearch.Proofs.Registry.Resolution
import RecordSearch.Proofs.Registry.SharedCatalog
import RecordSearch.Proofs.Registry.ExposedPaths
import RecordSearch.Proofs.Registry.Locality
import RecordSearch.Proofs.Index.RecordWalk
import RecordSearch.Proofs.Index.FieldIsolation
import RecordSearch.Proofs.Text.Lowering
import RecordSearch.Proofs.Index.TokenChars
import RecordSearch.Proofs.Index.NormalizedWords
import RecordSearch.Proofs.Query.Matching
import RecordSearch.Proofs.Query.Reading
import RecordSearch.Proofs.Store.TokenQueries
import RecordSearch.Proofs.Store.StoredText
import RecordSearch.Proofs.Query.Parts
import RecordSearch.Proofs.Store.Histories
import RecordSearch.Proofs.Store.Conjunction
import RecordSearch.Proofs.Store.LastWrites
import RecordSearch.Proofs.Query.Typing
import RecordSearch.Proofs.Store.Narrowing
import RecordSearch.Proofs.Query.Rendering
import RecordSearch.Proofs.Query.Phrases
import RecordSearch.Proofs.Text.AsciiCase
import RecordSearch.Proofs.Query.LetterCase
import RecordSearch.Proofs.Query.Notation
import RecordSearch.Proofs.Query.Patterns
import RecordSearch.Proofs.Query.Expressions
import RecordSearch.Proofs.Index.Expressions
import RecordSearch.Proofs.Query.FieldNames
import RecordSearch.Proofs.Command.Agreement
import RecordSearch.Proofs.Command.Indexing
import RecordSearch.Proofs.Json.Lexing
import RecordSearch.Proofs.Json.Shape
import RecordSearch.Proofs.Json.RoundTrip
import RecordSearch.Proofs.Command.Reindexing
import RecordSearch.Proofs.Inflection.Normalization
import RecordSearch.Proofs.Inflection.Bytes
