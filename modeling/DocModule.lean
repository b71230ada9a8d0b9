import DocModule.Block.Basic
import DocModule.Block.Encode
import DocModule.Block.Wire
import DocModule.Body
import DocModule.Component
import DocModule.Decimal.Binary64
import DocModule.Decimal.Layout
import DocModule.Decimal.Shortest
import DocModule.Document
import DocModule.Error
import DocModule.Export
import DocModule.Export.Lemmas
import DocModule.Frontmatter
import DocModule.Json.Basic
import DocModule.Json.Number
import DocModule.Json.Reader
import DocModule.Json.Skim
import DocModule.Json.Writer
import DocModule.Log
import DocModule.Options
import DocModule.Preamble
import DocModule.Proofs.Block.Decoding
import DocModule.Proofs.Block.RoundTrip
import DocModule.Proofs.Body.Code
import DocModule.Proofs.Document.Comments
import DocModule.Proofs.Document.Concatenation
import DocModule.Proofs.Document.Entries
import DocModule.Proofs.Document.LayoutProps
import DocModule.Proofs.Document.Options
import DocModule.Proofs.Document.Outcome
import DocModule.Proofs.Document.Precedence
import DocModule.Proofs.Document.Reference
import DocModule.Proofs.Document.Spacing
import DocModule.Proofs.Document.Streams
import DocModule.Proofs.Document.Trace
import DocModule.Proofs.Export.Expression
import DocModule.Proofs.Export.Grammar
import DocModule.Proofs.Export.Guidance
import DocModule.Proofs.Export.Rejection
import DocModule.Proofs.Export.Specifiers
import DocModule.Proofs.Frontmatter.Conversion
import DocModule.Proofs.Frontmatter.DocComment
import DocModule.Proofs.Json.Grammar
import DocModule.Proofs.Json.Lookup
import DocModule.Proofs.Json.RoundTrip
import DocModule.Proofs.Json.Skimming
import DocModule.Proofs.Options.Decoding
import DocModule.Proofs.Preamble.Invariant
import DocModule.Proofs.Preamble.Summary
import DocModule.Proofs.Run
import DocModule.Proofs.Text.Joined
import DocModule.Proofs.Text.Literal
import DocModule.Proofs.Text.Mark
import DocModule.Proofs.Text.Pieces
import DocModule.Proofs.Text.Spelling
import DocModule.Proofs.Text.Split
import DocModule.Proofs.Yaml.BlankText
import DocModule.Proofs.Yaml.Conversion
import DocModule.Props
import DocModule.Props.Lemmas
import DocModule.Text.Blank
import DocModule.Text.Joined
import DocModule.Text.Quoted
import DocModule.Text.Quoted.Lemmas
import DocModule.Text.Range
import DocModule.Text.Shown
import DocModule.Text.Word
import DocModule.Yaml.Document
import DocModule.Yaml.Event
import DocModule.Yaml.Glyph
import DocModule.Yaml.Token
import DocModule.Yaml.Token.Scalar
import DocModule.Yaml.Token.Scan
import DocModule.Yaml.Token.Tag
import DocModule.Yaml.Value
