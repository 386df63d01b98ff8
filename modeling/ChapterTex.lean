import ChapterTex.Main
import ChapterTex.Proofs.Book.Discovery
import ChapterTex.Proofs.Render.Rules
import ChapterTex.Proofs.Render.Walk
import ChapterTex.Render.Stream
import ChapterTex.Services
import ChapterTex.Token.Build
import ChapterTex.Proofs.Render.CrossReference
import ChapterTex.Proofs.Render.Modes
import ChapterTex.Proofs.Latex.Braces
import ChapterTex.Proofs.Latex.Plain
import ChapterTex.Proofs.Render.BraceDepth
import ChapterTex.Proofs.Record
import ChapterTex.Proofs.Token.FrontEnds
import ChapterTex.Proofs.Render.Epigraph
import ChapterTex.Proofs.Render.Anchor
import ChapterTex.Proofs.Render.Compose
import ChapterTex.Proofs.Render.NormalForm
import ChapterTex.Proofs.Render.Faults
import ChapterTex.Proofs.Book.FileOrder
import ChapterTex.Proofs.Render.Outline
import ChapterTex.Proofs.Render.ChapterOrder
import ChapterTex.Proofs.Book.Numbering
import ChapterTex.Proofs.Render.ChapterNumber
import ChapterTex.Proofs.Services.Resolution
import ChapterTex.Proofs.Services.History
import ChapterTex.Proofs.Services.Search
import ChapterTex.Proofs.Services.Sharing
import ChapterTex.Proofs.Token.Spelling
import ChapterTex.Proofs.Book.Listing
import ChapterTex.Proofs.Conversion.Dependence
import ChapterTex.Proofs.Latex.Decoding
import ChapterTex.Proofs.Token.HeadingCapitals
import ChapterTex.Proofs.CommandLine.Streams
import ChapterTex.Proofs.Text.Control
import ChapterTex.Proofs.Defect
import ChapterTex.Proofs.Render.Defects
import ChapterTex.Proofs.Token.Defects
import ChapterTex.Proofs.Render.Verbatim
import ChapterTex.Proofs.Latex.IndexTerm
import ChapterTex.Proofs.Render.Sequence
import ChapterTex.Proofs.Render.Table
import ChapterTex.Proofs.Book.Target
import ChapterTex.Proofs.Book.ReadingOrder
import ChapterTex.Proofs.Render.FigurePath
import ChapterTex.Proofs.FrontMatter
import ChapterTex.Proofs.Text.Pieces
import ChapterTex.Proofs.Text.Case
import ChapterTex.Proofs.Title
import ChapterTex.Proofs.Json.Reading
