import ShellAtlas.Main
import ShellAtlas.Proofs.Catalog
import ShellAtlas.Proofs.History
import ShellAtlas.Proofs.Closure
import ShellAtlas.Proofs.FileUri
import ShellAtlas.Proofs.FileSystem
import ShellAtlas.Proofs.Naming
import ShellAtlas.Proofs.Visibility
import ShellAtlas.Proofs.Scan
import ShellAtlas.Proofs.Position
import ShellAtlas.Proofs.Consistency
import ShellAtlas.Proofs.Utf8
import ShellAtlas.Proofs.Resolution
import ShellAtlas.Proofs.Report
import ShellAtlas.Proofs.Exit
import ShellAtlas.Proofs.Json.Printed
import ShellAtlas.Proofs.Json.Record
import ShellAtlas.Proofs.Point
import ShellAtlas.Proofs.Span
import ShellAtlas.Proofs.Reference
import ShellAtlas.Proofs.Word
import ShellAtlas.Proofs.Declaration
import ShellAtlas.Proofs.Search
import ShellAtlas.Proofs.Column
import ShellAtlas.Proofs.Place
import ShellAtlas.Proofs.NormalForm
import ShellAtlas.Proofs.Comment
import ShellAtlas.Proofs.Container
import ShellAtlas.Proofs.Replacement
import ShellAtlas.Proofs.Identifier
import ShellAtlas.Proofs.Listing
import ShellAtlas.Proofs.Traversal
import ShellAtlas.Proofs.Shebang
import ShellAtlas.Proofs.Truncation
