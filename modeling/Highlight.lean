import Highlight.Json.Reader
import Highlight.Json.Writer
import Highlight.Service.Server
import Highlight.Proofs.Service.Memo
import Highlight.Proofs.Service.Numbering
import Highlight.Proofs.Source.Reference
import Highlight.Proofs.Text.Utf16
import Highlight.Proofs.Token.Collect
import Highlight.Proofs.Token.Delta
import Highlight.Proofs.Token.Encode
import Highlight.Proofs.Service.Client
import Highlight.Proofs.Service.Answers
import Highlight.Proofs.Service.Ledger
import Highlight.Proofs.Service.Requests
import Highlight.Proofs.Service.Latest
import Highlight.Proofs.Service.Replay
import Highlight.Proofs.Service.Interleaving
import Highlight.Proofs.Service.Isolation
import Highlight.Proofs.Token.Kind
import Highlight.Proofs.Token.Meaning
import Highlight.Proofs.Service.Configuration
import Highlight.Proofs.Token.Shape
import Highlight.Proofs.Service.Cache
import Highlight.Proofs.Service.Legend
import Highlight.Proofs.Text.Split
import Highlight.Proofs.Token.Reading
import Highlight.Proofs.Token.Line
import Highlight.Proofs.Token.Replacement
import Highlight.Proofs.Token.Splice
import Highlight.Proofs.Settings.Acceptance
import Highlight.Proofs.Settings.RoundTrip
import Highlight.Proofs.Source.Preorder
import Highlight.Proofs.Text.Boundary
import Highlight.Proofs.Text.Offsets
import Highlight.Proofs.Token.Canonical
import Highlight.Proofs.Source.Building
