import Loxeme.Text.Lines
import Loxeme.Text.CodeRange
import Loxeme.Text.Alphabetic
import Loxeme.Text.Extending
import Loxeme.Text.Unprintable
import Loxeme.Text.Blank
import Loxeme.Text.Quoted
import Loxeme.Decimal
import Loxeme.Binary64.Basic
import Loxeme.Binary64.Nearest
import Loxeme.Binary64.Shortest
import Loxeme.Kind
import Loxeme.Token
import Loxeme.Fault
import Loxeme.Segment.Basic
import Loxeme.Segment.Place
import Loxeme.Scan
import Loxeme.Console
import Loxeme.Collector
import Loxeme.Trace
import Loxeme.Proofs.Beginning
import Loxeme.Proofs.Lexeme
import Loxeme.Proofs.Rule
import Loxeme.Proofs.Segmentation
import Loxeme.Proofs.Lines
import Loxeme.Proofs.Boundary
import Loxeme.Proofs.Spacing
import Loxeme.Proofs.Joining
import Loxeme.Proofs.Following
import Loxeme.Proofs.Repair
import Loxeme.Proofs.Blanking
import Loxeme.Proofs.Cursor
import Loxeme.Proofs.Reading
import Loxeme.Proofs.Bounds
import Loxeme.Proofs.Sinks
import Loxeme.Proofs.LineText
import Loxeme.Proofs.Returns
import Loxeme.Proofs.Located
import Loxeme.Proofs.Lookahead
import Loxeme.Proofs.Recording
import Loxeme.Proofs.Excerpt
import Loxeme.Proofs.Magnitude
import Loxeme.Proofs.Rounding
import Loxeme.Proofs.Numerals
import Loxeme.Proofs.ReadBack
import Loxeme.Proofs.Unambiguous
import Loxeme.Proofs.Layout
import Loxeme.Proofs.Factoring
import Loxeme.Proofs.Coherence
import Loxeme.Proofs.Equality
