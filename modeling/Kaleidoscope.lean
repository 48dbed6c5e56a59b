import Kaleidoscope.Main
import Kaleidoscope.Node.Words
import Kaleidoscope.Proofs.Lexeme.Decomposition
import Kaleidoscope.Proofs.Lexeme.Joined
import Kaleidoscope.Proofs.Lexeme.Movement
import Kaleidoscope.Proofs.Parser.Runs
import Kaleidoscope.Proofs.Source.Accepted
import Kaleidoscope.Proofs.Source.Leading
import Kaleidoscope.Proofs.Source.Refused
import Kaleidoscope.Proofs.Source.Joined
import Kaleidoscope.Proofs.Lexeme.Spaced
import Kaleidoscope.Proofs.Node.Written
import Kaleidoscope.Proofs.Source.Written
import Kaleidoscope.Proofs.Source.Unfinished
import Kaleidoscope.Proofs.Source.Contents
import Kaleidoscope.Proofs.ParseError.Message
import Kaleidoscope.Proofs.Source.Excerpt
import Kaleidoscope.Proofs.Lexeme.Coverings
import Kaleidoscope.Proofs.Lexeme.Resumed
import Kaleidoscope.Proofs.Source.Policies
import Kaleidoscope.Proofs.Lexeme.Blanked
import Kaleidoscope.Proofs.Source.Blanked
import Kaleidoscope.Proofs.Text.Bytes
import Kaleidoscope.Proofs.Transcript.Delivery
import Kaleidoscope.Proofs.Session.Lines
import Kaleidoscope.Proofs.Session.Joined
import Kaleidoscope.Proofs.Transcript.Room
import Kaleidoscope.Proofs.Text.Returns
import Kaleidoscope.Proofs.Source.Relocation
import Kaleidoscope.Proofs.Lexeme.Returns
import Kaleidoscope.Proofs.Report.Returns
import Kaleidoscope.Proofs.Node.Subtrees
import Kaleidoscope.Proofs.Grammar.Drawn
import Kaleidoscope.Proofs.Source.Shape
import Kaleidoscope.Proofs.Number.Plain
import Kaleidoscope.Proofs.Text.Discerns
import Kaleidoscope.Proofs.Node.Compact
import Kaleidoscope.Proofs.Report.Compact
import Kaleidoscope.Proofs.Machine.Renaming
import Kaleidoscope.Proofs.Lexeme.Renamed
import Kaleidoscope.Proofs.Lexeme.Shifted
import Kaleidoscope.Proofs.Source.Renamed
import Kaleidoscope.Proofs.Source.Rejoined
import Kaleidoscope.Proofs.Report.Listing
import Kaleidoscope.Proofs.Grammar.Parentheses
import Kaleidoscope.Proofs.Source.Parentheses
import Kaleidoscope.Proofs.Lexeme.Trimmed
import Kaleidoscope.Proofs.Source.Trimmed
import Kaleidoscope.Proofs.Lexeme.Progress
import Kaleidoscope.Proofs.Parser.Descent
import Kaleidoscope.Proofs.Source.Progress
