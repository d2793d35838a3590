import SourceWriter.Main
import SourceWriter.Proofs.Lexical.Modes
import SourceWriter.Proofs.LineByLine
import SourceWriter.Proofs.Outline
import SourceWriter.Proofs.Writer.Chunk
import SourceWriter.Proofs.Writer.Layout
import SourceWriter.Proofs.Writer.Owed
import SourceWriter.Proofs.Writer.Tracking
import SourceWriter.Run.World
import SourceWriter.Proofs.Text.Ends
import SourceWriter.Proofs.Writer.LineEnds
import SourceWriter.Proofs.Writer.Solid
import SourceWriter.Proofs.Run.Overwriting
import SourceWriter.Proofs.Run.Source
import SourceWriter.Proofs.Run.FailStop
import SourceWriter.Proofs.Diff.Hunks
import SourceWriter.Proofs.Diff.Patch
import SourceWriter.Proofs.Text.EndedLines
import SourceWriter.Proofs.Diff.Unified
import SourceWriter.Proofs.Run.DiffMode
import SourceWriter.Proofs.Lexical.Strings
import SourceWriter.Proofs.Lexical.Templates
import SourceWriter.Proofs.Lexical.BlockComments
import SourceWriter.Proofs.Lexical.Regex
import SourceWriter.Proofs.Writer.Quoting
import SourceWriter.Proofs.Reindenting
import SourceWriter.Proofs.Writer.Hanging
import SourceWriter.Proofs.Whitespace
import SourceWriter.Proofs.Writer.Limits
import SourceWriter.Proofs.Writer.Ensuring
import SourceWriter.Proofs.Writer.Closing
import SourceWriter.Proofs.Text.Unescaping
import SourceWriter.Proofs.Lexical.Pieces
import SourceWriter.Proofs.Writer.FirstLine
import SourceWriter.Proofs.Command.Choice
