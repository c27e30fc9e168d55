import AsmFormat.Main
import AsmFormat.World
import AsmFormat.Proofs.Text.Trimming
import AsmFormat.Proofs.Text.Words
import AsmFormat.Proofs.Text.Casing
import AsmFormat.Proofs.Text.Commas
import AsmFormat.Proofs.Text.Pieces
import AsmFormat.Proofs.Text.Digits
import AsmFormat.Proofs.Line.WellFormed
import AsmFormat.Proofs.Line.Grammar
import AsmFormat.Proofs.Line.Spelling
import AsmFormat.Proofs.Line.Columns
import AsmFormat.Proofs.Line.Placement
import AsmFormat.Proofs.Line.Reread
import AsmFormat.Proofs.Line.Content
import AsmFormat.Proofs.Line.Stability
import AsmFormat.Proofs.Line.NormalForm
import AsmFormat.Proofs.Document.Edits
import AsmFormat.Proofs.Document.Rows
import AsmFormat.Proofs.Document.Settled
import AsmFormat.Proofs.Document.Listing
import AsmFormat.Proofs.Document.LineEnds
import AsmFormat.Proofs.Document.Rereading
import AsmFormat.Proofs.Document.Cancellation
import AsmFormat.Proofs.Json.Skipping
import AsmFormat.Proofs.Settings.Layers
import AsmFormat.Proofs.Storage.Replacement
import AsmFormat.Proofs.World.Requests
import AsmFormat.Proofs.Job.Run
import AsmFormat.Proofs.Job.Effect
import AsmFormat.Proofs.Command.Check
import AsmFormat.Proofs.Job.Limits
import AsmFormat.Proofs.Settings.Written
import AsmFormat.Proofs.Job.LineNumbers
