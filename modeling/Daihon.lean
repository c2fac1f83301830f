import Daihon.Command.Run
import Daihon.Logging.Readout
import Daihon.Main
import Daihon.Proofs.Command.Loudness
import Daihon.Proofs.Command.Ranges
import Daihon.Proofs.Command.Reports
import Daihon.Proofs.Encoding.Utf8
import Daihon.Proofs.Json.Grammar
import Daihon.Proofs.Json.Printing
import Daihon.Proofs.Json.Tables
import Daihon.Proofs.Label.Agreement
import Daihon.Proofs.Label.Attempts
import Daihon.Proofs.Label.Consistency
import Daihon.Proofs.Label.Delivery
import Daihon.Proofs.Label.Happenings
import Daihon.Proofs.Label.Isolation
import Daihon.Proofs.Label.Joining
import Daihon.Proofs.Label.Logs
import Daihon.Proofs.Label.Realisation
import Daihon.Proofs.Label.Restoring
import Daihon.Proofs.Label.Stepping
import Daihon.Proofs.Label.Stopping
import Daihon.Proofs.Label.Whitespace
import Daihon.Proofs.Report.Rebuilding
import Daihon.Proofs.Script.BlockEnds
import Daihon.Proofs.Script.Blocks
import Daihon.Proofs.Script.Canonical
import Daihon.Proofs.Script.Division
import Daihon.Proofs.Script.ItemGrammar
import Daihon.Proofs.Script.Items
import Daihon.Proofs.Script.Kinds
import Daihon.Proofs.Script.Newlines
import Daihon.Proofs.Script.Origins
import Daihon.Proofs.Script.Ranges
import Daihon.Proofs.Script.SpeechGrammar
import Daihon.Proofs.Settings.Caching
import Daihon.Proofs.Settings.Files
import Daihon.Proofs.Settings.Layers
import Daihon.Proofs.Settings.Overrides
import Daihon.Proofs.Settings.Precedence
import Daihon.Proofs.Settings.Readings
import Daihon.Proofs.Settings.Variables
import Daihon.Proofs.Text.Endings
import Daihon.Proofs.Text.Ranges
import Daihon.Proofs.Text.Trimming
import Daihon.Proofs.Text.Writing
