import SymbolJump.Json.Reader
import SymbolJump.Json.Printer
import SymbolJump.Text.Units16
import SymbolJump.Pattern.Reader
import SymbolJump.Definition.Cells
import SymbolJump.Decimal.Shortest
import SymbolJump.Toml.Reader
import SymbolJump.Toml.Merge
import SymbolJump.FileTree
import SymbolJump.Settings.Load
import SymbolJump.Navigator.Basic
import SymbolJump.CommandLine.Run
import SymbolJump.Main
import SymbolJump.Proofs.Definition.Search
import SymbolJump.Proofs.Definition.Cells
import SymbolJump.Proofs.Text.Caret
import SymbolJump.Proofs.Editor
import SymbolJump.Proofs.Jumper.Moves
import SymbolJump.Proofs.Jumper.FileReturn
import SymbolJump.Proofs.Jumper.CellList
import SymbolJump.Proofs.Jumper.NotebookReturn
import SymbolJump.Proofs.Jumper.AllOrNothing
import SymbolJump.Proofs.Server.Transitions
import SymbolJump.Proofs.Server.Exchange
import SymbolJump.Proofs.Server.Lifetime
import SymbolJump.Proofs.Server.Attribution
import SymbolJump.Proofs.Server.Script
import SymbolJump.Proofs.Navigator.Runs
import SymbolJump.Proofs.Navigator.Effects
import SymbolJump.Proofs.Navigator.Bookkeeping
import SymbolJump.Proofs.Text.Units16
import SymbolJump.Proofs.Jumper.SingleCell
import SymbolJump.Proofs.Navigator.Closing
import SymbolJump.Proofs.Server.MessageForm
import SymbolJump.Proofs.Server.Draining
import SymbolJump.Proofs.Server.Pumping
import SymbolJump.Proofs.Uri.Percent
import SymbolJump.Proofs.Uri.Document
import SymbolJump.Proofs.Server.OutsideFiles
import SymbolJump.Proofs.Navigator.Keybinding
import SymbolJump.Proofs.Server.Timing
import SymbolJump.Proofs.Navigator.ActiveCell
import SymbolJump.Proofs.Server.Replies
import SymbolJump.Proofs.Navigator.Deadlines
import SymbolJump.Proofs.Navigator.Sweeping
import SymbolJump.Proofs.Navigator.Pumping
import SymbolJump.Proofs.Navigator.Lexical
import SymbolJump.Proofs.CommandLine.Answer
import SymbolJump.Proofs.CommandLine.PrintedPlaces
import SymbolJump.Proofs.Settings.Reloading
import SymbolJump.Proofs.Jumper.ValidCarets
import SymbolJump.Proofs.Jump.Stacks
import SymbolJump.Proofs.Definition.Closest
import SymbolJump.Proofs.Server.AddressedLine
import SymbolJump.Proofs.Navigator.Descent
import SymbolJump.Proofs.Pattern.Words
import SymbolJump.Proofs.Definition.Comments
import SymbolJump.Proofs.Definition.TupleTargets
import SymbolJump.Proofs.Definition.CellOffsets
import SymbolJump.Proofs.Toml.Paths
import SymbolJump.Proofs.Toml.NamedItems
import SymbolJump.Proofs.Server.LocationForm
import SymbolJump.Proofs.Text.Offsets
import SymbolJump.Proofs.Text.Touching
import SymbolJump.Proofs.Jumper.ActiveCell
