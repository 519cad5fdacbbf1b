import CommandShell.Main
import CommandShell.Proofs.Blame
import CommandShell.Proofs.Callable
import CommandShell.Proofs.Endings
import CommandShell.Proofs.Flushes
import CommandShell.Proofs.Growth
import CommandShell.Proofs.NewFiles
import CommandShell.Proofs.NoTexts
import CommandShell.Proofs.Program
import CommandShell.Proofs.Reports
import CommandShell.Proofs.Respacing
import CommandShell.Proofs.Settings
import CommandShell.Proofs.Unquoting
import CommandShell.Proofs.Verbosity
import CommandShell.Proofs.Waits
import CommandShell.Sink.LineBuffered
import CommandShell.Text.WhiteSpace
