import Tracexec.RustStr
import Tracexec.Printer.EnvpEntry
import Tracexec.Printer.EnvDiff
import Tracexec.Printer.ExecveTrace
import Tracexec.KernelVersion
import Tracexec.Event
import Tracexec.Tui.Layout
import Tracexec.Tui.App
import Tracexec.Tui.Run
import Tracexec.Tui.Resize
import Tracexec.Tui.Exit
import Tracexec.Tui.Quit
import Tracexec.Tui.Keyboard
