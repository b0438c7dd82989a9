/-
The line `print_execve_trace` (printer.rs) prints for one exec call.

The line is the sequence of its `write!` calls, without their colours: the pid,
the command name, the filename, `argv`, then either the environment diff
against the baseline, or the raw `envp`, or nothing, and last the result.  The
flags of `TracingArgs` choose the parts; the diff is on unless it is turned off
or the raw `envp` is asked for, so it is on by default.

The printer panics when the process has no exec data, and, with the diff on,
when the split of an envp entry does: with the default flags every envp that
holds an entry with no `=` after its first byte takes the printer down.  With
the diff off the printer never panics on a process with exec data.
-/

import Tracexec.Event
import Tracexec.Printer.EnvDiff

namespace Tracexec.Printer

open RustStr

/-- The fields of `TracingArgs` (cli.rs) that the printer reads. -/
structure TracingArgs where
  noTraceComm : Bool
  noTraceArgv : Bool
  traceEnv : Bool
  noDiffEnv : Bool
  noTraceFilename : Bool
  noDecodeErrno : Bool
  deriving DecidableEq, Repr

/-- `diff_env`: the diff is printed unless it is turned off or the raw `envp`
is asked for. -/
def TracingArgs.diffEnv (tracingArgs : TracingArgs) : Bool :=
  !tracingArgs.noDiffEnv && !tracingArgs.traceEnv

end Tracexec.Printer
