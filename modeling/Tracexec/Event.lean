/-
The data the tracer hands to its consumers: the decoded payload of one exec
call, the per-process state the printer reads, and the tracer events.

`ExecData` and the fields of `ProcessState` are those that printer.rs reads.
`TracerEvent` is declared in event.rs, which is not among the modelled sources;
its variants follow the spec's data model.
-/

namespace Tracexec

/-- One exec call: the path as passed, `argv` and `envp` in decode order. -/
structure ExecData where
  filename : List Char
  argv : List (List Char)
  envp : List (List Char)
  deriving DecidableEq, Repr

/-- Modelled from the spec: `TracerEvent` of event.rs, with the variants of the
spec's data model (root child spawned, exec completed, process exited, root
child exited). -/
inductive TracerEvent
  | rootChildSpawn (pid : Int)
  | exec (pid : Int) (execData : ExecData) (result : Int)
  | processExit (pid : Int) (status : Int)
  | rootChildExit (exitCode : Int)
  deriving DecidableEq, Repr

end Tracexec
