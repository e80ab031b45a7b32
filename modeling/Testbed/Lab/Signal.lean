import Testbed.Text.Octets
/-!
# Signals

A signal has a number, a name and a text for people. It ends a process that does not expect it,
unless it is one of the few that nobody minds.
-/

namespace Testbed.Lab

open Text (Octets)

namespace Signal

/-- Names and texts of the signals that have one of their own, by number. -/
def named : List (Nat × String × String) :=
  [(1, "HUP", "Hangup"), (2, "INT", "Interrupt"), (3, "QUIT", "Quit"),
    (4, "ILL", "Illegal instruction"), (5, "TRAP", "Trace/breakpoint trap"),
    (6, "ABRT", "Aborted"), (7, "BUS", "Bus error"), (8, "FPE", "Floating point exception"),
    (9, "KILL", "Killed"), (10, "USR1", "User defined signal 1"),
    (11, "SEGV", "Segmentation fault"), (12, "USR2", "User defined signal 2"),
    (13, "PIPE", "Broken pipe"), (14, "ALRM", "Alarm clock"), (15, "TERM", "Terminated"),
    (16, "16", "Stack fault"), (17, "CHLD", "Child exited"), (18, "CONT", "Continued"),
    (19, "STOP", "Stopped (signal)"), (20, "TSTP", "Stopped"), (21, "TTIN", "Stopped (tty input)"),
    (22, "TTOU", "Stopped (tty output)"), (23, "URG", "Urgent I/O condition"),
    (24, "XCPU", "CPU time limit exceeded"), (25, "XFSZ", "File size limit exceeded"),
    (26, "VTALRM", "Virtual timer expired"), (27, "PROF", "Profiling timer expired"),
    (28, "WINCH", "Window changed"), (29, "IO", "I/O possible"), (30, "PWR", "Power failure"),
    (31, "SYS", "Bad system call"), (32, "32", "Unknown signal 32"),
    (33, "33", "Unknown signal 33")]

/-- One more than the greatest number. -/
def limit : Nat := 65

/-- The name of a signal; those that have none of their own are counted from the ends. -/
def name (n : Nat) : String :=
  match named.lookup n with
  | some (name, _) => name
  | none =>
    if n = 34 then "RTMIN"
    else if n < 50 then "RTMIN+" ++ toString (n - 34)
    else if n < 64 then "RTMAX-" ++ toString (64 - n)
    else "RTMAX"

/-- What is said about a process that a signal ended. -/
def text (n : Nat) : String :=
  match named.lookup n with
  | some (_, text) => text
  | none => "Real-time signal " ++ toString (n - 34)

/-- The signals that do nothing to a process. -/
def isHarmless (n : Nat) : Bool := [17, 18, 23, 28].contains n

/-- A process that one of these ended is not talked about. -/
def isQuiet (n : Nat) : Bool := n = 2 || n = 13

/-- The number of a signal that is given by it or by the name, in small letters or large ones. -/
def find? (cs : Octets) : Option Nat :=
  if !cs.isEmpty && cs.all Char.isDigit then
    ((String.ofList cs).toNat?).filter (· < limit)
  else
    let large := cs.map Char.toUpper
    (List.range limit).find? fun n => 0 < n && (name n).toList = large

end Signal

end Testbed.Lab
