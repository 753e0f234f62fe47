import Downlink.Text.Raw

/-!
# Signals

A process is ended, stopped or left alone by a signal. A script names signals by number or by word.
-/

namespace Downlink.Tool.Signal

/-- One more than the greatest number of a signal. -/
def bound : Nat := 65

/-- The words for the signals that have one, without those for the numbers kept free. -/
def words : List (Nat × String) :=
  [(1, "HUP"), (2, "INT"), (3, "QUIT"), (4, "ILL"), (5, "TRAP"), (6, "ABRT"), (7, "BUS"),
    (8, "FPE"), (9, "KILL"), (10, "USR1"), (11, "SEGV"), (12, "USR2"), (13, "PIPE"),
    (14, "ALRM"), (15, "TERM"), (17, "CHLD"), (18, "CONT"), (19, "STOP"), (20, "TSTP"),
    (21, "TTIN"), (22, "TTOU"), (23, "URG"), (24, "XCPU"), (25, "XFSZ"), (26, "VTALRM"),
    (27, "PROF"), (28, "WINCH"), (29, "IO"), (30, "PWR"), (31, "SYS")]

/-- The word by which a script knows a signal. The numbers kept free are counted from both ends, and
a signal without a word has its number for one. -/
def word (n : Nat) : String :=
  match words.lookup n with
  | some word => word
  | none =>
    if n = 34 then "RTMIN"
    else if 34 < n ∧ n < 50 then s!"RTMIN+{n - 34}"
    else if n = 64 then "RTMAX"
    else if 49 < n ∧ n < 64 then s!"RTMAX-{64 - n}"
    else toString n

/-- The name by which a signal is reported, empty for one that has none. -/
def report (n : Nat) : String :=
  match words.lookup n with
  | some word => "SIG" ++ word
  | none => if n = 16 then "SIGSTKFLT" else ""

/-- What the signals up to 31 are told as, from the first one on. -/
def descriptions : List String :=
  ["Hangup", "Interrupt", "Quit", "Illegal instruction", "Trace/breakpoint trap", "Aborted",
    "Bus error", "Floating point exception", "Killed", "User defined signal 1",
    "Segmentation fault", "User defined signal 2", "Broken pipe", "Alarm clock", "Terminated",
    "Stack fault", "Child exited", "Continued", "Stopped (signal)", "Stopped",
    "Stopped (tty input)", "Stopped (tty output)", "Urgent I/O condition",
    "CPU time limit exceeded",
    "File size limit exceeded", "Virtual timer expired", "Profiling timer expired",
    "Window changed", "I/O possible", "Power failure", "Bad system call"]

/-- What a signal is told as. -/
def description (n : Nat) : String :=
  match descriptions[n - 1]? with
  | some text => text
  | none => if 34 ≤ n then s!"Real-time signal {n - 34}" else s!"Unknown signal {n}"

/-- The signal that a number or a word in any case names; `least` is the first one with a word. The
number zero names no signal, but asks whether a process is there. -/
def ofWord? (least : Nat) (raw : Raw) : Option Nat :=
  if !raw.isEmpty && raw.all Char.isDigit then some (Raw.value 10 raw) |>.filter (· < bound)
  else if least = 0 ∧ raw.map Char.toUpper = "EXIT".toList then some 0
  else
    (List.range bound).find? fun n =>
      0 < n && (word n).toList == raw.map Char.toUpper

/-- Whether a signal leaves alone a process that does not care for it. The signals that stop a
process are counted here, since nothing would start it again. -/
def isHarmless (n : Nat) : Bool := n == 0 || (17 ≤ n && n ≤ 23) || n == 28

/-- Whether a process may care for a signal. -/
def isCatchable (n : Nat) : Bool := n != 9 && n != 19

example : ofWord? 1 "kill".toList = some 9 ∧ ofWord? 1 "SIGKILL".toList = none := by decide +kernel

end Downlink.Tool.Signal
