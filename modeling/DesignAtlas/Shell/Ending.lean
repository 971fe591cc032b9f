/-!
# Endings of programs

A program ends with a status, or a signal ends it. A shell that ran a program takes the signal for
a status above 128.
-/

namespace DesignAtlas.Shell

/-- How a program ended. -/
inductive Ending where
  /-- With a status. -/
  | exited (status : Nat)
  /-- By a signal. -/
  | killed (signal : Nat)
  deriving DecidableEq, Repr

/-- The signals by their numbers. -/
def signalNames : List (Nat × String) :=
  [(1, "HUP"), (2, "INT"), (3, "QUIT"), (4, "ILL"), (5, "TRAP"), (6, "ABRT"), (7, "BUS"),
   (8, "FPE"), (9, "KILL"), (10, "USR1"), (11, "SEGV"), (12, "USR2"), (13, "PIPE"), (14, "ALRM"),
   (15, "TERM"), (16, "STKFLT"), (17, "CHLD"), (18, "CONT"), (19, "STOP"), (20, "TSTP"),
   (21, "TTIN"), (22, "TTOU"), (23, "URG"), (24, "XCPU"), (25, "XFSZ"), (26, "VTALRM"),
   (27, "PROF"), (28, "WINCH"), (29, "IO"), (30, "PWR"), (31, "SYS")]

/-- The signals that end no program. -/
def harmlessSignals : List Nat :=
  [0, 17, 18, 19, 20, 21, 22, 23, 28]

/-- The signals that nobody can catch or ignore. -/
def sovereignSignals : List Nat :=
  [9, 19]

/-- The name of a signal, or its number if it has none. -/
def signalName (signal : Nat) : String :=
  (signalNames.lookup signal).getD (Nat.repr signal)

/-- The signal that a text names, by its number or its name in letters of any case. -/
def signalNamed? (text : String) : Option Nat :=
  match text.toNat? with
  | some n => if n ≤ 64 then some n else none
  | none => (signalNames.find? fun known => known.2 == text.toUpper).map (·.1)

/-- What a shell says about a program that a signal ended. -/
def signalText (signal : Nat) : String :=
  let texts : List (Nat × String) :=
    [(1, "Hangup"), (3, "Quit"), (4, "Illegal instruction"), (5, "Trace/breakpoint trap"),
     (6, "Aborted"), (7, "Bus error"), (8, "Floating point exception"), (9, "Killed"),
     (10, "User defined signal 1"), (11, "Segmentation fault"), (12, "User defined signal 2"),
     (14, "Alarm clock"), (15, "Terminated"), (16, "Stack fault"), (24, "CPU time limit exceeded"),
     (25, "File size limit exceeded"), (26, "Virtual timer expired"),
     (27, "Profiling timer expired"), (29, "I/O possible"), (30, "Power failure"),
     (31, "Bad system call")]
  (texts.lookup signal).getD ""

namespace Ending

/-- The status that a shell takes an ending for. -/
def status : Ending → Nat
  | exited status => status
  | killed signal => 128 + signal

/-- The wording of an ending. -/
def text : Ending → String
  | exited status => "exit status: " ++ Nat.repr status
  | killed signal =>
    "signal: " ++ Nat.repr signal ++
      ((signalNames.lookup signal).elim "" fun name => " (SIG" ++ name ++ ")")

end Ending

end DesignAtlas.Shell
