/-!
# Wait statuses

How a child process ended, as the system packs it into one word: the low seven bits
are zero for a process that ended by itself, and the next eight bits are its exit
code; otherwise they are the number of a signal, except that all of them set stands
for a process that has not ended.
-/

namespace ProfileShell

/-- A packed status. -/
structure WaitStatus where
  word : UInt32
  deriving DecidableEq, Repr

namespace WaitStatus

/-- The status of a process that ended by itself. -/
def exited (code : UInt8) : WaitStatus := ⟨code.toUInt32 <<< 8⟩

/-- The status of a process that a signal ended. -/
def killed (signal : UInt8) : WaitStatus := ⟨signal.toUInt32 &&& 0x7F⟩

/-- The low seven bits. -/
def ending (status : WaitStatus) : Nat :=
  (status.word &&& 0x7F).toNat

/-- The exit code of a process that ended by itself. -/
def code? (status : WaitStatus) : Option Nat :=
  if status.ending = 0 then some ((status.word >>> 8) &&& 0xFF).toNat else none

/-- The signal that ended a process. -/
def signal? (status : WaitStatus) : Option Nat :=
  if status.ending = 0 || status.ending = 0x7F then none else some status.ending

/-- Whether a process ended by itself with code zero. -/
def isSuccess (status : WaitStatus) : Bool :=
  status.code? = some 0

/-- The code to exit with after a child: its own code, or 128 and the signal, the
way shells report it, or else 1. -/
def exitCode (status : WaitStatus) : Nat :=
  match status.code?, status.signal? with
  | some code, _ => code
  | none, some signal => 128 + signal
  | none, none => 1

/-- The names of the signals, from number one. -/
def signalNames : List String :=
  [ "SIGHUP", "SIGINT", "SIGQUIT", "SIGILL", "SIGTRAP", "SIGABRT", "SIGBUS", "SIGFPE",
    "SIGKILL", "SIGUSR1", "SIGSEGV", "SIGUSR2", "SIGPIPE", "SIGALRM", "SIGTERM",
    "SIGSTKFLT", "SIGCHLD", "SIGCONT", "SIGSTOP", "SIGTSTP", "SIGTTIN", "SIGTTOU",
    "SIGURG", "SIGXCPU", "SIGXFSZ", "SIGVTALRM", "SIGPROF", "SIGWINCH", "SIGIO",
    "SIGPWR", "SIGSYS" ]

def signalSuffix (signal : Nat) : String :=
  if signal = 0 then ""
  else match signalNames[signal - 1]? with
    | some name => " (" ++ name ++ ")"
    | none => ""

/-- What a log says about a status. -/
def description (status : WaitStatus) : String :=
  let bits := (status.word >>> 8 &&& 0xFF).toNat
  match status.code?, status.signal? with
  | some code, _ => "exit status: " ++ toString code
  | none, some signal =>
    "signal: " ++ toString signal ++ signalSuffix signal
      ++ (if (status.word &&& 0x80).toNat = 0x80 then " (core dumped)" else "")
  | none, none =>
    if (status.word &&& 0xFF).toNat = 0x7F then
      "stopped (not terminated) by signal: " ++ toString bits ++ signalSuffix bits
    else if status.word = 0xFFFF then "continued (WIFCONTINUED)"
    else
      "unrecognised wait status: " ++ toString status.word.toInt32.toInt ++ " 0x"
        ++ String.ofList (Nat.toDigits 16 status.word.toNat)

end WaitStatus

end ProfileShell
