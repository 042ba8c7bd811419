import ProfileShell.Host
import ProfileShell.Log.Record
import ProfileShell.Log.Sink

/-!
# Logs

A log is what a part of the program reports to: a format, a target, and the fields
that every record of that part carries.  Nothing is global: who reports is given a
log.
-/

namespace ProfileShell

namespace Log

/-- Where an open log writes. -/
inductive Target where
  | standardOutput
  | standardError
  | file (place : Place)
  /-- The memory of the run, which keeps records apart. -/
  | journal
  deriving DecidableEq, Repr

/-- The permission bits of a log file that is created. -/
def fileMode : Nat := 0o600

/-- A log file that could not be opened. -/
structure OpenError where
  path : String
  cause : SystemError
  deriving DecidableEq, Repr

/-- What is said about a log file that could not be opened. -/
def OpenError.message (error : OpenError) : String :=
  "could not open log file '" ++ error.path ++ "': " ++ error.cause.message

def OpenError.causes (error : OpenError) : List String :=
  [error.message, error.cause.message]

/-- Opens a sink.  A file is created or emptied by this alone. -/
def Sink.open (sink : Sink) (host : Host) : Except OpenError (Target × Host) :=
  match sink with
  | .standardOutput => .ok (.standardOutput, host)
  | .standardError => .ok (.standardError, host)
  | .file path append =>
    match host.volume.openToWrite host.place (Path.ofText path) append fileMode with
    | .ok (place, volume) => .ok (.file place, { host with volume := volume })
    | .error cause => .error ⟨path, cause⟩

def Target.write (target : Target) (octets : Bytes) (host : Host) : Host :=
  match target with
  | standardOutput => host.print octets
  | standardError => host.printError octets
  | file place => { host with volume := host.volume.append place octets }
  | journal => host.note octets

def Target.isTerminal (target : Target) (host : Host) : Bool :=
  match target with
  | standardOutput => host.outputIsTerminal
  | standardError => host.errorsIsTerminal
  | file _ | journal => false

end Log

/-- Where a part of the program reports to. -/
structure Log where
  format : Log.Format
  target : Log.Target
  debug : Bool
  coloured : Bool
  /-- The fields that every record carries, ahead of its own. -/
  fields : List (String × String)
  deriving DecidableEq, Repr

namespace Log

/-- A log that forgets everything. -/
def silent : Log := ⟨.null, .standardError, false, false, []⟩

/-- The number of a process: eight hexadecimal digits in capitals, or more if need
be. -/
def processText (process : Nat) : String :=
  let digits := (Nat.toDigits 16 process).map Char.toUpper
  String.ofList ("0x".toList ++ List.replicate (8 - digits.length) '0' ++ digits)

/-- The log of a format at a target.  A debug log says which process writes. -/
def new (format : Format) (target : Target) (debug : Bool) (host : Host) : Log :=
  if format = .null then silent
  else
    ⟨format, target, debug, target.isTerminal host && host.colours,
      if debug then [("proc", "gosh"), ("pid", processText host.process)] else []⟩

def withField (log : Log) (key value : String) : Log :=
  { log with fields := log.fields ++ [(key, value)] }

/-- Whether a record is written. -/
def accepts (log : Log) (record : Record) : Bool :=
  log.format != .null && (log.debug || record.level != .debug)

/-- A record with the fields of the log. -/
def complete (log : Log) (record : Record) : Record :=
  { record with fields := log.fields ++ record.fields }

def emit (log : Log) (record : Record) (host : Host) : Host :=
  if log.accepts record then
    log.target.write ((log.complete record).octets log.format log.coloured) host
  else host

def emitAll (log : Log) (records : List Record) (host : Host) : Host :=
  records.foldl (fun host record => log.emit record host) host

end Log

end ProfileShell
