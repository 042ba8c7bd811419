import ProfileShell.Posix.Interpreter
import ProfileShell.Program

/-!
# The command line program

A run is computed on a copy of the machine: the directories that it may look at are
copied into a volume first, and what the run changed is written back at its end.
Shells run on the built-in machine, so the programs of the system count as files that
may be executed and are not read.
-/

namespace ProfileShell.Main

/-- The result of an action, or a value in its place if it fails. -/
def attempt {α : Type} (action : IO α) (fallback : α) : IO α :=
  try action catch _ => pure fallback

/-- A path of the system from the root. -/
def textOf (place : Place) : String :=
  Path.display (Path.slash :: [Path.slash].intercalate place)

/-- The place of such a path. -/
def placeOf (path : Path) : Place :=
  (Path.pieces path).filter (!·.isEmpty)

def readFile (place : Place) : IO Bytes := do
  return (← IO.FS.readBinFile (textOf place)).toList

/-- Copies the node at a place, and `depth` levels below a directory. -/
def copy (depth : Nat) (place : Place) (volume : Volume) : IO Volume := do
  let path := (← IO.currentDir) / textOf place
  if ← path.isDir then
    let here := volume.put place (.directory 0o755)
    match depth with
    | 0 => return here
    | depth + 1 =>
      let entries ← attempt path.readDir #[]
      entries.foldlM
        (fun volume entry => copy depth (place ++ [Utf8.encode entry.fileName]) volume) here
  else
    match ← attempt (some <$> readFile place) none with
    | some octets => return volume.put place (.file octets 0o644)
    | none => return volume

/-- Copies the directories above a place and then the place itself. -/
def copyFromRoot (depth : Nat) (place : Place) (volume : Volume) : IO Volume := do
  let above ← ((List.range place.length).map place.take).foldlM
    (fun volume parent => if parent.isEmpty then pure volume else copy 0 parent volume) volume
  copy depth place above

/-- Copies the names of the programs in a directory. -/
def copyPrograms (volume : Volume) (name : String) : IO Volume := do
  let place := placeOf (Path.ofText name)
  let path := (← IO.currentDir) / name
  let entries ← attempt path.readDir #[]
  let above ← copyFromRoot 0 place volume
  return entries.foldl
    (fun volume entry =>
      volume.put (place ++ [Utf8.encode entry.fileName]) (.file [] 0o755))
    above

def readEnviron : IO Environ := do
  let octets ← attempt (readFile (placeOf (Path.ofText "/proc/self/environ"))) []
  let entries := (octets.splitOn 0).filter (!·.isEmpty)
  return .ofList (entries.map fun entry =>
    let name := entry.takeWhile (· != 0x3D)
    (name, entry.drop (name.length + 1)))

def readProcess : IO Nat := do
  let octets ← attempt (readFile (placeOf (Path.ofText "/proc/self/stat"))) []
  return (String.ofList ((Utf8.lossy octets).toList.takeWhile Char.isDigit)).toNat?.getD 1

def randomEnding : IO String := do
  let letters := "abcdefghijklmnopqrstuvwxyzABCDEFGHIJKLMNOPQRSTUVWXYZ0123456789".toList
  let characters ← (List.replicate 6 ()).mapM fun _ => do
    return letters.getD (← IO.rand 0 (letters.length - 1)) 'a'
  return String.ofList characters

/-- The places that a run may look at, each with the levels to copy below it. -/
def sources (environ : Environ) (current : Path) (arguments : List Bytes) :
    List (Nat × Place) :=
  let placeFrom := fun path => placeOf (Path.absolute current path)
  let file := Path.configFile environ current none (environ.valueOf? Path.configVariable)
  let isMark := fun octet : UInt8 => octet == 0x3E || octet == 0x20
  let named := arguments.map fun argument =>
    (2, (placeFrom (argument.dropWhile isMark)).dropLast)
  (1, placeFrom current) :: (1, placeFrom (Path.temporaryDirectory environ current))
    :: (3, (placeFrom file).dropLast) :: named

/-- The machine as it is. -/
def readHost (arguments : List Bytes) : IO Host := do
  let environ ← readEnviron
  let current := Path.ofText (← IO.currentDir).toString
  let withPrograms ← ["/bin", "/usr/bin", "/usr/local/bin"].foldlM copyPrograms Volume.empty
  let volume ← (sources environ current arguments).foldlM
    (fun volume (depth, place) => copyFromRoot depth place volume)
    withPrograms
  return {
    volume := volume.put (placeOf (Path.ofText "/dev/null")) (.device 0o666)
    directory := current
    environ := environ
    output := []
    errors := []
    outputIsTerminal := ← (← IO.getStdout).isTty
    errorsIsTerminal := ← (← IO.getStderr).isTty
    journal := []
    temporaryEndings := ← (List.replicate 16 ()).mapM fun _ => randomEnding
    process := ← readProcess }

/-- The rights that permission bits give. -/
def rightsOf (mode : Nat) : IO.FileRight :=
  let right := fun bits : Nat => ({
    read := bits &&& 4 != 0
    write := bits &&& 2 != 0
    execution := bits &&& 1 != 0 } : IO.AccessRight)
  { user := right (mode / 64), group := right (mode / 8), other := right mode }

/-- Writes what a run did to the node at a place. -/
def writeNode (before : Volume) (place : Place) (node : Node) : IO Unit := do
  if before.node? place != some node then
    match node with
    | .file octets mode =>
      IO.FS.writeBinFile (textOf place) octets.toByteArray
      if (before.node? place).isNone then IO.setAccessRights (textOf place) (rightsOf mode)
    | .directory mode =>
      IO.FS.createDir (textOf place)
      IO.setAccessRights (textOf place) (rightsOf mode)
    | .device _ => pure ()

/-- Writes what a run did to the machine. -/
def writeHost (before after : Host) : IO Unit := do
  for (place, node) in after.volume.nodes do
    attempt (writeNode before.volume place node) ()
  for (place, _) in before.volume.nodes do
    if (after.volume.node? place).isNone then
      attempt (IO.FS.removeFile (textOf place)) ()
  (← IO.getStdout).write after.output.toByteArray
  (← IO.getStderr).write after.errors.toByteArray

end ProfileShell.Main

open ProfileShell in
/-- Runs the program and exits with its code. -/
def main (arguments : List String) : IO UInt32 := do
  let octets := arguments.map Utf8.encode
  let before ← Main.readHost octets
  let (ending, after) := Program.run Posix.shell octets before
  Main.writeHost before after
  return match ending with
    | .exit code => UInt32.ofNat code
    | .replaced status => UInt32.ofNat status.exitCode
