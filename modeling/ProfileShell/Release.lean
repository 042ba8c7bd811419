/-!
# Releases

The name and the version of the program and what each release changed.
-/

namespace ProfileShell

structure Release where
  version : String
  date : String
  changes : List String
  deriving DecidableEq, Repr

namespace Release

def programName : String := "gosh"

def all : List Release :=
  [ ⟨"0.3.0", "October 16, 2026",
      [ "profiles may inherit other profiles",
        "log output format and destination selectable with -o and -w",
        "generate-only mode (-d) prints the rc-file as a script" ]⟩,
    ⟨"0.1.0", "June 30, 2020", ["initial commit"]⟩ ]

def versionLine : String :=
  programName ++ " " ++ (all.head?.map Release.version).getD ""

/-- A release and its changes, a line each. -/
def text (release : Release) : String :=
  release.version ++ " (" ++ release.date ++ ")\n"
    ++ String.join (release.changes.map fun change => "  - " ++ change ++ "\n")

def changelog : String :=
  String.join (all.map text)

end Release

end ProfileShell
