import ProfileShell.Environ

/-!
# Histories of sessions

A session can be started inside another one.  The variable of the profiles then tells the
whole history: the profiles of the innermost session, and in parentheses behind them the
history around it.  `History.text` writes a history and `History.parse?` reads it.
-/

namespace ProfileShell.Environ

/-- A session as the bookkeeping knows it. -/
structure Layer where
  rcFile : Bytes
  profiles : List String
  deriving DecidableEq, Repr

/-- The environment inside sessions of which each was started in the one before. -/
def enter (environ : Environ) (layers : List Layer) : Environ :=
  layers.foldl
    (fun outer layer => outer.withBookkeeping layer.rcFile layer.profiles true) environ

namespace History

/-- The profiles of sessions, innermost session first. -/
def text : List (List String) → String
  | [] => ""
  | [profiles] => ",".intercalate profiles
  | profiles :: outer => ",".intercalate profiles ++ "(" ++ text outer ++ ")"

/-- Reads the profiles of sessions, innermost session first.  What stands behind the
profiles of a session must be in parentheses and is the history around it. -/
def layers? (characters : List Char) : Option (List (List String)) :=
  let profiles := ((characters.takeWhile (· != '(')).splitOn ',').map String.ofList
  match _opened : characters.dropWhile (· != '(') with
  | [] => some [profiles]
  | _ :: inside =>
    if inside.getLast? = some ')' then (layers? inside.dropLast).map (profiles :: ·)
    else none
termination_by characters.length
decreasing_by
  have shorter := (List.dropWhile_suffix (l := characters) (· != '(')).length_le
  rw [_opened, List.length_cons] at shorter
  rw [List.length_dropLast]
  omega

def parse? (value : Bytes) : Option (List (List String)) :=
  (Utf8.decode? value).bind fun history => layers? history.toList

end History

end ProfileShell.Environ
