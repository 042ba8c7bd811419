import ProfileShell.Script

/-!
# Lines of scripts

The lines of a file are the pieces between its line feeds, where a line feed at the end
of the file starts no further line.
-/

namespace ProfileShell.Script

/-- Pieces without an empty one at the end. -/
def dropEmptyEnd (pieces : List Bytes) : List Bytes :=
  if pieces.getLast? = some [] then pieces.dropLast else pieces

theorem dropEmptyEnd_cons_cons (first second : Bytes) (rest : List Bytes) :
    dropEmptyEnd (first :: second :: rest) = first :: dropEmptyEnd (second :: rest) := by
  unfold dropEmptyEnd
  rw [List.getLast?_cons_cons, List.dropLast_cons_cons]
  split <;> rfl

theorem lines_lineFeed_cons (rest : Bytes) : lines (lineFeed :: rest) = [] :: lines rest := by
  unfold lines
  rw [List.foldr_cons, if_pos rfl]

theorem lines_cons_of_nil {octet : UInt8} {rest : Bytes} (inside : octet ≠ lineFeed)
    (empty : lines rest = []) : lines (octet :: rest) = [[octet]] := by
  unfold lines at empty ⊢
  rw [List.foldr_cons, if_neg inside, empty]

theorem lines_cons_of_cons {octet : UInt8} {rest line : Bytes} {more : List Bytes}
    (inside : octet ≠ lineFeed) (found : lines rest = line :: more) :
    lines (octet :: rest) = (octet :: line) :: more := by
  unfold lines at found ⊢
  rw [List.foldr_cons, if_neg inside, found]

theorem lines_eq_splitOn (octets : Bytes) :
    lines octets = dropEmptyEnd (octets.splitOn lineFeed) := by
  induction octets with
  | nil => rfl
  | cons octet rest ih =>
      obtain ⟨first, others, split⟩ := List.exists_cons_of_ne_nil
        (List.splitOn_ne_nil lineFeed rest)
      rw [List.splitOn_cons_eq_if_modifyHead, split]
      rw [split] at ih
      by_cases ends : octet = lineFeed
      · subst ends
        rw [lines_lineFeed_cons, ih]
        simp [dropEmptyEnd_cons_cons]
      · cases others with
        | nil =>
            cases first with
            | nil => simp [lines_cons_of_nil ends ih, ends, dropEmptyEnd]
            | cons second more => simp [lines_cons_of_cons ends ih, ends, dropEmptyEnd]
        | cons second more =>
            rw [dropEmptyEnd_cons_cons] at ih
            simp [lines_cons_of_cons ends ih, ends, dropEmptyEnd_cons_cons]

/-- A script from its first line to its last one. -/
theorem render_eq (shell : String) (exports : Option Environ) (octets : Bytes) :
    render shell exports octets =
      Utf8.encode ("#!" ++ shell) ++ [lineFeed]
        ++ ((exports.elim [] Environ.entries).flatMap fun (name, value) =>
          Utf8.encode ("export " ++ Utf8.lossy name ++ "="
            ++ Text.Quoted.quote (Utf8.lossy value)) ++ [lineFeed])
        ++ (((dropEmptyEnd (octets.splitOn lineFeed)).map dropCarriageReturn).filter
            fun line => Text.trim (Utf8.lossy line) != "#!" ++ shell).flatMap
          (· ++ [lineFeed]) := by
  have header : (header shell exports).flatMap
      (fun line => Utf8.encode line ++ [lineFeed]) =
        Utf8.encode ("#!" ++ shell) ++ [lineFeed] ++
          (exports.elim [] Environ.entries).flatMap fun (name, value) =>
            Utf8.encode ("export " ++ Utf8.lossy name ++ "="
              ++ Text.Quoted.quote (Utf8.lossy value)) ++ [lineFeed] := by
    cases exports with
    | none => simp [Script.header, shebang]
    | some environ => simp [Script.header, shebang, exportLine, List.flatMap_map]
  rw [render, header, body, bodyLines, lines_eq_splitOn]
  rfl

end ProfileShell.Script
