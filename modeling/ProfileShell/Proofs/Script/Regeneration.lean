import ProfileShell.Proofs.Script.Body
import ProfileShell.Proofs.Script.Exports
import ProfileShell.Proofs.Text.Utf8.Ascii

/-!
# Scripts printed from scripts

A script without exports is an rc-file of its own.  Printed again for the same shell it
stays as it is: its first line is found to name the shell and is replaced by itself, and the
other lines have lost already what printing takes away.  A line that ended with two carriage
returns would still have one to lose.
-/

namespace ProfileShell.Script

variable {shell : String} {octets line : Bytes}

/-! ## The first line -/

private theorem toList_shebang (shell : String) :
    (shebang shell).toList = '#' :: '!' :: shell.toList :=
  String.toList_append

theorem lineFeed_notMem_shebang (oneLine : '\n' ∉ shell.toList) :
    lineFeed ∉ Utf8.encode (shebang shell) := by
  intro inside
  have character : '\n' ∈ (shebang shell).toList :=
    Utf8.mem_of_mem_encode (by decide : lineFeed.toNat < 0x80) inside
  rw [toList_shebang] at character
  simp [oneLine] at character

section Ends

variable (ends : ∀ last, shell.toList.getLast? = some last → Text.isBlank last = false)

include ends

private theorem notBlank_of_getLast?_shebang :
    ∀ last, (shebang shell).toList.getLast? = some last → Text.isBlank last = false := by
  rw [toList_shebang]
  cases characters : shell.toList with
  | nil =>
      rintro _ ⟨⟩
      decide
  | cons first rest =>
      rw [characters] at ends
      rwa [List.getLast?_cons_cons, List.getLast?_cons_cons]

private theorem trim_shebang : Text.trim (shebang shell) = shebang shell := by
  have first : ∀ character, (shebang shell).toList.head? = some character →
      Text.isBlank character = false := by
    rw [toList_shebang]
    rintro _ ⟨⟩
    decide
  rw [Text.trim, Text.trimBlanks_eq_self first (notBlank_of_getLast?_shebang ends),
    String.ofList_toList]

theorem namesShell_shebang : namesShell shell (Utf8.encode (shebang shell)) = true := by
  rw [namesShell, Utf8.lossy_of_decode? (Utf8.decode?_encode _), trim_shebang ends]
  exact beq_self_eq_true _

theorem getLast?_encode_shebang :
    (Utf8.encode (shebang shell)).getLast? ≠ some carriageReturn := by
  apply Utf8.getLast?_encode_ne (by decide)
  intro last
  have notBlank := notBlank_of_getLast?_shebang ends _ last
  exact absurd notBlank (by decide)

end Ends

/-! ## The other lines -/

private theorem getLast?_of_mem_bodyLines
    (single : ∀ line ∈ lines octets, ¬ [carriageReturn, carriageReturn] <:+ line)
    (member : line ∈ bodyLines shell octets) : line.getLast? ≠ some carriageReturn := by
  obtain ⟨mapped, -⟩ := List.mem_filter.mp member
  obtain ⟨original, listed, rfl⟩ := List.mem_map.mp mapped
  intro last
  by_cases returned : original.getLast? = some carriageReturn
  · obtain ⟨front, rfl⟩ := List.getLast?_eq_some_iff.mp returned
    rw [dropCarriageReturn, if_pos returned, List.dropLast_concat] at last
    obtain ⟨start, rfl⟩ := List.getLast?_eq_some_iff.mp last
    exact single _ listed ⟨start, by simp⟩
  · rw [dropCarriageReturn_of_ne returned] at last
    exact returned last

theorem render_none (shell : String) (octets : Bytes) :
    render shell none octets =
      unlines (Utf8.encode (shebang shell) :: bodyLines shell octets) := by
  simp [render, header, body, unlines]

theorem bodyLines_render_none (oneLine : '\n' ∉ shell.toList)
    (ends : ∀ last, shell.toList.getLast? = some last → Text.isBlank last = false)
    (single : ∀ line ∈ lines octets, ¬ [carriageReturn, carriageReturn] <:+ line) :
    bodyLines shell (render shell none octets) = bodyLines shell octets := by
  have inside : ∀ line ∈ Utf8.encode (shebang shell) :: bodyLines shell octets,
      lineFeed ∉ line :=
    List.forall_mem_cons.mpr
      ⟨lineFeed_notMem_shebang oneLine, fun _ member => (mem_bodyLines member).1⟩
  have noReturn : ∀ line ∈ Utf8.encode (shebang shell) :: bodyLines shell octets,
      line.getLast? ≠ some carriageReturn :=
    List.forall_mem_cons.mpr
      ⟨getLast?_encode_shebang ends, fun _ member => getLast?_of_mem_bodyLines single member⟩
  rw [bodyLines, render_none, lines_unlines inside,
    map_dropCarriageReturn noReturn,
    List.filter_cons_of_neg (by simp [namesShell_shebang ends])]
  exact List.filter_eq_self.mpr fun _ member => by simp [(mem_bodyLines member).2]

/-- Where no line of an rc-file ends with two carriage returns, its script without exports
is printed, and wherever that script is read it is printed as it is. -/
theorem ofFile_regenerates {host : Host} {path : Path} (oneLine : '\n' ∉ shell.toList)
    (ends : ∀ last, shell.toList.getLast? = some last → Text.isBlank last = false)
    (read : host.read path = .ok octets)
    (single : ∀ line ∈ octets.splitOn lineFeed,
      ¬ [carriageReturn, carriageReturn] <:+ line) :
    ∃ script, ofFile host path shell none = .ok script ∧
      ∀ (later : Host) (copy : Path), later.read copy = .ok script →
        ofFile later copy shell none = .ok script := by
  have singleLines : ∀ line ∈ lines octets, ¬ [carriageReturn, carriageReturn] <:+ line :=
    fun line member => single line (mem_splitOn_of_mem_lines member)
  refine ⟨render shell none octets, ?_, ?_⟩
  · rw [ofFile, read]
    rfl
  · intro later copy again
    have same := bodyLines_render_none oneLine ends singleLines
    rw [ofFile, again]
    change Except.ok (render shell none (render shell none octets)) = _
    rw [render_none shell (render shell none octets), same, ← render_none]

/-- Lines that name the shell among blanks and returns, an octet that is no text, and a last
line without an end. -/
def crooked : Bytes :=
  Utf8.encode "#!/bin/sh\r\nX=1\r\n\t#!/bin/sh \n" ++ [0xFF, 0x0A] ++ Utf8.encode "echo $X"

/-- A directory with one file. -/
def shelf (octets : Bytes) : Host :=
  { folder with volume := ⟨[([Utf8.encode "rc"], .file octets 0o600)]⟩ }

theorem read_shelf (octets : Bytes) : (shelf octets).read (Path.ofText "rc") = .ok octets := rfl

theorem ofFile_regenerates_crooked :
    ∃ script,
      ofFile (shelf crooked) (Path.ofText "rc") "/bin/sh" none = .ok script ∧
        script = Utf8.encode "#!/bin/sh\nX=1\n" ++ [0xFF, 0x0A] ++ Utf8.encode "echo $X\n" ∧
        ofFile (shelf script) (Path.ofText "rc") "/bin/sh" none = .ok script := by
  have oneLine : '\n' ∉ "/bin/sh".toList := by decide
  have ends : ∀ last, "/bin/sh".toList.getLast? = some last → Text.isBlank last = false := by
    rintro _ ⟨⟩
    decide
  have single : ∀ line ∈ crooked.splitOn lineFeed,
      ¬ [carriageReturn, carriageReturn] <:+ line := by decide
  obtain ⟨script, written, again⟩ := ofFile_regenerates oneLine ends (read_shelf crooked) single
  refine ⟨script, written, ?_, again (shelf script) (Path.ofText "rc") (read_shelf script)⟩
  rw [ofFile, read_shelf] at written
  rw [← Except.ok.inj written]
  decide +kernel

end ProfileShell.Script
