import ProfileShell.Proofs.Script

/-!
# Bodies of scripts

Lines that end with a line feed are taken apart into the same lines again, whatever octets
they consist of.  So the body of a script can be made piece by piece, as long as no line is
cut, and a script that was printed without exports is printed the same from itself: its
first line names the shell and is left out, and no other line changes any more.
-/

namespace ProfileShell.Script

variable {shell : String} {octets first second line : Bytes} {pieces : List Bytes}

/-! ## Lines -/

/-- Lines as they stand in a file, each with a line feed at its end. -/
def unlines (pieces : List Bytes) : Bytes :=
  pieces.flatMap (· ++ [lineFeed])

/-- What a last line lacks: nothing, if a line feed ends it already or if there is none. -/
def missingEnd (octets : Bytes) : Bytes :=
  if octets = [] ∨ octets.getLast? = some lineFeed then [] else [lineFeed]

private theorem missingEnd_cons_cons (octet second : UInt8) (rest : Bytes) :
    missingEnd (octet :: second :: rest) = missingEnd (second :: rest) := by
  simp [missingEnd]

private theorem missingEnd_lineFeed_cons (rest : Bytes) :
    missingEnd (lineFeed :: rest) = missingEnd rest := by
  cases rest with
  | nil => rfl
  | cons second others => exact missingEnd_cons_cons lineFeed second others

private theorem missingEnd_cons_of_ne_nil {rest : Bytes} (more : rest ≠ []) (octet : UInt8) :
    missingEnd (octet :: rest) = missingEnd rest := by
  cases rest with
  | nil => exact absurd rfl more
  | cons second others => exact missingEnd_cons_cons octet second others

theorem lines_line_append (inside : lineFeed ∉ line) (rest : Bytes) :
    lines (line ++ lineFeed :: rest) = line :: lines rest := by
  induction line with
  | nil => exact lines_lineFeed_cons rest
  | cons octet others ih =>
      rw [List.mem_cons, not_or] at inside
      exact lines_cons_of_cons (Ne.symm inside.1) (ih inside.2)

theorem lines_unlines_append (inside : ∀ line ∈ pieces, lineFeed ∉ line) (rest : Bytes) :
    lines (unlines pieces ++ rest) = pieces ++ lines rest := by
  induction pieces with
  | nil => rfl
  | cons line others ih =>
      obtain ⟨here, later⟩ := List.forall_mem_cons.mp inside
      have taken := lines_line_append here (unlines others ++ rest)
      rw [ih later] at taken
      simpa [unlines] using taken

theorem lines_unlines (inside : ∀ line ∈ pieces, lineFeed ∉ line) :
    lines (unlines pieces) = pieces := by
  have taken := lines_unlines_append inside []
  rw [List.append_nil] at taken
  exact taken.trans (List.append_nil pieces)

theorem unlines_lines (octets : Bytes) :
    unlines (lines octets) = octets ++ missingEnd octets := by
  induction octets with
  | nil => rfl
  | cons octet rest ih =>
      by_cases ends : octet = lineFeed
      · subst ends
        rw [lines_lineFeed_cons, missingEnd_lineFeed_cons, List.cons_append, ← ih]
        rfl
      · cases found : lines rest with
        | nil =>
            rw [found] at ih
            obtain ⟨rfl, -⟩ := List.append_eq_nil_iff.mp ih.symm
            simp [lines_cons_of_nil ends found, unlines, missingEnd, ends]
        | cons line more =>
            have filled : rest ≠ [] := by
              rintro rfl
              cases found
            rw [lines_cons_of_cons ends found, missingEnd_cons_of_ne_nil filled,
              List.cons_append, ← ih, found]
            rfl

theorem lineFeed_notMem_of_mem_lines (member : line ∈ lines octets) : lineFeed ∉ line := by
  induction octets generalizing line with
  | nil => cases member
  | cons octet rest ih =>
      by_cases ends : octet = lineFeed
      · subst ends
        rw [lines_lineFeed_cons, List.mem_cons] at member
        rcases member with rfl | later
        · exact List.not_mem_nil
        · exact ih later
      · cases found : lines rest with
        | nil =>
            rw [lines_cons_of_nil ends found, List.mem_singleton] at member
            simpa [member] using Ne.symm ends
        | cons head more =>
            rw [lines_cons_of_cons ends found, List.mem_cons] at member
            rcases member with rfl | later
            · rw [List.mem_cons, not_or]
              exact ⟨Ne.symm ends, ih (found ▸ List.mem_cons_self)⟩
            · exact ih (found ▸ List.mem_cons_of_mem _ later)

/-- Where a file is cut behind a line, its lines are those of the two parts. -/
theorem lines_append (whole : missingEnd first = []) (second : Bytes) :
    lines (first ++ second) = lines first ++ lines second := by
  have same := unlines_lines first
  rw [whole, List.append_nil] at same
  have taken := lines_unlines_append
    (fun _ member => @lineFeed_notMem_of_mem_lines first _ member) second
  rwa [same] at taken

theorem splitOn_unlines (inside : ∀ line ∈ pieces, lineFeed ∉ line) :
    (unlines pieces).splitOn lineFeed = pieces ++ [[]] := by
  induction pieces with
  | nil => rfl
  | cons line others ih =>
      obtain ⟨here, later⟩ := List.forall_mem_cons.mp inside
      have shape : unlines (line :: others) = line ++ lineFeed :: unlines others := by
        simp [unlines]
      rw [shape, List.splitOn_append_cons_self_of_not_mem here, ih later, List.cons_append]

theorem mem_splitOn_of_mem_lines (member : line ∈ lines octets) :
    line ∈ octets.splitOn lineFeed := by
  rw [lines_eq_splitOn] at member
  unfold dropEmptyEnd at member
  split at member
  · exact List.dropLast_subset _ member
  · exact member

/-! ## Lines of the body -/

theorem dropCarriageReturn_of_ne (other : line.getLast? ≠ some carriageReturn) :
    dropCarriageReturn line = line :=
  if_neg other

theorem map_dropCarriageReturn (noReturn : ∀ line ∈ pieces, line.getLast? ≠ some carriageReturn) :
    pieces.map dropCarriageReturn = pieces :=
  (List.map_congr_left fun line member => dropCarriageReturn_of_ne (noReturn line member)).trans
    (List.map_id pieces)

private theorem dropCarriageReturn_subset (line : Bytes) : dropCarriageReturn line ⊆ line := by
  unfold dropCarriageReturn
  split
  · exact List.dropLast_subset line
  · exact List.Subset.refl line

theorem namesShell_eq_false_iff :
    namesShell shell line = false ↔ Text.trim (Utf8.lossy line) ≠ "#!" ++ shell :=
  beq_eq_false_iff_ne

private theorem namesShell_nil (shell : String) : namesShell shell [] = false := by
  rw [namesShell_eq_false_iff]
  intro same
  have characters := congrArg String.toList same
  rw [String.toList_append] at characters
  cases characters

theorem body_eq_unlines (shell : String) (octets : Bytes) :
    body shell octets = unlines (bodyLines shell octets) := rfl

theorem mem_bodyLines (member : line ∈ bodyLines shell octets) :
    lineFeed ∉ line ∧ namesShell shell line = false := by
  obtain ⟨mapped, kept⟩ := List.mem_filter.mp member
  obtain ⟨original, listed, rfl⟩ := List.mem_map.mp mapped
  refine ⟨fun inside => ?_, by simpa using kept⟩
  exact lineFeed_notMem_of_mem_lines listed (dropCarriageReturn_subset original inside)

theorem bodyLines_append (whole : missingEnd first = []) (second : Bytes) :
    bodyLines shell (first ++ second) = bodyLines shell first ++ bodyLines shell second := by
  rw [bodyLines, lines_append whole, List.map_append, List.filter_append]
  rfl

theorem bodyLines_of_plain
    (plain : ∀ line ∈ lines octets, line.getLast? ≠ some carriageReturn ∧
      namesShell shell line = false) : bodyLines shell octets = lines octets := by
  rw [bodyLines, map_dropCarriageReturn fun line member => (plain line member).1,
    List.filter_eq_self]
  intro line member
  simp [(plain line member).2]

/-- Ahead of the body of a script stand its header lines, whatever the body says; and the
body of two parts, the first of which ends with a whole line, is the bodies of the parts.
No line of a body names the shell.  A file without carriage returns at the ends of its lines
and without such a line is its own body, up to the end of its last line. -/
theorem body_piecewise (shell : String) :
    (∀ (host : Host) (path : Path) (exports : Option Environ) (octets : Bytes),
        host.read path = .ok octets →
        ofFile host path shell exports =
          .ok ((header shell exports).flatMap (fun line => Utf8.encode line ++ [lineFeed])
            ++ body shell octets)) ∧
      (∀ first second : Bytes, first = [] ∨ first.getLast? = some lineFeed →
        body shell (first ++ second) = body shell first ++ body shell second) ∧
      (∀ octets : Bytes, ∀ line ∈ (body shell octets).splitOn lineFeed,
        Text.trim (Utf8.lossy line) ≠ "#!" ++ shell) ∧
      ∀ octets : Bytes,
        (∀ line ∈ octets.splitOn lineFeed, line.getLast? ≠ some carriageReturn) →
        (∀ line ∈ octets.splitOn lineFeed, Text.trim (Utf8.lossy line) ≠ "#!" ++ shell) →
        body shell octets =
          octets ++ if octets = [] ∨ octets.getLast? = some lineFeed then [] else [lineFeed] := by
  refine ⟨?_, ?_, ?_, ?_⟩
  · intro host path exports octets read
    rw [ofFile, read]
    rfl
  · intro first second whole
    rw [body_eq_unlines, bodyLines_append (if_pos whole)]
    exact List.flatMap_append
  · intro octets line member
    have inside : ∀ line ∈ bodyLines shell octets, lineFeed ∉ line :=
      fun line listed => (mem_bodyLines listed).1
    rw [body_eq_unlines, splitOn_unlines inside, List.mem_append, List.mem_singleton] at member
    rcases member with listed | rfl
    · exact namesShell_eq_false_iff.mp (mem_bodyLines listed).2
    · exact namesShell_eq_false_iff.mp (namesShell_nil shell)
  · intro octets noReturn nameless
    have plain : ∀ line ∈ lines octets, line.getLast? ≠ some carriageReturn ∧
        namesShell shell line = false := by
      intro line listed
      have member := mem_splitOn_of_mem_lines listed
      exact ⟨noReturn line member, namesShell_eq_false_iff.mpr (nameless line member)⟩
    rw [body_eq_unlines, bodyLines_of_plain plain]
    exact unlines_lines octets

/-- A part with a line that names the shell, and behind it one that is neither text nor ends
with a line feed. -/
theorem body_piecewise_joined :
    let first := Utf8.encode "A=1\r\n #!/bin/sh\n"
    let second : Bytes := [0xC3, 0x0A, 0x58]
    body "/bin/sh" (first ++ second) = body "/bin/sh" first ++ body "/bin/sh" second ∧
      body "/bin/sh" second = second ++ [lineFeed] ∧
      ∀ line ∈ (body "/bin/sh" first).splitOn lineFeed,
        Text.trim (Utf8.lossy line) ≠ "#!" ++ "/bin/sh" := by
  intro first second
  obtain ⟨_, joined, nameless, plain⟩ := body_piecewise "/bin/sh"
  refine ⟨joined first second (.inr (by decide)), ?_, nameless first⟩
  exact plain second (by decide) (by decide +kernel)

end ProfileShell.Script
