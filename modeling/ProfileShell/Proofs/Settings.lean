import ProfileShell.Settings

/-!
# What a debug variable may decide

A debug run takes from a variable what its command line leaves open, and nothing else.
The variable is cut at its first colon.  Each part counts for one setting, and only if
the flag of that setting is missing: a part that does not count decides nothing and
cannot fail.
-/

namespace ProfileShell.Settings

/-- What the variable says in front of its first colon.  A missing variable says no more
than an empty one. -/
def formatPart (debugText : Option String) : String :=
  String.ofList ((debugText.getD "").toList.takeWhile (· != ':'))

/-- What the variable says behind its first colon, and nothing without a colon. -/
def sinkPart (debugText : Option String) : String :=
  String.ofList ((debugText.getD "").toList.dropWhile (· != ':')).tail

/-- The text that counts for a setting: that of its flag, and for lack of one, in a debug
run, what the variable says for it, unless that is blank. -/
def consulted (line : CommandLine) (flag : Option String) (part : String) :
    Option String :=
  flag.or (if line.debug = true ∧ Text.trim part ≠ "" then some (Text.trim part) else none)

variable {line : CommandLine} {first second : Option String}

/-! ## The parts of the variable -/

theorem nonBlank?_eq (characters : List Char) :
    DebugDefaults.nonBlank? characters =
      if Text.trim (String.ofList characters) ≠ "" then
        some (Text.trim (String.ofList characters)) else none := by
  unfold DebugDefaults.nonBlank?
  by_cases blank : Text.trim (String.ofList characters) = "" <;> simp [blank]

private theorem drop_length_takeWhile (characters : List Char) :
    characters.drop ((characters.takeWhile (· != ':')).length + 1) =
      (characters.dropWhile (· != ':')).tail := by
  induction characters with
  | nil => rfl
  | cons character rest ih =>
      by_cases colon : character = ':'
      · simp [colon]
      · simpa [colon] using ih

private theorem ofText_eq (text : String) :
    DebugDefaults.ofText text =
      ⟨DebugDefaults.nonBlank? (formatPart (some text)).toList,
        DebugDefaults.nonBlank? (sinkPart (some text)).toList⟩ := by
  rw [DebugDefaults.ofText, drop_length_takeWhile]
  simp [formatPart, sinkPart]

private theorem defaults_eq (line : CommandLine) (debugText : Option String) :
    defaults line debugText =
      if line.debug then
        ⟨DebugDefaults.nonBlank? (formatPart debugText).toList,
          DebugDefaults.nonBlank? (sinkPart debugText).toList⟩
      else .none := by
  unfold defaults
  cases debugText with
  | none => rfl
  | some text => rw [Option.elim_some, ofText_eq]

theorem format_consulted (line : CommandLine) (debugText : Option String) :
    (line.logFormat <|> (defaults line debugText).format) =
      consulted line line.logFormat (formatPart debugText) := by
  rw [defaults_eq, consulted, Option.orElse_eq_orElse, Option.orElse_eq_or]
  cases line.debug with
  | false => rfl
  | true => simp [nonBlank?_eq]

theorem sink_consulted (line : CommandLine) (debugText : Option String) :
    (line.logSink <|> (defaults line debugText).sink) =
      consulted line line.logSink (sinkPart debugText) := by
  rw [defaults_eq, consulted, Option.orElse_eq_orElse, Option.orElse_eq_or]
  cases line.debug with
  | false => rfl
  | true => simp [nonBlank?_eq]

/-! ## What the settings depend on -/

/-- Where the same texts count, the settings are the same. -/
theorem ofCommandLine_congr
    (format : consulted line line.logFormat (formatPart first) =
      consulted line line.logFormat (formatPart second))
    (sink : consulted line line.logSink (sinkPart first) =
      consulted line line.logSink (sinkPart second)) :
    ofCommandLine line first = ofCommandLine line second := by
  have sameFormat : chosenFormat line (defaults line first) =
      chosenFormat line (defaults line second) := by
    unfold chosenFormat
    rw [format_consulted, format_consulted, format]
  have sameSink : chosenSink line (defaults line first) =
      chosenSink line (defaults line second) := by
    unfold chosenSink
    rw [sink_consulted, sink_consulted, sink]
  rw [ofCommandLine, ofCommandLine, sameFormat, sameSink]

theorem consulted_of_not_debug (quiet : line.debug = false) (flag : Option String)
    (part : String) : consulted line flag part = flag := by
  simp [consulted, quiet]

theorem consulted_of_isSome {flag : Option String} (given : flag.isSome = true)
    (line : CommandLine) (part : String) : consulted line flag part = flag := by
  obtain ⟨text, rfl⟩ := Option.isSome_iff_exists.mp given
  rfl

theorem consulted_congr {part other : String} (same : Text.trim part = Text.trim other)
    (line : CommandLine) (flag : Option String) :
    consulted line flag part = consulted line flag other := by
  rw [consulted, consulted, same]

/-! ## Why settings cannot be understood -/

theorem chosenFormat_eq_error_iff {debugText : Option String} {error : SettingsError} :
    chosenFormat line (defaults line debugText) = .error error ↔
      ∃ name, consulted line line.logFormat (formatPart debugText) = some name ∧
        Log.Format.ofName? name = none ∧ error = .unknownFormat name := by
  rw [chosenFormat, format_consulted]
  cases consulted line line.logFormat (formatPart debugText) with
  | none => simp
  | some name => cases known : Log.Format.ofName? name <;> simp [known, eq_comm]

theorem chosenSink_eq_error_iff {debugText : Option String} {error : SettingsError} :
    chosenSink line (defaults line debugText) = .error error ↔
      ∃ text, consulted line line.logSink (sinkPart debugText) = some text ∧
        Log.Sink.ofText? text = none ∧ error = .emptySink := by
  rw [chosenSink, sink_consulted]
  cases consulted line line.logSink (sinkPart debugText) with
  | none => simp
  | some text => cases read : Log.Sink.ofText? text <;> simp [read, eq_comm]

/-- A format fails ahead of a sink. -/
theorem ofCommandLine_eq_error_iff {debugText : Option String} {error : SettingsError} :
    ofCommandLine line debugText = .error error ↔
      chosenFormat line (defaults line debugText) = .error error ∨
        (∀ fault, chosenFormat line (defaults line debugText) ≠ .error fault) ∧
          chosenSink line (defaults line debugText) = .error error := by
  unfold ofCommandLine
  dsimp only
  cases chosenFormat line (defaults line debugText) with
  | error fault => simp
  | ok format =>
      cases chosenSink line (defaults line debugText) <;> simp

/-- The variable decides nothing without debugging, and nothing for a setting that has a
flag.  What it says for a setting without one counts up to the blanks around it.  Only a
text that counts can be the reason for an error: an unknown name of a format, or else a
sink without a path. -/
theorem ofCommandLine_debugText (line : CommandLine) (first second : Option String) :
    (line.debug = false → ofCommandLine line first = ofCommandLine line second) ∧
      (line.logFormat.isSome = true → line.logSink.isSome = true →
        ofCommandLine line first = ofCommandLine line second) ∧
      (line.logFormat.isSome = true →
        Text.trim (sinkPart first) = Text.trim (sinkPart second) →
          ofCommandLine line first = ofCommandLine line second) ∧
      (line.logSink.isSome = true →
        Text.trim (formatPart first) = Text.trim (formatPart second) →
          ofCommandLine line first = ofCommandLine line second) ∧
      ∀ error, ofCommandLine line first = .error error ↔
        (∃ name, consulted line line.logFormat (formatPart first) = some name ∧
          Log.Format.ofName? name = none ∧ error = .unknownFormat name) ∨
        (∀ name, consulted line line.logFormat (formatPart first) = some name →
          Log.Format.ofName? name ≠ none) ∧
        ∃ text, consulted line line.logSink (sinkPart first) = some text ∧
          Log.Sink.ofText? text = none ∧ error = .emptySink := by
  refine ⟨?_, ?_, ?_, ?_, ?_⟩
  · intro quiet
    apply ofCommandLine_congr
    · rw [consulted_of_not_debug quiet, consulted_of_not_debug quiet]
    · rw [consulted_of_not_debug quiet, consulted_of_not_debug quiet]
  · intro format sink
    apply ofCommandLine_congr
    · rw [consulted_of_isSome format, consulted_of_isSome format]
    · rw [consulted_of_isSome sink, consulted_of_isSome sink]
  · intro format same
    apply ofCommandLine_congr
    · rw [consulted_of_isSome format, consulted_of_isSome format]
    · exact consulted_congr same line line.logSink
  · intro sink same
    apply ofCommandLine_congr
    · exact consulted_congr same line line.logFormat
    · rw [consulted_of_isSome sink, consulted_of_isSome sink]
  · intro error
    have known : (∀ fault, chosenFormat line (defaults line first) ≠ .error fault) ↔
        ∀ name, consulted line line.logFormat (formatPart first) = some name →
          Log.Format.ofName? name ≠ none := by
      simp only [ne_eq, chosenFormat_eq_error_iff]
      exact ⟨fun fine name counts unknown => fine _ ⟨name, counts, unknown, rfl⟩,
        fun fine _ ⟨name, counts, unknown, _⟩ => fine name counts unknown⟩
    rw [ofCommandLine_eq_error_iff, chosenFormat_eq_error_iff, chosenSink_eq_error_iff, known]

/-- A command line with some log flags. -/
def logging (format sink : Option String) (debug : Bool) : CommandLine :=
  { CommandLine.empty with logFormat := format, logSink := sink, debug := debug }

theorem ofCommandLine_debugText_logging :
    ofCommandLine (logging none none false) (some "no format:>") =
        ofCommandLine (logging none none false) none ∧
      ofCommandLine (logging (some "json") (some "+") true) (some "no format:>") =
        ofCommandLine (logging (some "json") (some "+") true) none ∧
      ofCommandLine (logging (some "json") none true) (some "no format:  >>a:b ") =
        ofCommandLine (logging (some "json") none true) (some "ascii:>>a:b") ∧
      ofCommandLine (logging none (some "+") true) (some " ascii :>") =
        ofCommandLine (logging none (some "+") true) (some "ascii") ∧
      ofCommandLine (logging (some "json") none true) (some "no format: >") =
        .error .emptySink := by
  obtain ⟨quiet, _⟩ := ofCommandLine_debugText (logging none none false)
    (some "no format:>") none
  obtain ⟨_, both, _⟩ := ofCommandLine_debugText (logging (some "json") (some "+") true)
    (some "no format:>") none
  obtain ⟨_, _, ownFormat, _⟩ := ofCommandLine_debugText (logging (some "json") none true)
    (some "no format:  >>a:b ") (some "ascii:>>a:b")
  obtain ⟨_, _, _, ownSink, _⟩ := ofCommandLine_debugText (logging none (some "+") true)
    (some " ascii :>") (some "ascii")
  obtain ⟨_, _, _, _, fails⟩ := ofCommandLine_debugText (logging (some "json") none true)
    (some "no format: >") none
  refine ⟨quiet rfl, both rfl rfl, ownFormat rfl (by decide), ownSink rfl (by decide), ?_⟩
  refine (fails _).mpr (.inr ⟨?_, ">", by decide, by decide, rfl⟩)
  intro name counts
  obtain rfl : "json" = name := Option.some.inj counts
  decide +kernel

end ProfileShell.Settings
