import Mathlib.Data.List.Induction
import ProfileShell.CommandLine.Block
import ProfileShell.Proofs.Text.Utf8.Ascii

/-!
# Reading what was typed

However the blocks of a request are ordered, reading them gives what the request says.
A reader is followed block by block.  The value of the last block may still be pending,
so what is tracked is the command line that the reader would have once it is settled.
-/

namespace ProfileShell.CommandLine

variable {reader : Reader} {line : CommandLine} {given : List Flag} {block : Block}
variable {blocks : List Block} {request : Request}

/-! ## What a reader does with one argument -/

namespace Reader

theorem read_escape (reader : Reader) (rest : List Bytes) :
    reader.read (escape :: rest) = reader.finish rest := rfl

theorem read_letters {octet : UInt8} {more : Bytes} {next : Reader}
    (noDash : octet ≠ dash) (read : reader.letters (octet :: more) = .ok next)
    (rest : List Bytes) :
    reader.read ((dash :: octet :: more) :: rest) = next.read rest := by
  rw [dash, Reader.read, read]
  · intro isDash
    simp_all [dash]
  · intro isDash
    simp_all [dash]

/-- An argument that is not read as flags is the value of the flag before it, if that
still needs one. -/
theorem read_value {flag : Flag} {value : Bytes}
    (plain : value = [dash] ∨ value.head? ≠ some dash)
    (awaited : reader.pending = some (flag, none)) (rest : List Bytes) :
    reader.read (value :: rest) =
      { reader with pending := some (flag, some value) }.read rest := by
  conv => lhs; unfold read
  split
  · simp [dash] at plain
  · simp [dash] at plain
  · simp [dash] at plain
  · rw [awaited]

theorem read_positional {value : Bytes} (plain : value.head? ≠ some dash)
    (ready : ∀ flag, reader.pending ≠ some (flag, none)) (rest : List Bytes) :
    reader.read (value :: rest) = reader.finish (value :: rest) := by
  unfold read
  split
  · simp [dash] at plain
  · simp [dash] at plain
  · simp [dash] at plain
  · split
    · next flag awaited => exact absurd awaited (ready flag)
    · rfl

theorem ofLetter?_letterOctet (flag : Flag) :
    Flag.ofLetter? (Char.ofNat (Block.letterOctet flag).toNat) = some flag := by
  cases flag <;> rfl

theorem letterOctet_ne_dash (flag : Flag) : Block.letterOctet flag ≠ dash := by
  cases flag <;> decide

end Reader

/-! ## What a reader does with one block -/

/-- The value that the reader gives to the flag of a block. -/
def Block.value (block : Block) : Option Bytes :=
  if block.flag.arity = .none then none else some block.octets

private theorem assign_block (typable : block.IsTypable) (line : CommandLine) :
    line.assign block.flag block.value = .ok (block.apply line) := by
  cases block with
  | config path =>
      have nonempty : path ≠ [] := by simpa using typable.1
      simp [assign, Block.flag, Block.value, Block.apply, Block.octets, Flag.arity, nonempty]
  | interactive choice =>
      cases choice <;>
        simp [assign, Block.flag, Block.value, Block.apply, Block.octets, Flag.arity,
          Utf8.decode?_encode]
  | _ =>
      simp [assign, Block.flag, Block.value, Block.apply, Block.octets, Flag.arity, decode,
        Utf8.decode?_encode, Except.map]

namespace Reader

/-- The flags that were given once one more is. -/
def noted (given : List Flag) (flag : Flag) : List Flag :=
  if given.contains flag then given else given ++ [flag]

private theorem mem_noted {flag other : Flag} (member : other ∈ noted given flag) :
    other ∈ given ∨ other = flag := by
  unfold noted at member
  split at member
  · exact .inl member
  · simpa using member

theorem check_give (typable : block.IsTypable)
    (fresh : block.flag ∈ given → block.flag.isRepeatable) :
    check (give ⟨line, given, none⟩ block.flag block.value) =
      .ok ⟨block.apply line, noted given block.flag, none⟩ := by
  have supplied : (block.flag.arity = .one && block.value.isNone) = false := by
    unfold Block.value
    cases block.flag.arity <;> simp
  have notRepeated : (given.contains block.flag && !block.flag.isRepeatable) = false := by
    by_cases member : block.flag ∈ given <;> simp [member, fresh]
  rw [give, supplied, if_neg Bool.false_ne_true, notRepeated, if_neg Bool.false_ne_true,
    assign_block typable]
  unfold noted
  split <;> rfl

/-- What a reader says once it is settled.  It does not wait for a value. -/
structure Settles (reader : Reader) (line : CommandLine) (given : List Flag) : Prop where
  settle : check reader.settle = .ok ⟨line, given, none⟩
  ready : ∀ flag, reader.pending ≠ some (flag, none)

theorem settles_settled (line : CommandLine) (given : List Flag) :
    Settles ⟨line, given, none⟩ line given :=
  ⟨rfl, nofun⟩

theorem Settles.take (settles : reader.Settles line given) (typable : block.IsTypable)
    (fresh : block.flag ∈ given → block.flag.isRepeatable) :
    reader.take block.flag block.value =
      .ok ⟨block.apply line, noted given block.flag, none⟩ := by
  rw [Reader.take, settles.settle]
  exact check_give typable fresh

theorem Settles.read_block (settles : reader.Settles line given) (typable : block.IsTypable)
    (fresh : block.flag ∈ given → block.flag.isRepeatable) :
    ∃ next : Reader, next.Settles (block.apply line) (noted given block.flag) ∧
      ∀ rest, reader.read (block.arguments ++ rest) = next.read rest := by
  have taken := settles.take typable fresh
  unfold Block.value at taken
  unfold Block.arguments
  cases arity : block.flag.arity with
  | none =>
      rw [if_pos arity] at taken
      refine ⟨_, settles_settled _ _, fun rest => ?_⟩
      apply read_letters (letterOctet_ne_dash _)
      rw [letters, ofLetter?_letterOctet]
      simp only [arity, taken]
      rfl
  | optional =>
      rw [if_neg (by simp [arity])] at taken
      refine ⟨_, settles_settled _ _, fun rest => ?_⟩
      apply read_letters (letterOctet_ne_dash _)
      rw [letters, ofLetter?_letterOctet]
      simp only [arity, taken, if_true]
  | one =>
      -- The value stands in an argument of its own, so it is given only on settling.
      refine ⟨⟨line, given, some (block.flag, some block.octets)⟩, ⟨?_, by simp⟩, ?_⟩
      · rw [← check_give typable fresh, Block.value, if_neg (by simp [arity])]
        rfl
      · intro rest
        have awaiting : reader.letters [Block.letterOctet block.flag] =
            .ok ⟨line, given, some (block.flag, none)⟩ := by
          rw [letters, ofLetter?_letterOctet]
          simp only [arity, settles.settle]
          rfl
        rw [List.cons_append, List.singleton_append,
          read_letters (letterOctet_ne_dash _) awaiting]
        exact read_value typable.2 rfl rest

theorem Settles.read_blocks (settles : reader.Settles line given)
    (typable : ∀ block ∈ blocks, block.IsTypable)
    (fresh : ∀ block ∈ blocks, block.flag ∈ given → block.flag.isRepeatable)
    (distinct : blocks.Pairwise fun first second =>
      first.flag = second.flag → first.flag.isRepeatable) :
    ∃ (next : Reader) (met : List Flag), next.Settles (blocks.foldl Block.apply line) met ∧
      ∀ rest, reader.read (blocks.flatMap Block.arguments ++ rest) = next.read rest := by
  induction blocks generalizing reader line given with
  | nil => exact ⟨reader, given, settles, fun _ => rfl⟩
  | cons block later ih =>
      rw [List.pairwise_cons] at distinct
      obtain ⟨next, nextSettles, readBlock⟩ :=
        settles.read_block (typable block List.mem_cons_self) (fresh block List.mem_cons_self)
      have stillFresh : ∀ other ∈ later, other.flag ∈ noted given block.flag →
          other.flag.isRepeatable := by
        intro other listed member
        rcases mem_noted member with before | same
        · exact fresh other (List.mem_cons_of_mem _ listed) before
        · rw [same]
          exact distinct.1 other listed same.symm
      obtain ⟨last, met, lastSettles, readLater⟩ :=
        ih nextSettles (fun other listed => typable other (List.mem_cons_of_mem _ listed))
          stillFresh distinct.2
      refine ⟨last, met, lastSettles, fun rest => ?_⟩
      rw [List.flatMap_cons, List.append_assoc, readBlock, readLater]

private theorem mapM_decode (arguments : List String) :
    (arguments.map Utf8.encode).mapM decode = .ok arguments := by
  induction arguments with
  | nil => rfl
  | cons argument later ih =>
      rw [List.map_cons, List.mapM_cons, ih, decode, Utf8.decode?_encode]
      rfl

theorem Settles.finish (settles : reader.Settles line given) (arguments : List String) :
    reader.finish (arguments.map Utf8.encode) = .ok { line with arguments := arguments } := by
  rw [Reader.finish, settles.settle, mapM_decode]
  rfl

end Reader

/-! ## What blocks say in any order -/

private theorem apply_comm {first second : Block} (distinct : first.flag ≠ second.flag)
    (line : CommandLine) :
    second.apply (first.apply line) = first.apply (second.apply line) := by
  cases first <;> cases second <;> first | rfl | exact absurd rfl distinct

/-- Whether a block is none of the profiles. -/
def Block.isSetting (block : Block) : Bool :=
  block.profile?.isNone

/-- A command line with profiles behind its own. -/
def withProfiles (line : CommandLine) (names : List String) : CommandLine :=
  { line with profiles := line.profiles ++ names }

private theorem apply_withProfiles (setting : block.isSetting) (line : CommandLine)
    (names : List String) :
    block.apply (line.withProfiles names) = (block.apply line).withProfiles names := by
  cases block with
  | profile name => simp [Block.isSetting, Block.profile?] at setting
  | _ => rfl

/-- Profiles and settings do not get in each other's way. -/
theorem foldl_apply (blocks : List Block) (line : CommandLine) :
    blocks.foldl Block.apply line =
      ((blocks.filter Block.isSetting).foldl Block.apply line).withProfiles
        (blocks.filterMap Block.profile?) := by
  induction blocks using List.reverseRecOn with
  | nil => simp [withProfiles]
  | append_singleton blocks block ih =>
      rw [List.foldl_append, ih, List.filter_append, List.filterMap_append, List.foldl_append]
      cases kind : block.profile? with
      | none =>
          have setting : block.isSetting := by simp [Block.isSetting, kind]
          simp [kind, setting, apply_withProfiles]
      | some name =>
          have setting : block.isSetting = false := by simp [Block.isSetting, kind]
          have isProfile : block = .profile name := by
            cases block <;> simp_all [Block.profile?]
          simp [isProfile, Block.isSetting, Block.profile?, Block.apply, withProfiles]

theorem flag_of_block? {flag : Flag} (asked : request.block? flag = some block) :
    block.flag = flag := by
  cases flag <;>
    simp only [Request.block?, Option.map_eq_some_iff, Option.ite_none_right_eq_some,
      Option.some.injEq, reduceCtorEq] at asked
  all_goals
    obtain ⟨_, _, rfl⟩ := asked
    rfl

theorem block?_of_mem_settings (member : block ∈ request.settings) :
    request.block? block.flag = some block := by
  obtain ⟨flag, _, asked⟩ := List.mem_filterMap.mp member
  rwa [flag_of_block? asked]

theorem isSetting_of_mem_settings (member : block ∈ request.settings) : block.isSetting := by
  have asked := block?_of_mem_settings member
  cases block with
  | profile name => simp [Block.flag, Request.block?] at asked
  | _ => rfl

private theorem settings_distinct (request : Request) :
    request.settings.Pairwise fun first second => first.flag ≠ second.flag := by
  rw [Request.settings, List.pairwise_filterMap]
  have distinct : Flag.all.Pairwise (· ≠ ·) := by decide
  apply distinct.imp
  intro first second apart block asked other otherAsked
  rwa [flag_of_block? asked, flag_of_block? otherAsked]

/-- What a command line says once it also says what a request says of one flag. -/
def Request.put (request : Request) (line : CommandLine) : Flag → CommandLine
  | .config => { line with config := request.config.or line.config }
  | .shell => { line with shell := request.shell.getD line.shell }
  | .command => { line with command := request.command.getD line.command }
  | .logFormat => { line with logFormat := request.logFormat.or line.logFormat }
  | .logSink => { line with logSink := request.logSink.or line.logSink }
  | .interactive => { line with interactive := request.interactive.getD line.interactive }
  | .login => { line with login := request.login || line.login }
  | .orphan => { line with orphan := request.orphan || line.orphan }
  | .generate => { line with generate := request.generate || line.generate }
  | .debug => { line with debug := request.debug || line.debug }
  | .version => { line with version := request.version || line.version }
  | .changelog => { line with changelog := request.changelog || line.changelog }
  | .profile | .help => line

private theorem elim_block? (request : Request) (line : CommandLine) (flag : Flag) :
    (request.block? flag).elim line (Block.apply line) = request.put line flag := by
  obtain ⟨config, shell, profiles, command, logFormat, logSink, interactive, login, orphan,
    generate, debug, version, changelog, arguments⟩ := request
  cases flag with
  | config => cases config <;> rfl
  | shell => cases shell <;> rfl
  | command => cases command <;> rfl
  | logFormat => cases logFormat <;> rfl
  | logSink => cases logSink <;> rfl
  | interactive => cases interactive <;> rfl
  | login => cases login <;> rfl
  | orphan => cases orphan <;> rfl
  | generate => cases generate <;> rfl
  | debug => cases debug <;> rfl
  | version => cases version <;> rfl
  | changelog => cases changelog <;> rfl
  | profile | help => rfl

private theorem foldl_settings (request : Request) :
    request.settings.foldl Block.apply .empty =
      { request.line with profiles := [], arguments := [] } := by
  have puts : request.settings.foldl Block.apply .empty = Flag.all.foldl request.put .empty := by
    rw [Request.settings, List.foldl_filterMap]
    congr
    funext line flag
    rw [← elim_block?]
    cases request.block? flag <;> rfl
  rw [puts]
  simp [Flag.all, Request.put, Request.line, empty]

private theorem filter_isSetting_of_typed (typed : request.IsTypedAs blocks) :
    (blocks.filter Block.isSetting).Perm request.settings := by
  have settings : request.settings.filter Block.isSetting = request.settings :=
    List.filter_eq_self.mpr fun _ member => isSetting_of_mem_settings member
  have profiles : (request.profiles.map Block.profile).filter Block.isSetting = [] := by
    simp [List.filter_eq_nil_iff, Block.isSetting, Block.profile?]
  have permuted := typed.1.filter Block.isSetting
  rwa [List.filter_append, settings, profiles, List.append_nil] at permuted

private theorem foldl_of_typed (typed : request.IsTypedAs blocks) :
    blocks.foldl Block.apply .empty = { request.line with arguments := [] } := by
  have permuted := filter_isSetting_of_typed typed
  have settings : (blocks.filter Block.isSetting).foldl Block.apply .empty =
      request.settings.foldl Block.apply .empty := by
    apply permuted.foldl_eq'
    intro first firstListed second secondListed line
    by_cases same : first.flag = second.flag
    · have asked := block?_of_mem_settings (permuted.mem_iff.mp firstListed)
      rw [same, block?_of_mem_settings (permuted.mem_iff.mp secondListed)] at asked
      cases asked
      rfl
    · exact apply_comm same line
  rw [foldl_apply, settings, foldl_settings, typed.2]
  rfl

/-- No flag is typed twice, the one for profiles apart. -/
theorem distinct_of_typed (typed : request.IsTypedAs blocks) :
    blocks.Pairwise fun first second => first.flag = second.flag → first.flag.isRepeatable := by
  have symmetric : ∀ {first second : Block},
      (first.flag = second.flag → first.flag.isRepeatable) →
        second.flag = first.flag → second.flag.isRepeatable := by
    intro first second repeatable same
    rw [same]
    exact repeatable same.symm
  rw [typed.1.pairwise_iff symmetric, List.pairwise_append]
  refine ⟨?_, ?_, ?_⟩
  · apply (settings_distinct request).imp
    intro first second apart same
    exact absurd same apart
  · rw [List.pairwise_map]
    exact List.pairwise_of_forall fun _ _ _ => rfl
  · intro setting listed other isProfile same
    obtain ⟨name, _, rfl⟩ := List.mem_map.mp isProfile
    rw [same]
    rfl

/-- A request that is typed in any order is read back, whatever its positional arguments
are.  The escape in front of them may be left out if the first one cannot be mistaken for
a flag or for the value of one. -/
theorem parse_typed (request : Request) (blocks : List Block)
    (typed : request.IsTypedAs blocks) (typable : ∀ block ∈ blocks, block.IsTypable) :
    parse (blocks.flatMap Block.arguments ++ escape :: request.arguments.map Utf8.encode) =
        .ok request.line ∧
      ∀ first ∈ request.arguments.head?, first.toList.head? ≠ some '-' →
        parse (blocks.flatMap Block.arguments ++ request.arguments.map Utf8.encode) =
          .ok request.line := by
  obtain ⟨last, given, settles, read⟩ :=
    (Reader.settles_settled .empty []).read_blocks typable nofun (distinct_of_typed typed)
  have finished := settles.finish request.arguments
  rw [foldl_of_typed typed] at finished
  constructor
  · rw [parse, Reader.start, read, Reader.read_escape]
    exact finished
  · intro first isFirst noDash
    rw [parse, Reader.start, read]
    cases arguments : request.arguments with
    | nil => simp [arguments] at isFirst
    | cons argument later =>
        have same : argument = first := by simpa [arguments] using isFirst
        have plain : (Utf8.encode argument).head? ≠ some Reader.dash := by
          rw [same]
          exact Utf8.head?_encode_ne (by decide) noDash
        rw [List.map_cons, Reader.read_positional plain settles.ready, ← List.map_cons,
          ← arguments]
        exact finished

/-- Blocks out of order, and a positional argument that looks like a flag. -/
theorem parse_typed_outOfOrder :
    let request : Request :=
      { config := some (Utf8.encode "-"), shell := none, profiles := ["work", "go"]
        command := some "", logFormat := some "json", logSink := none
        interactive := some false, login := true, orphan := false, generate := false
        debug := true, version := false, changelog := false, arguments := ["script", "-l", "--"] }
    let blocks : List Block :=
      [ .profile "work", .debug, .interactive false, .logFormat "json", .login,
        .profile "go", .command "", .config (Utf8.encode "-") ]
    parse (blocks.flatMap Block.arguments ++ escape :: request.arguments.map Utf8.encode) =
        .ok request.line ∧
      parse (blocks.flatMap Block.arguments ++ request.arguments.map Utf8.encode) =
        .ok request.line := by
  intro request blocks
  have typed : request.IsTypedAs blocks := by decide
  have typable : ∀ block ∈ blocks, block.IsTypable := by decide
  obtain ⟨escaped, bare⟩ := parse_typed request blocks typed typable
  exact ⟨escaped, bare "script" rfl (by decide)⟩

end ProfileShell.CommandLine
