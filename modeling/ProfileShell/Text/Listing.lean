/-!
# Texts on one line

How several texts stand on one line, and how one text stands there between double
quotes, with every backslash and every double quote behind a backslash.  Log fields and
generated `export` lines share the quoted form.  `Quoted.quote` writes it and
`Quoted.unquote?` reads it back from the front of a longer text.
-/

namespace ProfileShell.Text

/-- A list between brackets, its items separated by a comma and a space. -/
def bracketed (items : List String) : String :=
  "[" ++ ", ".intercalate items ++ "]"

/-- The items that are not empty, in order. -/
def nonEmpty (items : List String) : List String :=
  items.filter (!·.isEmpty)

end ProfileShell.Text

namespace ProfileShell.Text.Quoted

/-- A text with other characters in place of one, wherever it stands. -/
def replace (old : Char) (new : List Char) (characters : List Char) : List Char :=
  characters.flatMap fun character => if character = old then new else [character]

/-- The inside of a quoted value.  Backslashes are doubled first, so that those in front
of the quotes stay single. -/
def escape (characters : List Char) : List Char :=
  replace '"' ['\\', '"'] (replace '\\' ['\\', '\\'] characters)

/-- What becomes of one character inside a quoted value. -/
def escapeOf (character : Char) : List Char :=
  if character = '"' || character = '\\' then ['\\', character] else [character]

def quote (text : String) : String :=
  String.ofList ('"' :: escape text.toList ++ ['"'])

/-- Reads the rest of a quoted value: its text, and what follows the closing
quote.  A backslash stands for the character after it. -/
def unescape? : List Char → Option (List Char × List Char)
  | [] => none
  | '"' :: rest => some ([], rest)
  | '\\' :: character :: rest =>
    (unescape? rest).map fun (value, tail) => (character :: value, tail)
  | character :: rest =>
    (unescape? rest).map fun (value, tail) => (character :: value, tail)

/-- Reads a quoted value from the front of a text. -/
def unquote? : List Char → Option (List Char × List Char)
  | '"' :: rest => unescape? rest
  | _ => none

/-- The two replacements are one pass over the value: neither touches what the other one
has put in. -/
theorem escape_eq_flatMap (characters : List Char) :
    escape characters = characters.flatMap escapeOf := by
  unfold escape replace
  rw [List.flatMap_assoc]
  congr 1
  funext character
  by_cases backslash : character = '\\'
  · subst character
    rfl
  · by_cases quote : character = '"'
    · subst character
      rfl
    · simp [escapeOf, backslash, quote]

theorem escape_cons (character : Char) (rest : List Char) :
    escape (character :: rest) =
      if character = '"' || character = '\\' then '\\' :: character :: escape rest
      else character :: escape rest := by
  rw [escape_eq_flatMap, escape_eq_flatMap, List.flatMap_cons, escapeOf]
  split
  · rfl
  · rfl

/-- Reading a value back yields it, whatever follows. -/
theorem unescape?_escape (characters tail : List Char) :
    unescape? (escape characters ++ '"' :: tail) = some (characters, tail) := by
  induction characters with
  | nil => rfl
  | cons character rest ih =>
      by_cases special : character = '"' || character = '\\'
      · simp [escape_cons, special, unescape?, ih]
      · rw [escape_cons, if_neg special, List.cons_append, unescape?, ih]
        · rfl
        · rintro rfl
          exact special (by decide)
        · rintro other more rfl
          exact absurd (by decide) special

/-- What follows a quoted value is shorter than what it was read from. -/
theorem length_lt_of_unescape? {characters value tail : List Char}
    (read : unescape? characters = some (value, tail)) : tail.length < characters.length := by
  fun_induction unescape? characters generalizing value with
  | case1 => cases read
  | case2 rest =>
      cases read
      exact Nat.lt_succ_self _
  | case3 character rest ih =>
      obtain ⟨⟨inner, behind⟩, readRest, same⟩ := Option.map_eq_some_iff.mp read
      cases same
      have shorter := ih readRest
      simp only [List.length_cons]
      omega
  | case4 character rest _ _ ih =>
      obtain ⟨⟨inner, behind⟩, readRest, same⟩ := Option.map_eq_some_iff.mp read
      cases same
      exact Nat.lt_succ_of_lt (ih readRest)

theorem length_lt_of_unquote? {characters value tail : List Char}
    (read : unquote? characters = some (value, tail)) : tail.length < characters.length := by
  unfold unquote? at read
  split at read
  · exact Nat.lt_succ_of_lt (length_lt_of_unescape? read)
  · cases read

end ProfileShell.Text.Quoted
