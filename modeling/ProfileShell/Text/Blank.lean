/-!
# Blank characters

Trimming follows the Unicode property White_Space, so that a no-break space or
an ideographic space around a value is trimmed like a plain one.
-/

namespace ProfileShell.Text

/-- The Unicode property White_Space. -/
def isBlank (character : Char) : Bool :=
  let code := character.toNat
  (0x09 ≤ code && code ≤ 0x0D) || code == 0x20 || code == 0x85 || code == 0xA0
    || code == 0x1680 || (0x2000 ≤ code && code ≤ 0x200A)
    || code == 0x2028 || code == 0x2029 || code == 0x202F || code == 0x205F
    || code == 0x3000

/-- What is left after the leading blanks. -/
def dropBlanks (characters : List Char) : List Char :=
  characters.dropWhile isBlank

/-- What is left before the trailing blanks. -/
def dropTrailingBlanks (characters : List Char) : List Char :=
  (dropBlanks characters.reverse).reverse

/-- What stands between the outermost blanks. -/
def trimBlanks (characters : List Char) : List Char :=
  dropTrailingBlanks (dropBlanks characters)

theorem dropBlanks_eq_self {characters : List Char}
    (first : ∀ character, characters.head? = some character → isBlank character = false) :
    dropBlanks characters = characters := by
  cases characters with
  | nil => rfl
  | cons character rest =>
      have stays : isBlank character = false := first character rfl
      exact List.dropWhile_cons_of_neg (by simp [stays])

/-- What has no blank at either end is left as it is. -/
theorem trimBlanks_eq_self {characters : List Char}
    (first : ∀ character, characters.head? = some character → isBlank character = false)
    (last : ∀ character, characters.getLast? = some character → isBlank character = false) :
    trimBlanks characters = characters := by
  have back : ∀ character, characters.reverse.head? = some character →
      isBlank character = false := by
    rwa [List.head?_reverse]
  rw [trimBlanks, dropTrailingBlanks, dropBlanks_eq_self first, dropBlanks_eq_self back,
    List.reverse_reverse]

def trim (text : String) : String :=
  String.ofList (trimBlanks text.toList)

/-- The trimmed text, if anything is left of it. -/
def nonBlank? (text : String) : Option String :=
  let trimmed := trim text
  if trimmed.isEmpty then none else some trimmed

end ProfileShell.Text
