/-!
# Similar words

The Jaro similarity of two words, to suggest a known word for a mistyped one.
Characters match if they are equal and stand no farther apart than half the longer
word; the similarity is the mean of the matched share of each word and of the share
of matches that keep their order.
-/

namespace ProfileShell.Text.Similarity

/-- The positions of a word that match positions of another, each with its character.
Every position is matched with the first free one in reach. -/
def matchFrom (reach : Nat) (other : List Char) :
    Nat → List Nat → List Char → List (Nat × Nat × Char)
  | _, _, [] => []
  | position, taken, character :: rest =>
    let found := (List.range other.length).find? fun candidate =>
      candidate + reach ≥ position && candidate ≤ position + reach
        && !taken.contains candidate && other[candidate]? == some character
    match found with
    | some candidate =>
      (position, candidate, character)
        :: matchFrom reach other (position + 1) (candidate :: taken) rest
    | none => matchFrom reach other (position + 1) taken rest

/-- Whether the similarity of two words is at least a share of a hundred. -/
def reaches (percent : Nat) (left right : List Char) : Bool :=
  let reach := max left.length right.length / 2 - 1
  let pairs := matchFrom reach right 0 [] left
  let matched := pairs.length
  let inOrder := (List.range right.length).filterMap fun position =>
    (pairs.find? fun pair => pair.2.1 == position).map fun pair => pair.2.2
  let moved := ((pairs.map fun pair => pair.2.2).zip inOrder).countP fun (one, other) =>
    one != other
  let kept := matched - moved / 2
  let (long, short) := (left.length, right.length)
  matched != 0
    && 100 * (matched * matched * short + matched * matched * long + kept * long * short)
      ≥ 3 * percent * matched * long * short

end ProfileShell.Text.Similarity
