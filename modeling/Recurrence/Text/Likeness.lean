import Recurrence.Text.Basic

/-! How alike two texts are: the longest piece they share, then the same left and right of it. The
characters so matched, twice, against the length of both texts is their likeness. -/

namespace Recurrence.Text

/-- How many characters two texts begin with alike. -/
def sharedStart : Text → Text → Nat
  | a :: r, b :: s => if a = b then sharedStart r s + 1 else 0
  | _, _ => 0

/-- The longest piece of both texts: its places and its length. Of several, the first in the first
text, and then in the second. -/
def sharedPiece (a b : Text) : Nat × Nat × Nat :=
  (List.range a.length).foldl (fun best i =>
    (List.range b.length).foldl (fun best j =>
      let n := sharedStart (a.drop i) (b.drop j)
      if best.2.2 < n then (i, j, n) else best) best) (0, 0, 0)

/-- The number of matched characters; `fuel` bounds the length of the first text. -/
def matchedWithin : (fuel : Nat) → Text → Text → Nat
  | 0, _, _ => 0
  | fuel + 1, a, b =>
    let (i, j, n) := sharedPiece a b
    if n = 0 then 0
    else
      n + matchedWithin fuel (a.take i) (b.take j)
        + matchedWithin fuel (a.drop (i + n)) (b.drop (j + n))

def matched (a b : Text) : Nat := matchedWithin a.length a b

/-- Three fifths of the characters are matched. -/
def isAlike (a b : Text) : Bool := decide (3 * (a.length + b.length) ≤ 10 * matched a b)

/-- Is the first text more like the word than the second? Equals go by the later text. -/
def isMoreLike (word a b : Text) : Bool :=
  let left := matched a word * (b.length + word.length)
  let right := matched b word * (a.length + word.length)
  decide (right < left) || (left == right && b.notAfter a)

/-- The three texts most like a word, in order. -/
def alike (word : Text) (texts : List Text) : List Text :=
  (((texts.filter fun t => isAlike t word).mergeSort (isMoreLike word)).take 3).mergeSort
    notAfter

end Recurrence.Text
