/-! Text is a list of characters. This module holds the cuts and joins every reader and
writer of the library is built from; lengths and positions count characters. -/

namespace Recurrence

abbrev Text := List Char

namespace Text

/-- The pieces between the separators, in order; a text without one is its own only piece. -/
def pieces (sep : Char) : Text → List Text
  | [] => [[]]
  | c :: r =>
    if c = sep then [] :: pieces sep r
    else
      match pieces sep r with
      | [] => [[c]]
      | p :: ps => (c :: p) :: ps

/-- The text before the first separator and the text after it. -/
def cut? (sep : Char) : Text → Option (Text × Text)
  | [] => none
  | c :: r => if c = sep then some ([], r) else (cut? sep r).map fun p => (c :: p.1, p.2)

/-- The parts with the separator between each two. -/
def joined (sep : Text) (parts : List Text) : Text := sep.intercalate parts

/-- What follows `start`, if the text begins with it. -/
def after? : Text → Text → Option Text
  | [], t => some t
  | _ :: _, [] => none
  | a :: start, c :: t => if a = c then after? start t else none

/-- The sum of several lengths. -/
def total (lengths : List Nat) : Nat := lengths.foldl (· + ·) 0

/-- The bytes a text takes up in UTF-8. -/
def bytes (t : Text) : Nat := total (t.map Char.utf8Size)

/-- The first text is not after the second in the order of their characters. -/
def notAfter : Text → Text → Bool
  | [], _ => true
  | _ :: _, [] => false
  | a :: r, b :: s => if a = b then notAfter r s else decide (a.toNat < b.toNat)

/-- The characters from the end backwards as long as the test holds are dropped. -/
def trimRight (p : Char → Bool) (t : Text) : Text := (t.reverse.dropWhile p).reverse

def trimBoth (p : Char → Bool) (t : Text) : Text := trimRight p (t.dropWhile p)

/-- A text of at least `width` characters, filled up on the left. -/
def padLeft (fill : Char) (width : Nat) (t : Text) : Text :=
  List.replicate (width - t.length) fill ++ t

def padRight (fill : Char) (width : Nat) (t : Text) : Text :=
  t ++ List.replicate (width - t.length) fill

/-- Is `part` a contiguous piece of the text? -/
def includes (part : Text) : Text → Bool
  | [] => part.isEmpty
  | c :: r => part.isPrefixOf (c :: r) || includes part r

/-- Every occurrence of `part`, found from the left, is replaced; `fuel` bounds the text's length. -/
def replaceGo (part new : Text) : Nat → Text → Text
  | 0, t => t
  | _ + 1, [] => []
  | fuel + 1, c :: r =>
    if part.isPrefixOf (c :: r) then new ++ replaceGo part new fuel ((c :: r).drop part.length)
    else c :: replaceGo part new fuel r

/-- Replaces a non-empty part wherever it stands. -/
def replace (part new t : Text) : Text := replaceGo part new t.length t

/-- The lines of a text, without their line feeds; a last empty line is kept. -/
def lines (t : Text) : List Text := pieces '\n' t

end Text

/-- The digits of a natural number, most significant first. -/
def decimal (n : Nat) : Text := Nat.toDigits 10 n

/-- The decimal numeral of an integer, with a sign when it is negative. -/
def decimalInt : Int → Text
  | .ofNat n => decimal n
  | .negSucc n => '-' :: decimal (n + 1)

/-- The digits of a natural number with zeros in front up to a width. -/
def decimalPadded (width n : Nat) : Text := (decimal n).padLeft '0' width

/-- A number lies in one of the closed ranges. -/
def inRanges (ranges : List (Nat × Nat)) (n : Nat) : Bool :=
  ranges.any fun r => decide (r.1 ≤ n) && decide (n ≤ r.2)

end Recurrence
