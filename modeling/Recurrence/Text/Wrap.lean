import Recurrence.Text.Blank
import Recurrence.Text.Digit
import Recurrence.Text.Word

/-! Paragraphs broken into lines. A text is cut into chunks, blanks and words, words also behind
a hyphen between letters and before a dash; lines take as many chunks as fit, and a chunk wider
than a line is broken. Widths count characters. -/

namespace Recurrence.Text

/-- White space that separates words; every other kind stays inside them. -/
def isGap (c : Char) : Bool := (decide (9 ≤ c.toNat) && decide (c.toNat ≤ 13)) || c == ' '

/-- Tabs become blanks up to the next column that is a multiple of eight. -/
def expandTabs : Nat → Text → Text
  | _, [] => []
  | column, c :: r =>
    if c = '\t' then List.replicate (8 - column % 8) ' ' ++ expandTabs (column + (8 - column % 8)) r
    else if c = '\n' ∨ c = '\r' then c :: expandTabs 0 r
    else c :: expandTabs (column + 1) r

/-- A character of words that is no digit. -/
def isWordLetter (c : Char) : Bool := isWordChar c && !isDigit c

/-- A character that may stand before a dash. -/
def isWordMark (c : Char) : Bool := isWordChar c || ['!', '"', '\'', '&', '.', ',', '?'].contains c

/-- Two or more hyphens with a word character behind them, and the text from there on. -/
def dash? (t : Text) : Option (Text × Text) :=
  let hyphens := t.takeWhile (· == '-')
  let rest := t.drop hyphens.length
  if 2 ≤ hyphens.length && rest.head?.any isWordChar then some (hyphens, rest) else none

/-- Two letters, perhaps with a hyphen between them, begin the text. -/
def goesOnWithLetters : Text → Bool
  | a :: '-' :: b :: _ => isWordLetter a && isWordLetter b
  | a :: b :: _ => isWordLetter a && isWordLetter b
  | _ => false

/-- The text read so far, held backwards, ends so that a hyphen may break the word here. -/
def mayBreakAfterHyphen : Text → Bool
  | a :: b :: r =>
    (isWordLetter a && isWordLetter b)
      || (isWordLetter a && b == '-' && r.head?.any isWordLetter)
  | _ => false

/-- A word from its second character on: `behind` is all text before, held backwards, and
`word` what the word has so far, held backwards. The word and the text after it. -/
def wordChunk : (behind word : Text) → Text → Text × Text
  | _, word, [] => (word.reverse, [])
  | behind, word, c :: r =>
    if c = '-' ∧ mayBreakAfterHyphen behind ∧ goesOnWithLetters r then
      ((c :: word).reverse, r)
    else if isGap c then (word.reverse, c :: r)
    else if behind.head?.any isWordMark && (dash? (c :: r)).isSome then (word.reverse, c :: r)
    else wordChunk (c :: behind) (c :: word) r

def chunksWithin : Nat → (behind : Text) → Text → List Text
  | 0, _, _ => []
  | _ + 1, _, [] => []
  | fuel + 1, behind, c :: r =>
    let (chunk, rest) :=
      if isGap c then (c :: r.takeWhile isGap, r.dropWhile isGap)
      else
        match (if behind.head?.any isWordMark then dash? (c :: r) else none) with
        | some (hyphens, rest) => (hyphens, rest)
        | none => wordChunk (c :: behind) [c] r
    chunk :: chunksWithin fuel (chunk.reverse ++ behind) rest

/-- The chunks of a text; together they are the text. -/
def chunks (t : Text) : List Text := chunksWithin t.length [] t

/-- The chunks that fit into a line with `room` characters left, and the others. -/
def fill (room : Nat) : List Text → List Text × List Text
  | [] => ([], [])
  | c :: cs =>
    if c.length ≤ room then
      let (line, rest) := fill (room - c.length) cs
      (c :: line, rest)
    else ([], c :: cs)

/-- How much of a chunk too wide for a line goes into the room left: all of the room, or up to
the last hyphen in it that follows something else than hyphens. -/
def breakAt (room : Nat) (chunk : Text) : Nat :=
  if room < chunk.length then
    let here := chunk.take room
    let after := (here.reverse.takeWhile (· != '-')).length
    let hyphen := room - after - 1
    if after < here.length && 0 < hyphen && (here.take hyphen).any (· != '-') then hyphen + 1
    else room
  else room

/-- The lines of chunks on lines `width` wide; `first` on the first line only. -/
def linesOfChunks (width : Nat) : Nat → Bool → List Text → List Text
  | 0, _, _ => []
  | fuel + 1, first, cs =>
    if cs.isEmpty then []
    else
      let cs :=
        match cs with
        | c :: r => if !first && c.isBlankText then r else c :: r
        | [] => []
      let (line, rest) := fill width cs
      let used := total (line.map List.length)
      let (line, rest) :=
        match rest with
        | c :: r =>
          if width < c.length then
            let cut := breakAt (width - used) c
            (line ++ [c.take cut], c.drop cut :: r)
          else (line, rest)
        | [] => (line, rest)
      let line := if line.getLast?.any isBlankText then line.dropLast else line
      if line.isEmpty then linesOfChunks width fuel first rest
      else line.flatten :: linesOfChunks width fuel false rest

/-- The lines of a paragraph, each with an indent, `width` wide with it. -/
def wrap (width : Nat) (indent : Text) (t : Text) : List Text :=
  let t := (expandTabs 0 t).map fun c => if isGap c then ' ' else c
  (linesOfChunks (width - indent.length) (2 * t.length + 1) true (chunks t)).map (indent ++ ·)

end Recurrence.Text
