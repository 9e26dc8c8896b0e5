import Recurrence.Text.Basic

/-! White space: the characters Unicode calls white space, and the four information
separators U+001C to U+001F. Stripping removes them from both ends. -/

namespace Recurrence

def blankRanges : List (Nat × Nat) :=
  [(9, 13), (28, 32), (133, 133), (160, 160), (5760, 5760), (8192, 8202), (8232, 8233),
   (8239, 8239), (8287, 8287), (12288, 12288)]

def isBlank (c : Char) : Bool := inRanges blankRanges c.toNat

namespace Text

def strip (t : Text) : Text := t.trimBoth isBlank

/-- Nothing but white space. -/
def isBlankText (t : Text) : Bool := t.all isBlank

def stripRight (t : Text) : Text := t.trimRight isBlank

end Text

end Recurrence
