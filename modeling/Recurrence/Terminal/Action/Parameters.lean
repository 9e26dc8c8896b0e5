import Recurrence.Fault
import Recurrence.Terminal.Action.Reading

/-! What a tag hands to its action: the name of a function, with or without arguments in round
brackets, or else an expression. It is looked at when the tag is closed, and has to be a plain
value; a name alone hands over nothing. -/

namespace Recurrence.Terminal

/-- The arguments behind the name of a function, brackets included; nothing is an empty pair. -/
def functionArguments? (t : Text) : Option Text :=
  let rest := t.dropWhile fun c => isWordChar c || c == '.'
  if rest.isEmpty then some ['(', ')']
  else if rest.head? = some '(' && rest.getLast? = some ')' && !rest.contains '\n' then some rest
  else none

/-- Refuses parameters, given as they are written, that are no plain value. -/
def checkParameters (written : Text) : Except Fault Unit :=
  let stripped := Text.strip written
  let read := (functionArguments? stripped).getD stripped
  if read.contains '\x00' then .error (.unusableParameters written .hasNul)
  else
    match Form.read read with
    | .error problem => .error (.unreadableParameters read written problem)
    | .ok form =>
      match form.check with
      | .error problem => .error (.unusableParameters written problem)
      | .ok _ => .ok ()

end Recurrence.Terminal
