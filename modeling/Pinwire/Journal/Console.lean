import Pinwire.Journal
import Pinwire.Text.Plain

/-!
# Journal records on a console

A console shows a record as plain text. The rows of a text after the first are set in, and only the
first one counts as the record.
-/

namespace Pinwire

namespace Record

/-- What is written for a line break: the next row begins with four blanks. -/
def setIn (character : Char) : List Char :=
  if character = '\n' then ['\n', ' ', ' ', ' ', ' '] else [character]

def onConsole (record : Record) : Record :=
  let shown := Text.Plain.strip (record.text.toList.flatMap setIn)
  { record with text := String.ofList (shown.takeWhile fun character => character ≠ '\n') }

end Record

end Pinwire
