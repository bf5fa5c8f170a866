import Pinwire.Text.Combining
import Pinwire.Text.Hex
import Pinwire.Text.Unprintable

/-!
# Quoted texts

A text in double quotes, written so that nothing in it is invisible or changes how its neighbours
look: the usual escapes for the commonest controls, and the code point in hexadecimal for every
other character that is unprintable or combines with the one before it.
-/

namespace Pinwire.Text.Quoted

def escape (character : Char) : List Char :=
  match character with
  | '\x00' => ['\\', '0']
  | '\t' => ['\\', 't']
  | '\r' => ['\\', 'r']
  | '\n' => ['\\', 'n']
  | '"' => ['\\', '"']
  | '\\' => ['\\', '\\']
  | _ =>
    if isCombining character || isUnprintable character then
      ['\\', 'u', '\x7b'] ++ Hex.render character.toNat ++ ['\x7d']
    else
      [character]

def render (text : String) : String :=
  String.ofList ('"' :: text.toList.flatMap escape ++ ['"'])

end Pinwire.Text.Quoted
