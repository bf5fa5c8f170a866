import Pinwire.Text.Blank
import Pinwire.Text.Split

/-!
# Option texts

A bus described in one text: `key=value` pairs with commas between them. The first equals sign of a
part divides it, blanks around keys and values do not count, and a part without an equals sign is
passed over.
-/

namespace Pinwire.OptionText

/-- The pair that a part between commas stands for, if it has an equals sign. -/
def pair? (part : List Char) : Option (String × String) :=
  (Text.splitFirst '=' part).map fun (key, value) =>
    (String.ofList (Text.trim key), String.ofList (Text.trim value))

/-- The pairs of a text, in order. -/
def parse (text : String) : List (String × String) :=
  (Text.splitAll ',' text.toList).filterMap pair?

end Pinwire.OptionText
