/-!
# Cutting and joining texts at a separator

A text cut at every separator always has at least one part, and joining the parts with the
separator gives the text back.
-/

namespace Pinwire.Text

/-- The parts between the separators: one more than there are separators, so never none. -/
def splitAll (separator : Char) : List Char → List (List Char)
  | [] => [[]]
  | character :: rest =>
    if character = separator then
      [] :: splitAll separator rest
    else
      match splitAll separator rest with
      | [] => [[character]]
      | part :: parts => (character :: part) :: parts

/-- The texts before and after the first separator, if there is one. -/
def splitFirst (separator : Char) : List Char → Option (List Char × List Char)
  | [] => none
  | character :: rest =>
    if character = separator then
      some ([], rest)
    else
      (splitFirst separator rest).map fun (before, after) => (character :: before, after)

def joinWith (separator : List Char) : List (List Char) → List Char
  | [] => []
  | [part] => part
  | part :: next :: parts => part ++ separator ++ joinWith separator (next :: parts)

/-- The items, each rendered, in brackets with a comma and a blank between each two. -/
def bracketed (render : α → List Char) (items : List α) : List Char :=
  '[' :: joinWith [',', ' '] (items.map render) ++ [']']

end Pinwire.Text
