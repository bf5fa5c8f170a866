import Pinwire.Text.Hex
import Pinwire.Toml.Blank

/-!
# TOML strings

Strings come in double quotes, where a backslash starts an escape, and in single quotes, where
every character stands for itself. Three quotes instead of one let a string run over several lines;
its first line end does not count, and up to two quotes may stand directly before the closing three.
-/

namespace Pinwire.Toml

/-- The character of a code point, unless it is a surrogate or beyond the last code point. -/
def charOfCode? (code : Nat) : Option Char :=
  if code.isValidChar then some (Char.ofNat code) else none

def codeOfDigits? (digits : List Char) : Option Nat :=
  digits.foldlM (fun code digit => (Text.Hex.digitValue? digit).map (16 * code + ·)) 0

/-- Takes a code point written in `count` hexadecimal digits. -/
def codePoint (count : Nat) : Reader Char := fun text =>
  if text.length < count then none
  else do
    let code ← codeOfDigits? (text.take count)
    let character ← charOfCode? code
    pure (character, text.drop count)

def escape : Reader Char
  | '\\' :: 'b' :: rest => some ('\x08', rest)
  | '\\' :: 'f' :: rest => some ('\x0c', rest)
  | '\\' :: 'n' :: rest => some ('\n', rest)
  | '\\' :: 'r' :: rest => some ('\r', rest)
  | '\\' :: 't' :: rest => some ('\t', rest)
  | '\\' :: '"' :: rest => some ('"', rest)
  | '\\' :: '\\' :: rest => some ('\\', rest)
  | '\\' :: 'u' :: rest => codePoint 4 rest
  | '\\' :: 'U' :: rest => codePoint 8 rest
  | _ => none

/-- Takes a character that stands for itself between the given quotes. -/
def plainChar (quote : Char) : Reader Char
  | character :: rest =>
    if isLineChar character && character != quote && !(quote == '"' && character == '\\') then
      some (character, rest)
    else none
  | [] => none

/-- Takes one character of a string on a single line. -/
def lineStringChar (quote : Char) : Reader Char :=
  if quote = '"' then (plainChar quote).either escape else plainChar quote

def lineString (quote : Char) : Reader String := fun text => do
  let (_, rest) ← Reader.exactly [quote] text
  let (characters, rest) ← (lineStringChar quote).many rest
  let (_, rest) ← Reader.exactly [quote] rest
  pure (String.ofList characters, rest)

/-- Takes a backslash at the end of a line, with all blanks and line ends that follow it. -/
def continuation : Reader Unit
  | '\\' :: rest => do
    let (_, rest) ← lineEnd (skipBlanks rest)
    let (_, rest) ← (Reader.either lineEnd fun
      | ' ' :: rest | '\t' :: rest => some ((), rest)
      | _ => none).many rest
    pure ((), rest)
  | _ => none

/-- Takes a quote that does not belong to a row of three or more. -/
def loneQuote (quote : Char) : Reader (List Char) := fun text =>
  if [quote, quote, quote].isPrefixOf text then none
  else (Reader.exactly [quote] text).map fun (_, rest) => ([quote], rest)

/-- Takes a piece of a string over several lines. -/
def blockPiece (quote : Char) : Reader (List Char) := fun text =>
  let plain := (plainChar quote text).map fun (character, rest) => ([character], rest)
  let newLine := (lineEnd text).map fun (_, rest) => (['\n'], rest)
  let escaped :=
    if quote = '"' then
      ((continuation text).map fun (_, rest) => ([], rest)).or
        ((escape text).map fun (character, rest) => ([character], rest))
    else none
  plain.or (newLine.or (escaped.or (loneQuote quote text)))

/-- Takes the quotes that close a string over several lines; those beyond three belong to it. -/
def blockEnd (quote : Char) : Reader (List Char) := fun text =>
  let count := (text.takeWhile (· == quote)).length
  if 3 ≤ count && count ≤ 5 then some (List.replicate (count - 3) quote, text.drop count) else none

def blockString (quote : Char) : Reader String := fun text => do
  let (_, rest) ← Reader.exactly [quote, quote, quote] text
  let (_, rest) ← lineEnd.optional rest
  let (pieces, rest) ← (blockPiece quote).many rest
  let (last, rest) ← blockEnd quote rest
  pure (String.ofList (pieces.flatten ++ last), rest)

def string : Reader String := fun text =>
  match text with
  | '"' :: '"' :: '"' :: _ => blockString '"' text
  | '"' :: _ => lineString '"' text
  | '\'' :: '\'' :: '\'' :: _ => blockString '\'' text
  | '\'' :: _ => lineString '\'' text
  | _ => none

end Pinwire.Toml
