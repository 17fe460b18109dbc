import BridgeView.Text.Numeral
import BridgeView.Text.Shapeless

/-!
# Quoted text

A text that may hold anything is shown between double quotes.  A backslash
marks the quote, the backslash, the zero, tabulation and line characters, and
characters without a shape of their own are written by their code.
-/

namespace BridgeView.Text

/-- The characters that stand for one character between quotes. -/
def quoteCharacter (character : Char) : List Char :=
  if character = '\x00' then ['\\', '0']
  else if character = '\t' then ['\\', 't']
  else if character = '\n' then ['\\', 'n']
  else if character = '\r' then ['\\', 'r']
  else if character = '"' then ['\\', '"']
  else if character = '\\' then ['\\', '\\']
  else if isShapeless character then
    ['\\', 'u', '\x7b'] ++ hexDigits character.toNat ++ ['\x7d']
  else [character]

/-- The text between double quotes. -/
def quote (text : String) : String :=
  String.ofList (['"'] ++ text.toList.flatMap quoteCharacter ++ ['"'])

end BridgeView.Text
