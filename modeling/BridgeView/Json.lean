import BridgeView.Text.Numeral

/-!
# JSON

Values of the data format and their two written forms: compact, and with every item and
field on a line of its own, indented by two spaces a level.  Empty lists and objects stay
on one line in both.
-/

namespace BridgeView

/-- A value of the data format. -/
inductive Json where
  /-- The null value. -/
  | null
  /-- A truth value. -/
  | bool (value : Bool)
  /-- A whole number. -/
  | number (value : Int)
  /-- A text. -/
  | text (value : String)
  /-- A list. -/
  | array (items : List Json)
  /-- Named fields, in the order in which they are written. -/
  | object (fields : List (String × Json))
deriving Repr, Inhabited

namespace Json

/-- The number, or null. -/
def ofNumber? (value? : Option Nat) : Json :=
  match value? with
  | some value => number value
  | none => null

/-- The characters that stand for one character of a text. -/
def escape (character : Char) : List Char :=
  if character = '"' then ['\\', '"']
  else if character = '\\' then ['\\', '\\']
  else if character = '\x08' then ['\\', 'b']
  else if character = '\x0c' then ['\\', 'f']
  else if character = '\n' then ['\\', 'n']
  else if character = '\r' then ['\\', 'r']
  else if character = '\t' then ['\\', 't']
  else if character.toNat < 0x20 then
    ['\\', 'u', '0', '0'] ++ Text.hexOctet (UInt8.ofNat character.toNat)
  else [character]

/-- A text between quotation marks, with its characters escaped. -/
def quote (value : String) : String :=
  String.ofList (['"'] ++ value.toList.flatMap escape ++ ['"'])

/-- The parts with commas between them. -/
def commaSeparated (parts : List String) : String :=
  ",".intercalate parts

mutual

/-- The value on one line. -/
def compact : Json → String
  | null => "null"
  | bool true => "true"
  | bool false => "false"
  | number value => toString value
  | text value => quote value
  | array items => "[" ++ commaSeparated (compactItems items) ++ "]"
  | object fields => "\x7b" ++ commaSeparated (compactFields fields) ++ "\x7d"

/-- The items of a list, each on one line. -/
def compactItems : List Json → List String
  | [] => []
  | item :: rest => compact item :: compactItems rest

/-- The compact forms of the fields of an object. -/
def compactFields : List (String × Json) → List String
  | [] => []
  | (name, value) :: rest => (quote name ++ ":" ++ compact value) :: compactFields rest

end

/-- The start of a line at a level of indentation. -/
def newLine (level : Nat) : String :=
  "\n" ++ String.ofList (List.replicate (2 * level) ' ')

/-- Parts on lines of their own between two brackets. -/
def bracketed (opening closing : String) (level : Nat) (parts : List String) : String :=
  if parts.isEmpty then opening ++ closing
  else
    opening ++ commaSeparated (parts.map (newLine (level + 1) ++ ·)) ++ newLine level
      ++ closing

mutual

/-- The form with one line for each item and field. -/
def indented (level : Nat) : Json → String
  | array items => bracketed "[" "]" level (indentedItems (level + 1) items)
  | object fields => bracketed "\x7b" "\x7d" level (indentedFields (level + 1) fields)
  | null => "null"
  | bool true => "true"
  | bool false => "false"
  | number value => toString value
  | text value => quote value

/-- The items of a list, each over several lines. -/
def indentedItems (level : Nat) : List Json → List String
  | [] => []
  | item :: rest => indented level item :: indentedItems level rest

/-- The indented forms of the fields of an object. -/
def indentedFields (level : Nat) : List (String × Json) → List String
  | [] => []
  | (name, value) :: rest =>
    (quote name ++ ": " ++ indented level value) :: indentedFields level rest

end

/-- The form with one line for each item and field. -/
def pretty (value : Json) : String :=
  value.indented 0

end Json

end BridgeView
