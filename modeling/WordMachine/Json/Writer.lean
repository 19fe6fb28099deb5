import WordMachine.Text.Digits

/-!
# Writing JSON

Two layouts: one line without blanks, and one item a line with two blanks for each level.

* `Json.quote` : a string.
* `Json.compactObject`, `Json.compactArray` : the one-line layout.
* `Json.Block` : values in the indented layout.
-/

namespace WordMachine.Json

/-- A character of a string. Quotes, backslashes and controls are escaped, and nothing else. -/
def quoteChar (c : Char) : String :=
  if c = '"' then "\\\""
  else if c = '\\' then "\\\\"
  else if c = '\x08' then "\\b"
  else if c = '\x0c' then "\\f"
  else if c = '\n' then "\\n"
  else if c = '\r' then "\\r"
  else if c = '\t' then "\\t"
  else if c.toNat < 0x20 then "\\u" ++ Text.hexPadded 4 c.toNat
  else c.toString

/-- A string. -/
def quote (text : String) : String :=
  "\"" ++ String.join (text.toList.map quoteChar) ++ "\""

/-! ## One line -/

/-- An object on one line, from the texts of its values. -/
def compactObject (fields : List (String × String)) : String :=
  "\x7b" ++ String.intercalate "," (fields.map fun f => quote f.1 ++ ":" ++ f.2) ++ "\x7d"

/-- An array on one line, from the texts of its items. -/
def compactArray (items : List String) : String :=
  "[" ++ String.intercalate "," items ++ "]"

/-! ## Indented -/

/-- A value in the indented layout: its text at a given level. -/
def Block := (level : Nat) → String

/-- The blanks in front of a line. -/
def margin (level : Nat) : String := String.ofList (List.replicate (2 * level) ' ')

namespace Block

/-- A value that takes one line. -/
def ofText (text : String) : Block := fun _ => text

/-- Lines between two brackets; nothing between them if there are no lines. -/
def bracketed (opening closing : String) (lines : List Block) : Block := fun level =>
  if lines.isEmpty then opening ++ closing
  else
    opening ++ "\n" ++
      String.intercalate ",\n" (lines.map fun l => margin (level + 1) ++ l (level + 1)) ++
      "\n" ++ margin level ++ closing

/-- An array. -/
def array (items : List Block) : Block := bracketed "[" "]" items

/-- An object. -/
def object (fields : List (String × Block)) : Block :=
  bracketed "\x7b" "\x7d" (fields.map fun f level => quote f.1 ++ ": " ++ f.2 level)

end Block

end WordMachine.Json
