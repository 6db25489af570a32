/-
CountingHouse.Json.Value — JSON values and their compact text.

A value keeps what the messages of the bank can tell apart. Integers are
exact; any other number keeps only its text, because no message has a
place for one. A string whose escapes make no character has no text.
-/
import CountingHouse.Text.Numeral

namespace CountingHouse

/-- A JSON value. -/
inductive Json where
  | null
  | bool (value : Bool)
  | integer (value : Int)
  /-- A number with a fraction, an exponent or a negative zero. -/
  | real (numeral : String)
  /-- A string; `none` when its escapes make no character. -/
  | string (text : Option String)
  | array (elements : List Json)
  /-- The members in the order they stand in, repeated names included. -/
  | object (members : List (Option String × Json))

namespace Json

/-! ## Strings -/

/-- The lower-case hexadecimal digit for a number below sixteen. -/
def hexDigit (n : Nat) : Char :=
  Nat.digitChar n

/-- A character inside a string. The two characters that would end or
bend the string and the control characters are escaped. -/
def escape (c : Char) : List Char :=
  if c = '"' then ['\\', '"']
  else if c = '\\' then ['\\', '\\']
  else if c = '\x08' then ['\\', 'b']
  else if c = '\x0C' then ['\\', 'f']
  else if c = '\n' then ['\\', 'n']
  else if c = '\r' then ['\\', 'r']
  else if c = '\t' then ['\\', 't']
  else if c.toNat < 0x20 then
    ['\\', 'u', '0', '0', hexDigit (c.toNat / 16), hexDigit (c.toNat % 16)]
  else [c]

/-- A string with its quotes. -/
def quote (text : List Char) : List Char :=
  '"' :: text.flatMap escape ++ ['"']

/-- A string that may be without text; half of a surrogate pair stands
for a missing one. -/
def quoteText : Option String → List Char
  | some text => quote text.toList
  | none => "\"\\ud800\"".toList

/-! ## Values -/

mutual

/-- The text of a value, without blanks. -/
def render : Json → List Char
  | .null => "null".toList
  | .bool true => "true".toList
  | .bool false => "false".toList
  | .integer n => Text.integer n
  | .real numeral => numeral.toList
  | .string text => quoteText text
  | .array elements => '[' :: renderElements elements ++ [']']
  | .object members => '{' :: renderMembers members ++ ['}']

/-- Values with commas between them. -/
def renderElements : List Json → List Char
  | [] => []
  | [value] => render value
  | value :: rest => render value ++ ',' :: renderElements rest

/-- Named values with commas between them. -/
def renderMembers : List (Option String × Json) → List Char
  | [] => []
  | [(name, value)] => quoteText name ++ ':' :: render value
  | (name, value) :: rest =>
    quoteText name ++ ':' :: render value ++ ',' :: renderMembers rest

end

/-- A string value. -/
def ofText (text : String) : Json :=
  .string (some text)

/-- An object with the given members. -/
def ofMembers (members : List (String × Json)) : Json :=
  .object (members.map fun (name, value) => (some name, value))

example : (ofMembers [("a", .integer (-1)), ("b", .array [.null, ofText "\n"])]).render =
    "\x7b\"a\":-1,\"b\":[null,\"\\n\"]\x7d".toList := by decide

end Json

end CountingHouse
