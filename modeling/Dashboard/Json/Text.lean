import Dashboard.Decimal.Style
import Dashboard.Json.Value

namespace Dashboard.Json

/-- The escape of a control character that has no letter of its own. -/
def controlEscape (code : Nat) : List Char :=
  "\\u00".toList ++ [Nat.digitChar (code / 16), Nat.digitChar (code % 16)]

def escaped (c : Char) : List Char :=
  match c with
  | '"' => ['\\', '"']
  | '\\' => ['\\', '\\']
  | '\x08' => ['\\', 'b']
  | '\x0c' => ['\\', 'f']
  | '\n' => ['\\', 'n']
  | '\r' => ['\\', 'r']
  | '\t' => ['\\', 't']
  | c => if c.toNat < 32 then controlEscape c.toNat else [c]

def quoted (text : String) : List Char := '"' :: text.toList.flatMap escaped ++ ['"']

def Number.text : Number → List Char
  | .integer value => (toString value).toList
  | .float value => (Decimal.Style.json.text value).toList

mutual

def Value.written : Value → List Char
  | .null => "null".toList
  | .bool true => "true".toList
  | .bool false => "false".toList
  | .number value => value.text
  | .string text => quoted text
  | .array items => '[' :: writtenItems items
  | .object members => '\x7b' :: writtenMembers members

/-- Items with commas between them, and the closing bracket. -/
def writtenItems : List Value → List Char
  | [] => [']']
  | item :: rest =>
    item.written ++ match rest with
      | [] => [']']
      | next :: others => ',' :: writtenItems (next :: others)

/-- Members with commas between them, and the closing brace. -/
def writtenMembers : List (String × Value) → List Char
  | [] => ['\x7d']
  | (key, value) :: rest =>
    quoted key ++ ':' :: (value.written ++ match rest with
      | [] => ['\x7d']
      | next :: others => ',' :: writtenMembers (next :: others))

end

def Value.text (value : Value) : String := String.ofList value.written

end Dashboard.Json
