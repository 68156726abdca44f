import ListQuery.Json.Number

/-!
# Writing documents

The written form is compact: no spaces, fields in their order, and in texts an escape for
quotes, backslashes and the control characters below U+0020 only.
-/

namespace ListQuery.Json

def hexPad (char : Char) : List Char :=
  let digits := Nat.toDigits 16 char.toNat
  List.replicate (4 - digits.length) '0' ++ digits

def writtenChar (char : Char) : List Char :=
  if char = '"' ∨ char = '\\' then ['\\', char]
  else if char = '\x08' then ['\\', 'b']
  else if char = '\x0c' then ['\\', 'f']
  else if char = '\n' then ['\\', 'n']
  else if char = '\r' then ['\\', 'r']
  else if char = '\t' then ['\\', 't']
  else if char < ' ' then ['\\', 'u'] ++ hexPad char
  else [char]

def writtenText (text : String) : String :=
  String.ofList ('"' :: text.toList.flatMap writtenChar ++ ['"'])

mutual

def write : Json → String
  | .null => "null"
  | .bool value => if value then "true" else "false"
  | .number value => value.text
  | .text value => writtenText value
  | .array items => "[" ++ writeItems items ++ "]"
  | .object fields => "\x7b" ++ writeFields fields ++ "\x7d"

def writeItems : List Json → String
  | [] => ""
  | [item] => write item
  | item :: items => write item ++ "," ++ writeItems items

def writeFields : List (String × Json) → String
  | [] => ""
  | [(key, value)] => writtenText key ++ ":" ++ write value
  | (key, value) :: fields => writtenText key ++ ":" ++ write value ++ "," ++ writeFields fields

end

end ListQuery.Json
