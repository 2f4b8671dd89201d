import DocPreview.Json.Basic

/-!
# Writing JSON text

The compact text of a value: no white space, and in strings only the quote, the backslash and
the control characters are escaped.
-/

set_option autoImplicit false

namespace DocPreview.Json

def hexDigit (value : Nat) : Char :=
  if value < 10 then Char.ofNat (48 + value) else Char.ofNat (87 + value)

def quoteChar (char : Char) : List Char :=
  if char == '"' then ['\\', '"']
  else if char == '\\' then ['\\', '\\']
  else if char.toNat < 0x20 then
    ['\\', 'u', '0', '0', hexDigit (char.toNat / 16), hexDigit (char.toNat % 16)]
  else [char]

def quote (text : String) : String :=
  "\"" ++ String.ofList (text.toList.flatMap quoteChar) ++ "\""

mutual

def toText : Json → String
  | .null => "null"
  | .bool true => "true"
  | .bool false => "false"
  | .natural value => Nat.repr value
  | .otherNumber literal => literal
  | .string text => quote text
  | .brokenString => "\"\\ud800\""
  | .array items => "[" ++ itemsText items ++ "]"
  | .object fields => "\x7b" ++ fieldsText fields ++ "\x7d"

def itemsText : List Json → String
  | [] => ""
  | [item] => item.toText
  | item :: items => item.toText ++ "," ++ itemsText items

def fieldsText : List (String × Json) → String
  | [] => ""
  | [(name, value)] => quote name ++ ":" ++ value.toText
  | (name, value) :: fields => quote name ++ ":" ++ value.toText ++ "," ++ fieldsText fields

end

end DocPreview.Json
