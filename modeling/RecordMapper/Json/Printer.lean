import RecordMapper.Json.Basic
import RecordMapper.Number.Layout

/-!
The text of a JSON value: no blanks, members in order, characters as they are but for quotes,
backslashes and control characters.
-/

namespace RecordMapper.Json

def shortEscape? (c : Char) : Option Char :=
  match c with
  | '"' => some '"'
  | '\\' => some '\\'
  | '\x08' => some 'b'
  | '\x0c' => some 'f'
  | '\n' => some 'n'
  | '\r' => some 'r'
  | '\t' => some 't'
  | _ => none

def escapedChar (c : Char) : List Char :=
  match shortEscape? c with
  | some letter => ['\\', letter]
  | none =>
    if c.toNat < 0x20 then
      ['\\', 'u', '0', '0', Nat.digitChar (c.toNat / 16), Nat.digitChar (c.toNat % 16)]
    else [c]

/-- The characters of a string between their quotes, and the quote that ends them. -/
def stringTail : List Char → List Char
  | [] => ['"']
  | c :: cs => escapedChar c ++ stringTail cs

def stringText (s : String) : List Char :=
  '"' :: stringTail s.toList

def Number.text : Number → List Char
  | .integer value _ => intDigits value
  | .real x => Layout.document.finiteText x

mutual

def text : Json → List Char
  | .null => "null".toList
  | .bool value => if value then "true".toList else "false".toList
  | .number value => value.text
  | .string value => stringText value
  | .array [] => ['[', ']']
  | .array (value :: elements) => '[' :: (text value ++ elementsTail elements)
  | .object [] => ['{', '}']
  | .object ((name, value) :: members) =>
    '{' :: (stringText name ++ ':' :: (text value ++ membersTail members))

def elementsTail : List Json → List Char
  | [] => [']']
  | value :: elements => ',' :: (text value ++ elementsTail elements)

def membersTail : List (String × Json) → List Char
  | [] => ['}']
  | (name, value) :: members =>
    ',' :: (stringText name ++ ':' :: (text value ++ membersTail members))

end

def print (value : Json) : String :=
  String.ofList value.text

end RecordMapper.Json
