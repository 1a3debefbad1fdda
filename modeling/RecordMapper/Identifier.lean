/-!
Names that may stand in SQL text. A name is one or more parts with points between them; a part is a
word, or any characters but NUL within double quotes, where a quote is written twice.
-/

namespace RecordMapper

inductive IdentifierFault where
  | empty
  | nul
  | unclosedQuote
  | emptyQuoted
  | emptySegment
  | badStart (c : Char)
  | badCharacter (c : Char)
  | trailingPoint
  | missingPoint (c : Char)
deriving DecidableEq, Repr

def IdentifierFault.message : IdentifierFault → String
  | .empty => "identifier cannot be empty"
  | .nul => "identifier cannot contain NUL"
  | .unclosedQuote => "unclosed quoted identifier"
  | .emptyQuoted => "empty quoted identifier"
  | .emptySegment => "empty identifier segment"
  | .badStart c => "invalid start character '" ++ c.toString ++ "'"
  | .badCharacter c => "invalid character '" ++ c.toString ++ "'"
  | .trailingPoint => "trailing '.'"
  | .missingPoint c => "expected '.' between parts, got '" ++ c.toString ++ "'"

namespace Identifier

def isWordStart (c : Char) : Bool :=
  c = '_' || c.isAlpha

def isWordChar (c : Char) : Bool :=
  c = '_' || c = '$' || c.isAlphanum

inductive Place where
  | start
  | word
  /-- Within quotes, and whether a character stood there before. -/
  | quoted (started : Bool)
  | closed
deriving DecidableEq, Repr

def scan : Place → List Char → Option IdentifierFault
  | .start, [] => some .emptySegment
  | .start, c :: cs =>
    if c = '"' then scan (.quoted false) cs
    else if isWordStart c then scan .word cs
    else if c = '.' then some .emptySegment
    else some (.badStart c)
  | .word, [] => none
  | .word, c :: cs =>
    if c = '.' then if cs = [] then some .trailingPoint else scan .start cs
    else if isWordChar c then scan .word cs
    else some (.badCharacter c)
  | .quoted _, [] => some .unclosedQuote
  | .quoted _, '"' :: '"' :: cs => scan (.quoted true) cs
  | .quoted started, c :: cs =>
    if c = '"' then if started then scan .closed cs else some .emptyQuoted
    else scan (.quoted true) cs
  | .closed, [] => none
  | .closed, c :: cs =>
    if c = '.' then if cs = [] then some .trailingPoint else scan .start cs
    else some (.missingPoint c)

def fault? (name : List Char) : Option IdentifierFault :=
  if name = [] then some .empty
  else if '\x00' ∈ name then some .nul
  else scan .start name

def Valid (name : List Char) : Prop :=
  fault? name = none

instance (name : List Char) : Decidable (Valid name) :=
  inferInstanceAs (Decidable (_ = _))

end Identifier

structure Identifier where
  text : String
  valid : Identifier.Valid text.toList
deriving DecidableEq

end RecordMapper
