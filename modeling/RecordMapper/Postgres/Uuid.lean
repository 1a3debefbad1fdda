import RecordMapper.Text.Hex

/-!
Universally unique identifiers: sixteen bytes, written as hexadecimal digits with or without
hyphens, and with hyphens also in braces or as a name.
-/

namespace RecordMapper.Postgres.Uuid

def ofDigits? (cs : List Char) : Option (List UInt8) :=
  if cs.length = 32 then hexBytes? cs else none

def unhyphened? (cs : List Char) : Option (List Char) :=
  if cs.length = 36 ∧ [8, 13, 18, 23].all fun place => cs[place]? = some '-' then
    some (cs.take 8 ++ (cs.drop 9).take 4 ++ (cs.drop 14).take 4 ++ (cs.drop 19).take 4 ++
      cs.drop 24)
  else none

def ofHyphened? (cs : List Char) : Option (List UInt8) :=
  (unhyphened? cs).bind ofDigits?

/-- Reads an identifier in any of its forms; the start of a name may be in any case. -/
def read? (cs : List Char) : Option (List UInt8) :=
  if cs.length = 32 then ofDigits? cs
  else if cs.length = 36 then ofHyphened? cs
  else if cs.length = 38 ∧ cs.head? = some '{' ∧ cs.getLast? = some '}' then
    ofHyphened? ((cs.drop 1).take 36)
  else if cs.length = 45 ∧ (cs.take 9).map Char.toLower = "urn:uuid:".toList then
    ofHyphened? (cs.drop 9)
  else none

def text (bytes : List UInt8) : List Char :=
  let digits := hexText bytes
  digits.take 8 ++ '-' :: (digits.drop 8).take 4 ++ '-' :: (digits.drop 12).take 4 ++
    '-' :: (digits.drop 16).take 4 ++ '-' :: digits.drop 20

end RecordMapper.Postgres.Uuid
