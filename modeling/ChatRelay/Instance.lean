import ChatRelay.Bytes

/-! # Instance identifiers

Every running hub has an identifier of 16 bytes. It is written as 32 hexadecimal digits in groups of
8, 4, 4, 4 and 12 with hyphens between them; it is also read without hyphens, in braces, or behind
the name of its namespace.
-/

namespace ChatRelay

/-- Identity of one running hub. -/
structure InstanceId where
  octets : Bytes
  length_octets : octets.length = 16
  deriving DecidableEq

namespace InstanceId

/-- The identifier with the given bytes, if they are 16. -/
def ofBytes? (octets : Bytes) : Option InstanceId :=
  if h : octets.length = 16 then some ⟨octets, h⟩ else none

/-- An identifier from 16 random bytes, with the marks of its version and its variant. -/
def ofRandom? (octets : Bytes) : Option InstanceId :=
  ofBytes? (octets.zipIdx.map fun (b, i) =>
    if i = 6 then b % 16 + 64 else if i = 8 then b % 64 + 128 else b)

/-- The identifier of which all bytes are zero. -/
def zero : InstanceId := ⟨List.replicate 16 0, by decide⟩

/-- Put a hyphen after the 8th, 12th, 16th and 20th digit. -/
def group (digits : List Char) : List Char :=
  digits.take 8 ++ '-' :: (digits.drop 8).take 4 ++ '-' :: (digits.drop 12).take 4 ++
    '-' :: (digits.drop 16).take 4 ++ '-' :: digits.drop 20

/-- The hyphenated form in lower case. -/
def text (id : InstanceId) : String := String.ofList (group (Bytes.toHex id.octets))

/-- Read 32 digits. -/
def ofDigits? (digits : List Char) : Option InstanceId :=
  (Bytes.ofHex? digits).bind ofBytes?

/-- Read the hyphenated form: hyphens exactly where they belong, digits elsewhere. -/
def ofHyphenated? (text : List Char) : Option InstanceId :=
  let digits := text.filter (· ≠ '-')
  if digits.length = 32 ∧ group digits = text then ofDigits? digits else none

/-- What stands before an identifier that is written as a uniform resource name. -/
def resourceName : List Char := ['u', 'r', 'n', ':', 'u', 'u', 'i', 'd', ':']

/-- Read any of the accepted forms. -/
def ofText? (text : List Char) : Option InstanceId :=
  if text.length = 32 then ofDigits? text
  else if text.length = 36 then ofHyphenated? text
  else if text.length = 38 then
    if text.head? = some '\x7b' ∧ text.getLast? = some '\x7d' then
      ofHyphenated? ((text.drop 1).take 36)
    else none
  else if text.length = 45 then
    if (text.take 9).map Char.toLower = resourceName then ofHyphenated? (text.drop 9) else none
  else none

end InstanceId
end ChatRelay
