import Wayfarer.Text.Letters
import Wayfarer.Text.Utf8

/-!
Header fields of HTTP messages.

* `FieldName`: a token of small letters, digits and some marks;
* `FieldName.ofString?`: the name that a text spells in any case;
* `FieldValue`: bytes without control characters, tabs apart;
* `FieldValue.ofBytes?`: the value with these bytes;
* the names that following a redirect treats on their own.
-/

namespace Wayfarer

/-! ### Names -/

/-- The characters of a field name in small letters. -/
def isNameChar (c : Char) : Bool :=
  c.isLower || c.isDigit || "!#$%&'*+-.^_\x60|~".toList.contains c

/-- Whether a text is a field name in small letters: a token of at most 65535 characters. -/
def isFieldName (s : String) : Bool :=
  !s.isEmpty && s.length ≤ 65535 && s.toList.all isNameChar

/-- The name of a header field, in small letters. -/
structure FieldName where
  text : String
  valid : isFieldName text = true
deriving DecidableEq

namespace FieldName

/-- The name that a text spells, whatever the case of its letters. -/
def ofString? (s : String) : Option FieldName :=
  if h : isFieldName (lowered s) then some ⟨lowered s, h⟩ else none

/-- The field that names the target of a redirect. -/
def location : FieldName := ⟨"location", by decide⟩

/-- The field that names the format of a body. -/
def contentType : FieldName := ⟨"content-type", by decide⟩

/-- The field that gives the size of a body. -/
def contentLength : FieldName := ⟨"content-length", by decide⟩

/-- The field with what an origin asked a client to keep. -/
def cookie : FieldName := ⟨"cookie", by decide⟩

/-- The field with credentials for an origin. -/
def authorization : FieldName := ⟨"authorization", by decide⟩

/-- The field with credentials for a proxy. -/
def proxyAuthorization : FieldName := ⟨"proxy-authorization", by decide⟩

end FieldName

/-! ### Values -/

/-- The bytes of a field value: no control characters, tabs apart. -/
def isValueByte (b : UInt8) : Bool :=
  b = 9 || (32 ≤ b && b ≠ 127)

/-- The value of a header field. -/
structure FieldValue where
  bytes : Bytes
  valid : bytes.all isValueByte = true
deriving DecidableEq

namespace FieldValue

/-- The value with these bytes. -/
def ofBytes? (bs : Bytes) : Option FieldValue :=
  if h : bs.all isValueByte then some ⟨bs, h⟩ else none

/-- The value as a text, its ill-formed stretches replaced. -/
def text (v : FieldValue) : String :=
  String.ofList (Utf8.decodeLossy v.bytes)

end FieldValue

end Wayfarer
