import Wayfarer.Text.Percent

/-!
The characters that each part of a URL writes as escapes.

* `Escape.control`, `Escape.fragment`, `Escape.query`, `Escape.specialQuery`, `Escape.path`,
  `Escape.userinfo`: the classes, beside which all bytes beyond ASCII are escaped;
* `Escape.apply`: a text with the bytes of a class escaped.
-/

namespace Wayfarer.Escape

/-- A class of bytes given by the ASCII characters in it. -/
def listed (cs : String) (b : UInt8) : Bool :=
  cs.toList.contains (Char.ofNat b.toNat)

/-- Control characters. -/
def control (b : UInt8) : Bool :=
  b < 0x20 || b = 0x7F

/-- What a fragment escapes. -/
def fragment (b : UInt8) : Bool :=
  control b || listed " \"<>\x60" b

/-- What a query escapes. -/
def query (b : UInt8) : Bool :=
  control b || listed " \"#<>" b

/-- What the query of a special scheme escapes. -/
def specialQuery (b : UInt8) : Bool :=
  query b || b = 0x27

/-- What a name of a path escapes. -/
def path (b : UInt8) : Bool :=
  fragment b || listed "#?^\x7b\x7d" b

/-- What credentials escape. -/
def userinfo (b : UInt8) : Bool :=
  path b || listed "/:;=@[\\]|" b

/-- A text with the bytes of a class escaped. -/
def apply (p : UInt8 → Bool) (cs : List Char) : String :=
  String.ofList (Percent.encode p (Utf8.encode cs))

end Wayfarer.Escape
