import Wayfarer.Url.Parse

/-!
Where a redirect leads.

* `Charset`: how the bytes of a header field stand for characters;
* `Target.decode`: the text of a header field, in UTF-8 where it is well formed;
* `Target.escaped`: a text in ASCII, its unsafe characters as escapes;
* `Target.resolve`, `Target.resolveText`: the URL that a field value or a text names, relative to
  the URL of the request;
* `TargetError`: why there is none.
-/

namespace Wayfarer

/-- How bytes stand for characters. -/
inductive Charset where
  | utf8
  /-- Each byte is the character of that number. -/
  | latin1
deriving Repr, DecidableEq

/-- Why a target names no URL. -/
inductive TargetError where
  | empty
  | unresolvable (location : String) (cause : UrlError)
deriving Repr, DecidableEq

/-- What is wrong, in words. -/
def TargetError.detail : TargetError → String
  | empty => ""
  | unresolvable location cause => location ++ ": " ++ cause.message

namespace Target

/-! ### Text -/

/-- The text of a header field, each byte a character where it is not well-formed UTF-8. -/
def decode (raw : Bytes) : List Char × Charset :=
  match Utf8.decode? raw with
  | some cs => (cs, .utf8)
  | none => (raw.map fun b => Char.ofNat b.toNat, .latin1)

/-- The bytes that a text has in a charset. A character beyond the charset loses its high bits. -/
def bytesIn : Charset → List Char → Bytes
  | .utf8, cs => Utf8.encode cs
  | .latin1, cs => cs.map fun c => UInt8.ofNat c.toNat

/-- The ASCII bytes that a target writes as escapes. A percent sign is none of them. -/
def isUnsafe (b : UInt8) : Bool :=
  Escape.control b || Escape.listed " \"<>\x60\x7b\x7d|\\^" b

/-- A text in ASCII, its unsafe characters as escapes. -/
def escaped (cs : List Char) (charset : Charset) : List Char :=
  Percent.encode isUnsafe (bytesIn charset cs)

/-! ### Resolution -/

/-- A target as a reference: slashes at the front, two or more, stand for the scheme of the base
and an authority. -/
def reference (base : Url) (cs : List Char) : String :=
  match cs with
  | '/' :: '/' :: rest =>
      base.scheme ++ "://" ++ String.ofList (rest.dropWhile (· = '/'))
  | cs => String.ofList cs

/-- The URL that a text without blanks at its ends names relative to `base`. -/
def resolveIn (charset : Charset) (base : Url) (cs : List Char) : Except TargetError Url :=
  if cs.isEmpty then .error .empty
  else
    let location := reference base (escaped cs charset)
    match base.join location with
    | .ok url => .ok url
    | .error e => .error (.unresolvable location e)

/-- The URL that a field value names relative to `base`. -/
def resolve (base : Url) (raw : Bytes) : Except TargetError Url :=
  let (cs, charset) := decode raw
  resolveIn charset base (trim isBlank cs)

/-- The URL that a text names relative to `base`. -/
def resolveText (base : Url) (text : String) : Except TargetError Url :=
  resolveIn .utf8 base (trim isBlank text.toList)

end Target

end Wayfarer
