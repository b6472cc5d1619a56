import Wayfarer.Hop.Request
import Wayfarer.Text.Letters

/-!
Responses that are documents.

* `Response.text`: the body as text;
* `Response.isHtml`: whether the body is a document: what the header says, or else how the body
  begins.
-/

namespace Wayfarer

/-- The beginnings of a document, in small letters. -/
def documentStarts : List String :=
  ["<!doctype html", "<html", "<head", "<meta", "<noscript", "<body"]

/-- Whether a text begins as documents do, behind blanks and in any case. -/
def startsDocument (cs : List Char) : Bool :=
  let start := trimStart isBlank (cs.map Char.toLower)
  documentStarts.any fun s => s.toList.isPrefixOf start

/-- Whether a field value names a format of documents. -/
def namesDocument (v : FieldValue) : Bool :=
  let name := (Utf8.decodeLossy v.bytes).map Char.toLower
  hasInfix "text/html".toList name || hasInfix "application/xhtml+xml".toList name

namespace Response

/-- The body as text, its ill-formed stretches replaced. -/
def text (r : Response) : List Char :=
  Utf8.decodeLossy r.body

/-- The part of a body that is looked at to tell what it is. -/
def sniffed : Nat := 1024

/-- Whether the body is a document: what the header says, or else how the body begins. -/
def isHtml (r : Response) : Bool :=
  match r.headers.get? .contentType with
  | some v => namesDocument v
  | none => startsDocument (Utf8.decodeLossy (r.body.take sniffed))

end Response

end Wayfarer
