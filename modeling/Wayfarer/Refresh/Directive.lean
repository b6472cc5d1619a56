import Wayfarer.Html.Parse
import Wayfarer.Refresh.Content

/-!
Refresh directives in documents.

* `Html.Element.refresh?`: the directive that an element gives;
* `Html.Element.base?`: the base address that an element gives;
* `Refresh.find?`: the first directive of a document outside elements of some names, with the base
  address of the document.
-/

namespace Wayfarer

namespace Html.Element

/-- The directive that an element gives: a `meta` that stands for the header field `Refresh`. -/
def refresh? (e : Element) : Option Refresh :=
  match e.attribute? "http-equiv", e.attribute? "content" with
  | some header, some content =>
      if e.name = "meta" && sameLetters (trimBlanks header) "refresh" then Refresh.parse? content
      else none
  | _, _ => none

/-- The address that an element gives for others to be relative to. -/
def base? (e : Element) : Option String :=
  if e.name = "base" then e.attribute? "href" else none

end Html.Element

namespace Refresh

/-- Whether a name is among those to be ignored, in any case. -/
def ignores (ignored : List String) (name : String) : Bool :=
  ignored.any (sameLetters · name)

/-- The first directive among trees that no ignored element is above. -/
def inTrees? (ignored : List String) (ts : List Html.Tree) : Option Refresh :=
  (Html.earliestOutside (ignores ignored) Html.Element.refresh? ts).map (·.2)

/-- The base address among trees, unless it is blank. -/
def baseOfTrees? (ts : List Html.Tree) : Option String :=
  ((Html.earliest Html.Element.base? ts).map trimBlanks).filter (· ≠ "")

/-- The first directive of a text that is a document, and the base address of that document. -/
def find? (ignored : List String) (text : List Char) : Option (Refresh × Option String) :=
  let ts := Html.parse text
  (inTrees? ignored ts).map fun r => (r, baseOfTrees? ts)

end Refresh

end Wayfarer
