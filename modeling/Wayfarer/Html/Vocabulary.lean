/-!
The kinds of elements.

* `Html.Kind`: a name in one of the vocabularies that a document mixes;
* `Html.Kind.isSpecial`: the kinds that no end tag of another name closes;
* `Html.Kind.isTextHost`, `Html.Kind.isMarkupHost`: the kinds of other vocabularies that hold text
  or elements of documents;
* `Html.Scope`: how far from the innermost open element a search goes.
-/

namespace Wayfarer.Html

/-- The vocabularies that a document mixes. -/
inductive Vocabulary where
  | html
  | svg
  | math
deriving Repr, DecidableEq

/-- A name in a vocabulary; names are in small letters. -/
structure Kind where
  vocabulary : Vocabulary
  name : String
deriving Repr, DecidableEq

/-- Whether a kind is one of some names of documents. -/
def Kind.isOne (k : Kind) (names : List String) : Bool :=
  k.vocabulary = .html && names.contains k.name

/-! ### Groups of names -/

/-- The headings. -/
def headings : List String :=
  ["h1", "h2", "h3", "h4", "h5", "h6"]

/-- The elements that describe a document and stand in its head. -/
def headParts : List String :=
  ["base", "basefont", "bgsound", "link", "meta", "noframes", "script", "style", "template",
    "title"]

/-- The blocks that end a paragraph. -/
def blocks : List String :=
  ["address", "article", "aside", "blockquote", "center", "details", "dialog", "dir", "div", "dl",
    "fieldset", "figcaption", "figure", "footer", "header", "hgroup", "main", "menu", "nav", "ol",
    "p", "search", "section", "summary", "ul"]

/-- The elements whose end tag closes what is open below them. -/
def closers : List String :=
  ["button", "listing", "pre"] ++ blocks.erase "p"

/-- The elements that format text and go on across blocks. -/
def formats : List String :=
  ["a", "b", "big", "code", "em", "font", "i", "nobr", "s", "small", "strike", "strong", "tt", "u"]

/-- The elements whose end tag may be left out. -/
def omissible : List String :=
  ["dd", "dt", "li", "option", "optgroup", "p", "rb", "rp", "rt", "rtc"]

/-- The elements that may be left open at the end of a template. -/
def omissibleInTemplate : List String :=
  omissible ++ ["caption", "colgroup", "tbody", "td", "tfoot", "th", "thead", "tr"]

/-- The elements of a table in which no text stands. -/
def tableFrames : List String :=
  ["table", "tbody", "tfoot", "thead", "tr"]

/-- The groups of rows. -/
def rowGroups : List String :=
  ["tbody", "tfoot", "thead"]

/-- The cells. -/
def cells : List String :=
  ["td", "th"]

/-- The elements that end a search for most names. -/
def scopeEnds : List String :=
  ["applet", "caption", "html", "table", "td", "th", "marquee", "object", "template"]

/-- The elements that no end tag of another name closes. -/
def specials : List String :=
  headings ++ headParts ++ ["address", "applet", "area", "article", "aside", "blockquote", "body",
    "br", "button", "caption", "center", "col", "colgroup", "dd", "details", "dir", "div", "dl",
    "dt", "embed", "fieldset", "figcaption", "figure", "footer", "form", "frame", "frameset",
    "head", "header", "hgroup", "hr", "html", "iframe", "img", "input", "isindex", "li", "listing",
    "main", "marquee", "menu", "nav", "noembed", "noscript", "object", "ol", "p", "param",
    "plaintext", "pre", "section", "select", "source", "summary", "table", "tbody", "td",
    "textarea", "tfoot", "th", "thead", "tr", "track", "ul", "wbr", "xmp"]

/-- The names that end an excursion into another vocabulary. -/
def homecomings : List String :=
  ["b", "big", "blockquote", "body", "br", "center", "code", "dd", "div", "dl", "dt", "em", "embed",
    "h1", "h2", "h3", "h4", "h5", "h6", "head", "hr", "i", "img", "li", "listing", "menu", "meta",
    "nobr", "ol", "p", "pre", "ruby", "s", "small", "span", "strong", "strike", "sub", "sup",
    "table", "tt", "u", "ul", "var"]

/-! ### Kinds -/

namespace Kind

/-- The kinds that no end tag of another name closes. -/
def isSpecial (k : Kind) : Bool :=
  k.isOne specials

/-- The kinds of formulas that hold text. -/
def isTextHost (k : Kind) : Bool :=
  k.vocabulary = .math && ["mi", "mo", "mn", "ms", "mtext"].contains k.name

/-- The kinds of drawings that hold elements of documents. -/
def isMarkupHost (k : Kind) : Bool :=
  k.vocabulary = .svg && ["foreignobject", "desc", "title"].contains k.name

/-- The kinds that end a search for most names. -/
def endsScope (k : Kind) : Bool :=
  k.isOne scopeEnds || k.isTextHost || k.isMarkupHost

end Kind

/-! ### Scopes -/

/-- How far from the innermost open element a search goes. -/
inductive Scope where
  | ordinary
  | list
  | button
  | table
  | select
deriving Repr, DecidableEq

/-- The kinds at which a search ends. -/
def Scope.endsAt (k : Kind) : Scope → Bool
  | .ordinary => k.endsScope
  | .list => k.endsScope || k.isOne ["ol", "ul"]
  | .button => k.endsScope || k.isOne ["button"]
  | .table => k.isOne ["html", "table", "template"]
  | .select => !k.isOne ["optgroup", "option"]

end Wayfarer.Html
