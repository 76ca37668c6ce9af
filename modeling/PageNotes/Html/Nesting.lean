/-!
Which elements may stand inside which: the rules by which a start tag closes open elements and an
end tag finds its element.

* `closes`: whether a start tag closes the innermost open element;
* `endPriority`: an end tag looks for its element only past elements of no higher priority;
* `isVoid`: elements without content.
-/

namespace PageNotes

/-- The headings. -/
def headingNames : List String := ["h1", "h2", "h3", "h4", "h5", "h6"]

/-- Elements that have no content. -/
def isVoid (name : String) : Bool :=
  ["area", "base", "basefont", "br", "col", "frame", "hr", "img", "input", "link", "meta",
    "param"].contains name

/-- The start tags that end an open head. -/
def closesHead (name : String) : Bool :=
  headingNames.contains name ||
  ["a", "abbr", "acronym", "address", "b", "bdo", "big", "blockquote", "body", "br", "center",
    "cite", "code", "dd", "dfn", "dir", "div", "dl", "dt", "em", "fieldset", "font", "form",
    "frameset", "hr", "i", "iframe", "img", "kbd", "li", "listing", "map", "menu", "ol", "p", "pre",
    "q", "s", "samp", "small", "span", "strike", "strong", "sub", "sup", "table", "tt", "u", "ul",
    "var", "xmp"].contains name

/-- The open elements, other than the head, that a start tag closes. -/
def closedBy : String → List String
  | "a" => ["a"]
  | "address" | "menu" | "pre" => ["p", "ul"]
  | "blockquote" | "caption" | "dir" | "div" | "h1" | "h2" | "h3" | "h4" | "h5" | "h6" | "hr"
  | "ol" | "title" | "head" | "listing" | "xmp" | "multicol" => ["p"]
  | "body" | "frameset" => ["p", "link", "style", "title"]
  | "center" => ["b", "font", "i", "p"]
  | "col" => ["caption", "p"]
  | "colgroup" => ["caption", "colgroup", "p"]
  | "dd" | "dl" => ["address", "dir", "dt", "menu", "p", "pre"]
  | "dt" => ["address", "dd", "dir", "menu", "p", "pre"]
  | "fieldset" => ["a", "legend", "p", "pre"] ++ headingNames
  | "form" => ["address", "dir", "dl", "form", "menu", "ol", "p", "pre", "ul"] ++ headingNames
  | "li" => ["address", "dl", "li", "p", "pre"] ++ headingNames
  | "optgroup" | "option" => ["option"]
  | "p" => ["b", "big", "i", "p", "s", "small", "strike", "tt", "u"] ++ headingNames
  | "table" => ["a", "p", "pre"] ++ headingNames
  | "tbody" =>
    ["caption", "col", "colgroup", "p", "tbody", "td", "tfoot", "th", "thead", "tr"]
  | "td" | "th" => ["a", "b", "font", "i", "p", "span", "td", "th", "u"]
  | "tfoot" => ["caption", "col", "colgroup", "p", "tbody", "td", "th", "thead", "tr"]
  | "thead" => ["caption", "col", "colgroup"]
  | "tr" => ["caption", "col", "colgroup", "p", "td", "th", "tr"]
  | "ul" => ["address", "dir", "menu", "p", "pre"]
  | _ => []

/-- Whether a start tag closes an innermost open element. -/
def closes (new current : String) : Bool :=
  (closedBy new).contains current || current = "head" && closesHead new

/-- How firmly an element stays open: an end tag passes elements of no higher priority. -/
def endPriority : String → Nat
  | "div" => 150
  | "td" | "th" => 160
  | "tr" => 170
  | "thead" | "tbody" | "tfoot" => 180
  | "table" => 190
  | "head" | "body" => 200
  | "html" => 220
  | _ => 100

/-- The start tags that open a head when nothing but the document element is open. -/
def opensHead (name : String) : Bool :=
  ["script", "style", "meta", "link", "title", "base"].contains name

/-- The start tags of pages that are divided into frames; they open no body. -/
def isFrameTag (name : String) : Bool := ["noframes", "frame", "frameset"].contains name

end PageNotes
