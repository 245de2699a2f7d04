/-!
# Elements that close others

Some start tags close the elements before them, and some end tags cannot close what lies outside a
stronger element.
-/

namespace Feuilleton.Markup

/-- Start tags of phrases and blocks that end the head of a page. -/
def headClosers : List String := [
  "a", "abbr", "acronym", "address", "b", "bdo", "big", "blockquote", "body", "br", "center",
  "cite", "code", "dd", "dfn", "dir", "div", "dl", "dt", "em", "fieldset", "font", "form",
  "frameset", "h1", "h2", "h3", "h4", "h5", "h6", "hr", "i", "iframe", "img", "kbd", "li",
  "listing", "map", "menu", "ol", "p", "pre", "q", "s", "samp", "small", "span", "strike",
  "strong", "sub", "sup", "table", "tt", "u", "ul", "var", "xmp"]

def headingClosers : List String := ["fieldset", "form", "li", "p", "table"]

/-- The start tags that close a paragraph. -/
def paragraphClosers : List String := [
  "address", "blockquote", "caption", "center", "col", "colgroup", "dd", "dir", "div", "dl",
  "dt", "fieldset", "form", "frameset", "h1", "h2", "h3", "h4", "h5", "h6", "hr", "li", "menu",
  "ol", "p", "pre", "table", "tbody", "td", "tfoot", "th", "title", "tr", "ul"]

/-- Which start tags close an open element. -/
def closersOf : String → List String
  | "head" => headClosers
  | "a" => ["a", "fieldset", "table", "td", "th"]
  | "address" => ["dd", "dl", "dt", "form", "li", "ul"]
  | "b" => ["center", "p", "td", "th"]
  | "big" | "s" | "small" | "strike" | "tt" => ["p"]
  | "caption" => ["col", "colgroup", "tbody", "tfoot", "thead", "tr"]
  | "colgroup" => ["colgroup", "tbody", "tfoot", "thead", "tr"]
  | "dd" => ["dt"]
  | "dir" | "menu" => ["dd", "dl", "dt", "form", "ul"]
  | "dl" => ["form", "li"]
  | "dt" => ["dd", "dl"]
  | "font" => ["center", "td", "th"]
  | "form" => ["form"]
  | "h1" | "h2" | "h3" | "h4" | "h5" | "h6" => headingClosers
  | "i" => ["center", "p", "td", "th"]
  | "legend" => ["fieldset"]
  | "li" => ["li"]
  | "ol" => ["form"]
  | "option" => ["optgroup", "option"]
  | "p" => paragraphClosers
  | "pre" => ["dd", "dl", "dt", "fieldset", "form", "li", "table", "ul"]
  | "span" => ["td", "th"]
  | "tbody" => ["tbody", "tfoot"]
  | "td" | "th" => ["tbody", "td", "tfoot", "th", "tr"]
  | "tfoot" => ["tbody"]
  | "thead" => ["tbody", "tfoot"]
  | "tr" => ["tbody", "tfoot", "tr"]
  | "u" => ["p", "td", "th"]
  | "ul" => ["address", "form", "menu", "pre"]
  | _ => []

def isClosedBy (element startTag : String) : Bool :=
  (closersOf element).contains startTag

/-- An end tag closes no element of a higher rank on its way out. -/
def rank : String → Nat
  | "div" => 150
  | "td" | "th" => 160
  | "tr" => 170
  | "thead" | "tbody" | "tfoot" => 180
  | "table" => 190
  | "head" | "body" => 200
  | "html" => 220
  | _ => 100

/-- Elements without content. -/
def emptyElements : List String := [
  "area", "base", "basefont", "br", "col", "frame", "hr", "img", "input", "isindex", "link",
  "meta", "param"]

/-- Elements that belong into the head of a page. -/
def headElements : List String := ["script", "style", "meta", "link", "title", "base"]

def frameElements : List String := ["noframes", "frame", "frameset"]

end Feuilleton.Markup
