import Feuilleton.Document.Arena

/-!
# Groups of elements

Which elements bound the search for others, which are special, and how the names of drawings are
spelled.
-/

namespace Feuilleton.Document

def headings : List String := ["h1", "h2", "h3", "h4", "h5", "h6"]

def specialNames : List String := [
  "address", "applet", "area", "article", "aside", "base", "basefont", "bgsound", "blockquote",
  "body", "br", "button", "caption", "center", "col", "colgroup", "command", "dd", "details",
  "dir", "div", "dl", "dt", "embed", "fieldset", "figure", "footer", "form", "frame", "frameset",
  "h1", "h2", "h3", "h4", "h5", "h6", "head", "header", "hr", "html", "iframe", "image", "img",
  "input", "isindex", "li", "link", "listing", "marquee", "menu", "meta", "nav", "noembed",
  "noframes", "noscript", "object", "ol", "p", "param", "plaintext", "pre", "script", "section",
  "select", "style", "table", "tbody", "td", "textarea", "tfoot", "th", "thead", "title", "tr",
  "ul", "wbr", "xmp"]

def isSpecial (slot : Slot) : Bool :=
  match slot.space with
  | .html => specialNames.contains slot.name
  | .svg => slot.name == "foreignObject"
  | .math => false

/-! ## Scopes -/

/-- How far up an open element is looked for. -/
inductive Scope
  | plain
  | button
  | list
  | table
  | select
  deriving DecidableEq, Repr

def scopeNames : List String :=
  ["applet", "caption", "html", "marquee", "object", "table", "td", "th"]

def formulaTexts : List String := ["mi", "mo", "mn", "ms", "mtext"]

def drawingTexts : List String := ["foreignObject", "desc", "title"]

def boundsPlain (slot : Slot) : Bool :=
  match slot.space with
  | .html => scopeNames.contains slot.name
  | .svg => drawingTexts.contains slot.name
  | .math => formulaTexts.contains slot.name || slot.name == "annotation-xml"

def isHtml (slot : Slot) (names : List String) : Bool :=
  slot.space == .html && names.contains slot.name

/-- The element bounds the search. -/
def Scope.bounds (scope : Scope) (slot : Slot) : Bool :=
  match scope with
  | plain => boundsPlain slot
  | button => boundsPlain slot || isHtml slot ["button"]
  | list => boundsPlain slot || isHtml slot ["ol", "ul"]
  | table => isHtml slot ["html", "table"]
  | select => !isHtml slot ["optgroup", "option"]

/-! ## Groups by treatment -/

/-- Elements whose end is understood. -/
def impliedEnds : List String := ["dd", "dt", "li", "option", "optgroup", "p", "rp", "rt"]

/-- Elements in which nothing but parts of a table may stand. -/
def tableParts : List String := ["table", "tbody", "tfoot", "thead", "tr"]

def rowGroups : List String := ["tbody", "tfoot", "thead"]

/-- Start tags that end a caption, a row or a cell. -/
def tableStarts : List String :=
  ["caption", "col", "colgroup", "tbody", "td", "tfoot", "th", "thead", "tr"]

def blockStarts : List String := [
  "address", "article", "aside", "blockquote", "center", "details", "dir", "div", "dl",
  "fieldset", "figcaption", "figure", "footer", "header", "hgroup", "main", "menu", "nav", "ol",
  "p", "section", "summary", "ul"]

def blockEnds : List String := [
  "address", "article", "aside", "blockquote", "button", "center", "details", "dialog", "dir",
  "div", "dl", "fieldset", "figcaption", "figure", "footer", "header", "hgroup", "listing",
  "main", "menu", "nav", "ol", "pre", "section", "summary", "ul"]

def formattingNames : List String :=
  ["b", "big", "code", "em", "font", "i", "s", "small", "strike", "strong", "tt", "u"]

def headNames : List String :=
  ["base", "basefont", "bgsound", "command", "link", "meta", "script", "style", "title"]

/-- Start tags that end a drawing or a formula. -/
def breakoutNames : List String := [
  "b", "big", "blockquote", "body", "br", "center", "code", "dd", "div", "dl", "dt", "em",
  "embed", "h1", "h2", "h3", "h4", "h5", "h6", "head", "hr", "i", "img", "li", "listing", "menu",
  "meta", "nobr", "ol", "p", "pre", "ruby", "s", "small", "span", "strong", "strike", "sub",
  "sup", "table", "tt", "u", "ul", "var"]

/-! ## Spelling in drawings and formulas -/

def drawingNames : List String := [
  "altGlyph", "altGlyphDef", "altGlyphItem", "animateColor", "animateMotion",
  "animateTransform", "clipPath", "feBlend", "feColorMatrix", "feComponentTransfer",
  "feComposite", "feConvolveMatrix", "feDiffuseLighting", "feDisplacementMap",
  "feDistantLight", "feFlood", "feFuncA", "feFuncB", "feFuncG", "feFuncR", "feGaussianBlur",
  "feImage", "feMerge", "feMergeNode", "feMorphology", "feOffset", "fePointLight",
  "feSpecularLighting", "feSpotLight", "feTile", "feTurbulence", "foreignObject", "glyphRef",
  "linearGradient", "radialGradient", "textPath"]

def drawingAttributes : List String := [
  "attributeName", "attributeType", "baseFrequency", "baseProfile", "calcMode",
  "clipPathUnits", "contentScriptType", "contentStyleType", "diffuseConstant", "edgeMode",
  "externalResourcesRequired", "filterRes", "filterUnits", "glyphRef", "gradientTransform",
  "gradientUnits", "kernelMatrix", "kernelUnitLength", "keyPoints", "keySplines", "keyTimes",
  "lengthAdjust", "limitingConeAngle", "markerHeight", "markerUnits", "markerWidth",
  "maskContentUnits", "maskUnits", "numOctaves", "pathLength", "patternContentUnits",
  "patternTransform", "patternUnits", "pointsAtX", "pointsAtY", "pointsAtZ", "preserveAlpha",
  "preserveAspectRatio", "primitiveUnits", "refX", "refY", "repeatCount", "repeatDur",
  "requiredExtensions", "requiredFeatures", "specularConstant", "specularExponent",
  "spreadMethod", "startOffset", "stdDeviation", "stitchTiles", "surfaceScale",
  "systemLanguage", "tableValues", "targetX", "targetY", "textLength", "viewBox", "viewTarget",
  "xChannelSelector", "yChannelSelector", "zoomAndPan"]

/-- The spelling of a lowercase name, if it is one of the listed ones. -/
def spelled (spellings : List String) (name : String) : String :=
  (spellings.find? fun spelling => spelling.map Char.toLower == name).getD name

def spelledKeys (spellings : List String) (attributes : Attributes) : Attributes :=
  OrderedMap.ofList (attributes.entries.map fun (key, value) => (spelled spellings key, value))

/-- Attributes as they are spelled in elements of a kind. -/
def Space.attributes (space : Space) (attributes : Attributes) : Attributes :=
  match space with
  | html => attributes
  | svg => spelledKeys drawingAttributes attributes
  | math => spelledKeys ["definitionURL"] attributes

end Feuilleton.Document
