/-!
# Basic names of characters

The names that older readers of markup know.
-/

namespace Feuilleton.Markup

def basicCharacterNames : List (String × String) := [
  ("AElig", "Æ"), ("Aacute", "Á"), ("Acirc", "Â"), ("Agrave", "À"), ("Alpha", "Α"), ("Aring", "Å"),
  ("Atilde", "Ã"), ("Auml", "Ä"), ("Beta", "Β"), ("Ccedil", "Ç"), ("Chi", "Χ"), ("Dagger", "‡"),
  ("Delta", "Δ"), ("ETH", "Ð"), ("Eacute", "É"), ("Ecirc", "Ê"), ("Egrave", "È"), ("Epsilon", "Ε"),
  ("Eta", "Η"), ("Euml", "Ë"), ("Gamma", "Γ"), ("Iacute", "Í"), ("Icirc", "Î"), ("Igrave", "Ì"),
  ("Iota", "Ι"), ("Iuml", "Ï"), ("Kappa", "Κ"), ("Lambda", "Λ"), ("Mu", "Μ"), ("Ntilde", "Ñ"),
  ("Nu", "Ν"), ("OElig", "Œ"), ("Oacute", "Ó"), ("Ocirc", "Ô"), ("Ograve", "Ò"), ("Omega", "Ω"),
  ("Omicron", "Ο"), ("Oslash", "Ø"), ("Otilde", "Õ"), ("Ouml", "Ö"), ("Phi", "Φ"), ("Pi", "Π"),
  ("Prime", "″"), ("Psi", "Ψ"), ("Rho", "Ρ"), ("Scaron", "Š"), ("Sigma", "Σ"), ("THORN", "Þ"),
  ("Tau", "Τ"), ("Theta", "Θ"), ("Uacute", "Ú"), ("Ucirc", "Û"), ("Ugrave", "Ù"), ("Upsilon", "Υ"),
  ("Uuml", "Ü"), ("Xi", "Ξ"), ("Yacute", "Ý"), ("Yuml", "Ÿ"), ("Zeta", "Ζ"), ("aacute", "á"),
  ("acirc", "â"), ("acute", "´"), ("aelig", "æ"), ("agrave", "à"), ("alefsym", "ℵ"), ("alpha", "α"),
  ("amp", "&"), ("and", "∧"), ("ang", "∠"), ("apos", "\x27"), ("aring", "å"), ("asymp", "≈"),
  ("atilde", "ã"), ("auml", "ä"), ("bdquo", "„"), ("beta", "β"), ("brvbar", "¦"), ("bull", "•"),
  ("cap", "∩"), ("ccedil", "ç"), ("cedil", "¸"), ("cent", "¢"), ("chi", "χ"), ("circ", "\u02c6"),
  ("clubs", "♣"), ("cong", "≅"), ("copy", "©"), ("crarr", "↵"), ("cup", "∪"), ("curren", "¤"),
  ("dArr", "⇓"), ("dagger", "†"), ("darr", "↓"), ("deg", "°"), ("delta", "δ"), ("diams", "♦"),
  ("divide", "÷"), ("eacute", "é"), ("ecirc", "ê"), ("egrave", "è"), ("empty", "∅"),
  ("emsp", "\u2003"), ("ensp", "\u2002"), ("epsilon", "ε"), ("equiv", "≡"), ("eta", "η"),
  ("eth", "ð"), ("euml", "ë"), ("euro", "€"), ("exist", "∃"), ("fnof", "ƒ"), ("forall", "∀"),
  ("frac12", "½"), ("frac14", "¼"), ("frac34", "¾"), ("frasl", "⁄"), ("gamma", "γ"), ("ge", "≥"),
  ("gt", ">"), ("hArr", "⇔"), ("harr", "↔"), ("hearts", "♥"), ("hellip", "…"), ("iacute", "í"),
  ("icirc", "î"), ("iexcl", "¡"), ("igrave", "ì"), ("image", "ℑ"), ("infin", "∞"), ("int", "∫"),
  ("iota", "ι"), ("iquest", "¿"), ("isin", "∈"), ("iuml", "ï"), ("kappa", "κ"), ("lArr", "⇐"),
  ("lambda", "λ"), ("lang", "〈"), ("laquo", "«"), ("larr", "←"), ("lceil", "⌈"), ("ldquo", "“"),
  ("le", "≤"), ("lfloor", "⌊"), ("lowast", "∗"), ("loz", "◊"), ("lrm", "\u200e"), ("lsaquo", "‹"),
  ("lsquo", "‘"), ("lt", "<"), ("macr", "¯"), ("mdash", "—"), ("micro", "µ"), ("middot", "·"),
  ("minus", "−"), ("mu", "μ"), ("nabla", "∇"), ("nbsp", "\xa0"), ("ndash", "–"), ("ne", "≠"),
  ("ni", "∋"), ("not", "¬"), ("notin", "∉"), ("nsub", "⊄"), ("ntilde", "ñ"), ("nu", "ν"),
  ("oacute", "ó"), ("ocirc", "ô"), ("oelig", "œ"), ("ograve", "ò"), ("oline", "‾"), ("omega", "ω"),
  ("omicron", "ο"), ("oplus", "⊕"), ("or", "∨"), ("ordf", "ª"), ("ordm", "º"), ("oslash", "ø"),
  ("otilde", "õ"), ("otimes", "⊗"), ("ouml", "ö"), ("para", "¶"), ("part", "∂"), ("permil", "‰"),
  ("perp", "⊥"), ("phi", "φ"), ("pi", "π"), ("piv", "ϖ"), ("plusmn", "±"), ("pound", "£"),
  ("prime", "′"), ("prod", "∏"), ("prop", "∝"), ("psi", "ψ"), ("quot", "\""), ("rArr", "⇒"),
  ("radic", "√"), ("rang", "〉"), ("raquo", "»"), ("rarr", "→"), ("rceil", "⌉"), ("rdquo", "”"),
  ("real", "ℜ"), ("reg", "®"), ("rfloor", "⌋"), ("rho", "ρ"), ("rlm", "\u200f"), ("rsaquo", "›"),
  ("rsquo", "’"), ("sbquo", "‚"), ("scaron", "š"), ("sdot", "⋅"), ("sect", "§"), ("shy", "\xad"),
  ("sigma", "σ"), ("sigmaf", "ς"), ("sim", "∼"), ("spades", "♠"), ("sub", "⊂"), ("sube", "⊆"),
  ("sum", "∑"), ("sup", "⊃"), ("sup1", "¹"), ("sup2", "²"), ("sup3", "³"), ("supe", "⊇"),
  ("szlig", "ß"), ("tau", "τ"), ("there4", "∴"), ("theta", "θ"), ("thetasym", "ϑ"),
  ("thinsp", "\u2009"), ("thorn", "þ"), ("tilde", "˜"), ("times", "×"), ("trade", "™"),
  ("uArr", "⇑"), ("uacute", "ú"), ("uarr", "↑"), ("ucirc", "û"), ("ugrave", "ù"), ("uml", "¨"),
  ("upsih", "ϒ"), ("upsilon", "υ"), ("uuml", "ü"), ("weierp", "℘"), ("xi", "ξ"), ("yacute", "ý"),
  ("yen", "¥"), ("yuml", "ÿ"), ("zeta", "ζ"), ("zwj", "\u200d"), ("zwnj", "\u200c")]

/-- Basic names that also count without a semicolon. -/
def basicBareNames : List String := [
  "AElig", "Aacute", "Acirc", "Agrave", "Aring", "Atilde", "Auml", "Ccedil", "ETH", "Eacute",
  "Ecirc", "Egrave", "Euml", "Iacute", "Icirc", "Igrave", "Iuml", "Ntilde", "Oacute", "Ocirc",
  "Ograve", "Oslash", "Otilde", "Ouml", "THORN", "Uacute", "Ucirc", "Ugrave", "Uuml", "Yacute",
  "aacute", "acirc", "acute", "aelig", "agrave", "amp", "aring", "atilde", "auml", "brvbar",
  "ccedil", "cedil", "cent", "copy", "curren", "deg", "divide", "eacute", "ecirc", "egrave", "eth",
  "euml", "frac12", "frac14", "frac34", "gt", "iacute", "icirc", "iexcl", "igrave", "iquest",
  "iuml", "laquo", "lt", "macr", "micro", "middot", "nbsp", "not", "ntilde", "oacute", "ocirc",
  "ograve", "ordf", "ordm", "oslash", "otilde", "ouml", "para", "plusmn", "pound", "quot", "raquo",
  "reg", "sect", "shy", "sup1", "sup2", "sup3", "szlig", "thorn", "times", "uacute", "ucirc",
  "ugrave", "uml", "uuml", "yacute", "yen", "yuml"]

end Feuilleton.Markup
