set_option autoImplicit false

/-!
The standard vocabulary of markup: the element names of HTML, SVG and MathML. Names
of custom elements never belong to it.
-/

namespace JsxLowering

def htmlTags : List String :=
  ["a", "abbr", "address", "area", "article", "aside", "audio", "b", "base", "bdi", "bdo",
   "big", "blockquote", "body", "br", "button", "canvas", "caption", "cite", "code", "col",
   "colgroup", "data", "datalist", "dd", "del", "details", "dfn", "dialog", "div", "dl", "dt",
   "em", "embed", "fieldset", "figcaption", "figure", "footer", "form", "h1", "h2", "h3", "h4",
   "h5", "h6", "head", "header", "hgroup", "hr", "html", "i", "iframe", "img", "input", "ins",
   "kbd", "keygen", "label", "legend", "li", "link", "main", "map", "mark", "menu", "menuitem",
   "meta", "meter", "nav", "noscript", "object", "ol", "optgroup", "option", "output", "p",
   "param", "picture", "pre", "progress", "q", "rp", "rt", "ruby", "s", "samp", "search",
   "section", "select", "slot", "small", "source", "span", "strong", "sub", "summary", "sup",
   "table", "tbody", "td", "template", "textarea", "tfoot", "th", "thead", "time", "tr",
   "track", "u", "ul", "var", "video", "wbr"]

def svgTags : List String :=
  ["animate", "animateMotion", "animateTransform", "circle", "clipPath", "defs", "desc",
   "ellipse", "feBlend", "feColorMatrix", "feComponentTransfer", "feComposite",
   "feConvolveMatrix", "feDiffuseLighting", "feDisplacementMap", "feDistantLight",
   "feDropShadow", "feFlood", "feFuncA", "feFuncB", "feFuncG", "feFuncR", "feGaussianBlur",
   "feImage", "feMerge", "feMergeNode", "feMorphology", "feOffset", "fePointLight",
   "feSpecularLighting", "feSpotLight", "feTile", "feTurbulence", "filter", "foreignObject",
   "g", "image", "line", "linearGradient", "marker", "mask", "metadata", "mpath", "path",
   "pattern", "polygon", "polyline", "radialGradient", "rect", "script", "set", "stop", "style",
   "svg", "switch", "symbol", "text", "textPath", "title", "tspan", "use", "view"]

def mathTags : List String :=
  ["math", "maction", "annotation", "annotation-xml", "menclose", "merror", "mfenced", "mfrac",
   "mi", "mmultiscripts", "mn", "mo", "mover", "mpadded", "mphantom", "mprescripts", "mroot",
   "mrow", "ms", "semantics", "mspace", "msqrt", "mstyle", "msub", "msup", "msubsup", "mtable",
   "mtd", "mtext", "mtr", "munder", "munderover"]

/-- Whether a name belongs to the vocabulary. Case counts. -/
def isKnownTag (name : String) : Bool :=
  htmlTags.contains name || svgTags.contains name || mathTags.contains name

end JsxLowering
