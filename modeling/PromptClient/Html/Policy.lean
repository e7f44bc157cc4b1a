import PromptClient.Html.Basic
import PromptClient.Url.Parse

/-! # What may stay in a fragment

Elements and attributes that can do nothing but show something stay. Of other elements
what they hold stays, unless it is a script or a style or belongs to another
vocabulary, and an address stays if its scheme is harmless.
-/

namespace PromptClient.Html

def shownNames : List String :=
  ["a", "abbr", "acronym", "area", "article", "aside", "b", "bdi", "bdo", "blockquote", "br",
    "caption", "center", "cite", "code", "col", "colgroup", "data", "dd", "del", "details",
    "dfn", "div", "dl", "dt", "em", "figcaption", "figure", "footer", "h1", "h2", "h3", "h4",
    "h5", "h6", "header", "hgroup", "hr", "i", "img", "ins", "kbd", "li", "map", "mark",
    "nav", "ol", "p", "pre", "q", "rp", "rt", "rtc", "ruby", "s", "samp", "small", "span",
    "strike", "strong", "sub", "summary", "sup", "table", "tbody", "td", "th", "thead",
    "time", "tr", "tt", "u", "ul", "var", "wbr"]

def droppedNames : List String := ["script", "style"]

/-- The attributes that every element keeps. -/
def commonAttributes : List String := ["lang", "title"]

def attributesOf (name : String) : List String :=
  match name with
  | "a" => ["href", "hreflang"]
  | "bdo" => ["dir"]
  | "blockquote" => ["cite"]
  | "col" => ["align", "char", "charoff", "span"]
  | "colgroup" => ["align", "char", "charoff", "span"]
  | "del" => ["cite", "datetime"]
  | "hr" => ["align", "size", "width"]
  | "img" => ["align", "alt", "height", "src", "width"]
  | "ins" => ["cite", "datetime"]
  | "ol" => ["start"]
  | "q" => ["cite"]
  | "table" => ["align", "char", "charoff", "summary"]
  | "tbody" => ["align", "char", "charoff"]
  | "td" => ["align", "char", "charoff", "colspan", "headers", "rowspan"]
  | "th" => ["align", "char", "charoff", "colspan", "headers", "rowspan", "scope"]
  | "thead" => ["align", "char", "charoff"]
  | "tr" => ["align", "char", "charoff"]
  | _ => []

def harmlessSchemes : List String :=
  ["bitcoin", "ftp", "ftps", "geo", "http", "https", "im", "irc", "ircs", "magnet", "mailto",
    "mms", "mx", "news", "nntp", "openpgp4fpr", "sip", "sms", "smsto", "ssh", "tel", "url",
    "webcal", "wtai", "xmpp"]

/-- The names of vector graphics and of mathematics that mean nothing else in HTML. -/
def foreignNames : List String :=
  ["animate", "animateMotion", "animateTransform", "circle", "clipPath", "defs", "desc",
    "discard", "ellipse", "feBlend", "feColorMatrix", "feComponentTransfer", "feComposite",
    "feConvolveMatrix", "feDiffuseLighting", "feDisplacementMap", "feDistantLight",
    "feDropShadow", "feFlood", "feFuncA", "feFuncB", "feFuncG", "feFuncR", "feGaussianBlur",
    "feImage", "feMerge", "feMergeNode", "feMorphology", "feOffset", "fePointLight",
    "feSpecularLighting", "feSpotLight", "feTile", "feTurbulence", "filter", "foreignObject",
    "g", "image", "line", "linearGradient", "marker", "mask", "metadata", "mpath", "path",
    "pattern", "polygon", "polyline", "radialGradient", "rect", "set", "stop", "svg",
    "switch", "symbol", "text", "textPath", "tspan", "use", "view",
    "abs", "and", "annotation", "annotation-xml", "apply", "approx", "arccos", "arccosh",
    "arccot", "arccoth", "arccsc", "arccsch", "arcsec", "arcsech", "arcsin", "arcsinh",
    "arctan", "arctanh", "arg", "bind", "bvar", "card", "cartesianproduct", "cbytes",
    "ceiling", "cerror", "ci", "cn", "codomain", "complexes", "compose", "condition",
    "conjugate", "cos", "cosh", "cot", "coth", "cs", "csc", "csch", "csymbol", "curl",
    "declare", "degree", "determinant", "diff", "divergence", "divide", "domain",
    "domainofapplication", "emptyset", "eq", "equivalent", "eulergamma", "exists", "exp",
    "exponentiale", "factorial", "factorof", "false", "floor", "fn", "forall", "gcd", "geq",
    "grad", "gt", "ident", "imaginary", "imaginaryi", "implies", "in", "infinity", "int",
    "integers", "intersect", "interval", "inverse", "lambda", "laplacian", "lcm", "leq",
    "limit", "list", "ln", "log", "logbase", "lowlimit", "lt", "maction", "maligngroup",
    "malignmark", "math", "matrix", "matrixrow", "max", "mean", "median", "menclose",
    "merror", "mfenced", "mfrac", "mglyph", "mi", "min", "minus", "mlabeledtr",
    "mlongdiv", "mmultiscripts", "mn", "mo", "mode", "moment", "momentabout", "mover",
    "mpadded", "mphantom", "mprescripts", "mroot", "mrow", "ms", "mscarries", "mscarry",
    "msgroup", "msline", "mspace", "msqrt", "msrow", "mstack", "mstyle", "msub", "msubsup",
    "msup", "mtable", "mtd", "mtext", "mtr", "munder", "munderover", "naturalnumbers", "neq",
    "none", "not", "notanumber", "notin", "notprsubset", "notsubset", "or", "otherwise",
    "outerproduct", "partialdiff", "pi", "piece", "piecewise", "plus", "power", "primes",
    "product", "prsubset", "quotient", "rationals", "real", "reals", "reln", "rem", "root",
    "scalarproduct", "sdev", "sec", "sech", "selector", "semantics", "sep", "setdiff",
    "share", "sin", "sinh", "subset", "sum", "tan", "tanh", "tendsto", "times", "transpose",
    "true", "union", "uplimit", "variance", "vector", "vectorproduct", "xor"]

/-- An element stands where its vocabulary may begin. -/
def isProper (vocabulary : Vocabulary) (name : String) : Bool :=
  match vocabulary with
  | .svg => name = "svg"
  | .math => name = "math"
  | .html => !foreignNames.contains name

/-- An address without a scheme, or with a harmless one. -/
def isHarmless (address : List Char) : Bool :=
  match Url.parse (String.ofList address) with
  | .ok url => harmlessSchemes.contains url.scheme
  | .error fault => fault = .relative

def keepsAttribute (name : String) (given : Attribute) : Bool :=
  (commonAttributes.contains given.name || (attributesOf name).contains given.name) &&
    ((given.name ≠ "href" && given.name ≠ "src") || isHarmless given.value)

/-- What a link says about the page it leads to: it learns nothing of this one. -/
def linkRelation : Attribute := ⟨"rel", "noopener noreferrer".toList⟩

def cleanAttributes (name : String) (attributes : List Attribute) : List Attribute :=
  attributes.filter (keepsAttribute name) ++ (if name = "a" then [linkRelation] else [])

mutual

def clean : Node → List Node
  | .text value => [.text value]
  | .element vocabulary name attributes children =>
      if droppedNames.contains name || !isProper vocabulary name then []
      else if shownNames.contains name then
        [.element vocabulary name (cleanAttributes name attributes) (cleanAll children)]
      else cleanAll children

def cleanAll : List Node → List Node
  | [] => []
  | node :: rest => clean node ++ cleanAll rest

end

end PromptClient.Html
