import PromptClient.Html.Builder
import PromptClient.Html.Reader

/-! # Rules of the modes

What a token does depends on what it is taken as a part of. A rule either takes the
token or hands it on to the rule of another mode.
-/

namespace PromptClient.Html

/-- What a rule does with a token. -/
inductive Outcome
  | done (builder : Builder)
  /-- The token is taken again, in another mode. -/
  | again (mode : Mode) (builder : Builder)
  | using (mode : Mode) (builder : Builder)
  /-- The rule of the body takes the token, and what it inserts goes before the
  table. -/
  | fostered (builder : Builder)

open Builder

def Tag.isOne (tag : Tag) (names : List String) : Bool := names.contains tag.name

/-! ## Head -/

def headNames : List String :=
  ["base", "basefont", "bgsound", "link", "meta", "noframes", "script", "style", "template",
    "title"]

def headRule (tag : Tag) (builder : Builder) : Builder :=
  if tag.isOne ["base", "basefont", "bgsound", "link", "meta"] then builder.insertEmpty tag
  else if tag.isOne ["template"] then
    let builder := (builder.insert tag).mark
    { builder with mode := .template, templateModes := .template :: builder.templateModes }
  else builder.insertVerbatim tag

def endTemplate (builder : Builder) : Builder :=
  if builder.hasOpen ["template"] then
    let builder :=
      { builder with stack := endImplied templateImpliedNames "" builder.stack }
    let builder := (builder.close ["template"]).unmark
    { builder with templateModes := builder.templateModes.drop 1 }.resetMode
  else builder

/-! ## Body -/

/-- The elements before which a paragraph ends. -/
def blockNames : List String :=
  ["address", "article", "aside", "blockquote", "center", "details", "dialog", "dir", "div",
    "dl", "fieldset", "figcaption", "figure", "footer", "header", "hgroup", "main", "menu",
    "nav", "ol", "p", "section", "summary", "ul"]

def closableNames : List String :=
  ["address", "article", "aside", "blockquote", "button", "center", "details", "dialog", "dir",
    "div", "dl", "fieldset", "figcaption", "figure", "footer", "header", "hgroup", "listing",
    "main", "menu", "nav", "ol", "pre", "section", "summary", "ul"]

def emphasisNames : List String :=
  ["b", "big", "code", "em", "font", "i", "s", "small", "strike", "strong", "tt", "u"]

def openItem? (names : List String) : List Open → Option String
  | [] => none
  | element :: rest =>
      if element.isOne names then some element.tag.name
      else if element.isSpecial && !element.isOne ["address", "div", "p"] then none
      else openItem? names rest

def insertItem (tag : Tag) (builder : Builder) : Builder :=
  let names := if tag.name = "li" then ["li"] else ["dd", "dt"]
  let builder := match openItem? names builder.stack with
    | some name => (builder.closeImplied name).close [name]
    | none => builder
  builder.closeParagraph.insert tag

def closeLink (builder : Builder) : Builder :=
  match builder.recentFormatting.find? fun element => element.tag.name = "a" with
  | none => builder
  | some element =>
      let builder := (builder.endFormatting "a").dropFormatting element.node
      { builder with stack := builder.stack.filter fun other => other.node ≠ element.node }

def selectMode (mode : Mode) : Mode :=
  match mode with
  | .table => .selectInTable
  | .caption => .selectInTable
  | .tableBody => .selectInTable
  | .row => .selectInTable
  | .cell => .selectInTable
  | _ => .select

def bodyOpening (tag : Tag) (builder : Builder) : Builder :=
  if tag.isOne ["html", "body", "frameset", "caption", "col", "colgroup", "frame", "head",
      "tbody", "td", "tfoot", "th", "thead", "tr"] then builder
  else if tag.isOne headNames then headRule tag builder
  else if tag.isOne blockNames then builder.closeParagraph.insert tag
  else if tag.isOne headingNames then
    let builder := builder.closeParagraph
    (if builder.isAt headingNames then builder.pop else builder).insert tag
  else if tag.isOne ["pre", "listing"] then
    { builder.closeParagraph.insert tag with skipsLineFeed := true }
  else if tag.isOne ["form"] then
    if builder.form.isSome && !builder.hasOpen ["template"] then builder
    else
      let opened := builder.closeParagraph.insert tag
      if builder.hasOpen ["template"] then opened
      else { opened with form := some opened.current.node }
  else if tag.isOne ["li", "dd", "dt"] then insertItem tag builder
  else if tag.isOne ["plaintext"] then
    { builder.closeParagraph.insert tag with mode := .verbatim, nextMode := builder.mode }
  else if tag.isOne ["button"] then
    let builder :=
      if builder.inScope ["button"] then (builder.closeImplied "").close ["button"] else builder
    builder.reconstruct.insert tag
  else if tag.isOne ["a"] then (closeLink builder).reconstruct.insertFormatting tag
  else if tag.isOne emphasisNames then builder.reconstruct.insertFormatting tag
  else if tag.isOne ["nobr"] then
    let builder := builder.reconstruct
    let builder :=
      if builder.inScope ["nobr"] then (builder.endFormatting "nobr").reconstruct else builder
    builder.insertFormatting tag
  else if tag.isOne ["applet", "marquee", "object"] then (builder.reconstruct.insert tag).mark
  else if tag.isOne ["table"] then
    { builder.closeParagraph.insert tag with mode := .table }
  else if tag.isOne ["area", "br", "embed", "img", "keygen", "wbr", "input"] then
    builder.reconstruct.insertEmpty tag
  else if tag.isOne ["param", "source", "track"] then builder.insertEmpty tag
  else if tag.isOne ["hr"] then builder.closeParagraph.insertEmpty tag
  else if tag.isOne ["image"] then builder.reconstruct.insertEmpty { tag with name := "img" }
  else if tag.isOne ["textarea"] then { builder.insertVerbatim tag with skipsLineFeed := true }
  else if tag.isOne ["xmp"] then builder.closeParagraph.reconstruct.insertVerbatim tag
  else if tag.isOne ["iframe", "noembed"] then builder.insertVerbatim tag
  else if tag.isOne ["select"] then
    let opened := builder.reconstruct.insert tag
    { opened with mode := selectMode builder.mode }
  else if tag.isOne ["optgroup", "option"] then
    (if builder.isAt ["option"] then builder.pop else builder).reconstruct.insert tag
  else if tag.isOne ["rb", "rtc"] then
    (if builder.inScope ["ruby"] then builder.closeImplied "" else builder).insert tag
  else if tag.isOne ["rp", "rt"] then
    (if builder.inScope ["ruby"] then builder.closeImplied "rtc" else builder).insert tag
  else if tag.isOne ["math"] then
    let builder := builder.reconstruct
    if tag.isClosed then (builder.insertLeaf .math tag).1 else builder.insertOf .math tag
  else if tag.isOne ["svg"] then
    let builder := builder.reconstruct
    if tag.isClosed then (builder.insertLeaf .svg tag).1 else builder.insertOf .svg tag
  else builder.reconstruct.insert tag

def endForm (builder : Builder) : Builder :=
  if builder.hasOpen ["template"] then
    if builder.inScope ["form"] then (builder.closeImplied "").close ["form"] else builder
  else match builder.form with
    | none => builder
    | some node =>
        let builder := { builder with form := none }
        if reaches (fun element => element.node = node) Open.endsScope builder.stack then
          let builder := builder.closeImplied ""
          { builder with stack := builder.stack.filter fun element => element.node ≠ node }
        else builder

def bodyClosing (name : String) (builder : Builder) : Builder :=
  if name = "template" then endTemplate builder
  else if name = "body" || name = "html" then builder
  else if closableNames.contains name then
    if builder.inScope [name] then (builder.closeImplied "").close [name] else builder
  else if name = "form" then endForm builder
  else if name = "p" then
    let builder :=
      if reaches (Open.isOne ["p"]) Open.endsButtonScope builder.stack then builder
      else builder.insertImplied "p"
    builder.closeParagraph
  else if name = "li" then
    if reaches (Open.isOne ["li"]) Open.endsListScope builder.stack then
      (builder.closeImplied "li").close ["li"]
    else builder
  else if name = "dd" || name = "dt" then
    if builder.inScope [name] then (builder.closeImplied name).close [name] else builder
  else if headingNames.contains name then
    if builder.inScope headingNames then (builder.closeImplied "").close headingNames else builder
  else if name = "a" || name = "nobr" || emphasisNames.contains name then
    builder.endFormatting name
  else if name = "applet" || name = "marquee" || name = "object" then
    if builder.inScope [name] then ((builder.closeImplied "").close [name]).unmark else builder
  else if name = "br" then builder.reconstruct.insertEmpty ⟨"br", [], false⟩
  else builder.closeOrdinary name

def bodyRule (token : Token) (builder : Builder) : Outcome :=
  .done (match token with
    | .text value =>
        let value := value.filter (· ≠ '\x00')
        if value.isEmpty then builder else builder.reconstruct.insertText value
    | .opening tag => bodyOpening tag builder
    | .closing name => bodyClosing name builder)

/-! ## Tables -/

/-- The elements that only tables are made of. -/
def tableNames : List String :=
  ["caption", "col", "colgroup", "tbody", "td", "tfoot", "th", "thead", "tr"]

def bodyPartNames : List String := ["tbody", "tfoot", "thead"]

def tableRule (token : Token) (builder : Builder) : Outcome :=
  let cleared := builder.closeTo ["table", "template", "html"]
  match token with
  | .text value =>
      if builder.isAt tablePartNames then
        let value := value.filter (· ≠ '\x00')
        if value.all isSpace then .done (builder.insertText value) else .fostered builder
      else .fostered builder
  | .opening tag =>
      if tag.isOne ["caption"] then .done { cleared.mark.insert tag with mode := .caption }
      else if tag.isOne ["colgroup"] then .done { cleared.insert tag with mode := .columnGroup }
      else if tag.isOne ["col"] then .again .columnGroup (cleared.insertImplied "colgroup")
      else if tag.isOne bodyPartNames then .done { cleared.insert tag with mode := .tableBody }
      else if tag.isOne ["td", "th", "tr"] then .again .tableBody (cleared.insertImplied "tbody")
      else if tag.isOne ["table"] then
        if builder.inTableScope ["table"] then
          let closed := (builder.close ["table"]).resetMode
          .again closed.mode closed
        else .done builder
      else if tag.isOne ["style", "script", "template"] then .done (headRule tag builder)
      else if tag.isOne ["input"] && tag.attributes.any (fun given =>
          given.name = "type" && (String.ofList given.value).toLower = "hidden") then
        .done (builder.insertEmpty tag)
      else if tag.isOne ["form"] then
        if builder.form.isSome || builder.hasOpen ["template"] then .done builder
        else
          let (inserted, element) := builder.insertLeaf .html tag
          .done { inserted with form := some element.node }
      else .fostered builder
  | .closing name =>
      if name = "table" then
        if builder.inTableScope ["table"] then .done (builder.close ["table"]).resetMode
        else .done builder
      else if name = "template" then .done (endTemplate builder)
      else if name = "body" || name = "html" || tableNames.contains name then .done builder
      else .fostered builder

def captionRule (token : Token) (builder : Builder) : Outcome :=
  let closed (_ : Unit) : Builder :=
    { ((builder.closeImplied "").close ["caption"]).unmark with mode := .table }
  let isOpen := builder.inTableScope ["caption"]
  match token with
  | .opening tag =>
      if tag.isOne tableNames then
        if isOpen then .again .table (closed ()) else .done builder
      else .using .body builder
  | .closing name =>
      if name = "caption" then .done (if isOpen then closed () else builder)
      else if name = "table" then
        if isOpen then .again .table (closed ()) else .done builder
      else if name = "body" || name = "html" || tableNames.contains name then .done builder
      else .using .body builder
  | .text _ => .using .body builder

def columnGroupRule (token : Token) (builder : Builder) : Outcome :=
  let leave : Outcome :=
    if builder.isAt ["colgroup"] then .again .table builder.pop else .done builder
  match token with
  | .text value =>
      let inserted := builder.insertText (value.takeWhile isSpace)
      if value.all isSpace then .done inserted
      else if inserted.isAt ["colgroup"] then .again .table inserted.pop
      else .done inserted
  | .opening tag =>
      if tag.isOne ["html"] then .done builder
      else if tag.isOne ["col"] then .done (builder.insertEmpty tag)
      else if tag.isOne ["template"] then .done (headRule tag builder)
      else leave
  | .closing name =>
      if name = "colgroup" then
        .done (if builder.isAt ["colgroup"] then { builder.pop with mode := .table } else builder)
      else if name = "col" then .done builder
      else if name = "template" then .done (endTemplate builder)
      else leave

def tableBodyRule (token : Token) (builder : Builder) : Outcome :=
  let cleared := builder.closeTo (bodyPartNames ++ ["template", "html"])
  let leave : Outcome :=
    if builder.inTableScope bodyPartNames then .again .table cleared.pop else .done builder
  match token with
  | .opening tag =>
      if tag.isOne ["tr"] then .done { cleared.insert tag with mode := .row }
      else if tag.isOne ["td", "th"] then .again .row (cleared.insertImplied "tr")
      else if tag.isOne (["caption", "col", "colgroup"] ++ bodyPartNames) then leave
      else .using .table builder
  | .closing name =>
      if bodyPartNames.contains name then
        .done (if builder.inTableScope [name] then { cleared.pop with mode := .table } else builder)
      else if name = "table" then leave
      else if ["body", "caption", "col", "colgroup", "html", "td", "th", "tr"].contains name then
        .done builder
      else .using .table builder
  | .text _ => .using .table builder

def rowRule (token : Token) (builder : Builder) : Outcome :=
  let cleared := builder.closeTo ["tr", "template", "html"]
  let leave : Outcome :=
    if builder.inTableScope ["tr"] then .again .tableBody cleared.pop else .done builder
  match token with
  | .opening tag =>
      if tag.isOne ["td", "th"] then .done { (cleared.insert tag).mark with mode := .cell }
      else if tag.isOne (["caption", "col", "colgroup", "tr"] ++ bodyPartNames) then leave
      else .using .table builder
  | .closing name =>
      if name = "tr" then
        .done (if builder.inTableScope ["tr"] then { cleared.pop with mode := .tableBody }
          else builder)
      else if name = "table" then leave
      else if bodyPartNames.contains name then
        if builder.inTableScope [name] then leave else .done builder
      else if ["body", "caption", "col", "colgroup", "html", "td", "th"].contains name then
        .done builder
      else .using .table builder
  | .text _ => .using .table builder

def cellRule (token : Token) (builder : Builder) : Outcome :=
  let closed (_ : Unit) : Builder :=
    ((builder.closeImplied "").close ["td", "th"]).unmark
  match token with
  | .opening tag =>
      if tag.isOne tableNames then
        if builder.inTableScope ["td", "th"] then .again .row (closed ()) else .done builder
      else .using .body builder
  | .closing name =>
      if name = "td" || name = "th" then
        if builder.inTableScope [name] then
          .done { ((builder.closeImplied "").close [name]).unmark with mode := .row }
        else .done builder
      else if ["body", "caption", "col", "colgroup", "html"].contains name then .done builder
      else if tablePartNames.contains name then
        if builder.inTableScope [name] then .again .row (closed ()) else .done builder
      else .using .body builder
  | .text _ => .using .body builder

/-! ## Choices -/

def selectRule (token : Token) (builder : Builder) : Outcome :=
  let isOpen := reaches (Open.isOne ["select"]) Open.endsSelectScope builder.stack
  let closed (_ : Unit) : Builder := (builder.close ["select"]).resetMode
  match token with
  | .text value => .done (builder.insertText (value.filter (· ≠ '\x00')))
  | .opening tag =>
      if tag.isOne ["option"] then
        .done ((if builder.isAt ["option"] then builder.pop else builder).insert tag)
      else if tag.isOne ["optgroup"] then
        let builder := if builder.isAt ["option"] then builder.pop else builder
        .done ((if builder.isAt ["optgroup"] then builder.pop else builder).insert tag)
      else if tag.isOne ["select"] then .done (if isOpen then closed () else builder)
      else if tag.isOne ["input", "keygen", "textarea"] then
        if isOpen then .again (closed ()).mode (closed ()) else .done builder
      else if tag.isOne ["script", "template"] then .done (headRule tag builder)
      else .done builder
  | .closing name =>
      if name = "optgroup" then
        let isInGroup := builder.isAt ["option"] &&
          (builder.stack.drop 1).head?.any (Open.isOne ["optgroup"])
        let builder := if isInGroup then builder.pop else builder
        .done (if builder.isAt ["optgroup"] then builder.pop else builder)
      else if name = "option" then
        .done (if builder.isAt ["option"] then builder.pop else builder)
      else if name = "select" then .done (if isOpen then closed () else builder)
      else if name = "template" then .done (endTemplate builder)
      else .done builder

def selectInTableRule (token : Token) (builder : Builder) : Outcome :=
  let names := ["caption", "table", "tbody", "tfoot", "thead", "tr", "td", "th"]
  let closed (_ : Unit) : Builder := (builder.close ["select"]).resetMode
  match token with
  | .opening tag =>
      if tag.isOne names then .again (closed ()).mode (closed ()) else .using .select builder
  | .closing name =>
      if names.contains name then
        if builder.inTableScope [name] then .again (closed ()).mode (closed ())
        else .done builder
      else .using .select builder
  | .text _ => .using .select builder

/-! ## Templates -/

def inTemplate (mode : Mode) (builder : Builder) : Outcome :=
  .again mode { builder with templateModes := mode :: builder.templateModes.drop 1 }

def templateRule (token : Token) (builder : Builder) : Outcome :=
  match token with
  | .text _ => .using .body builder
  | .opening tag =>
      if tag.isOne headNames then .done (headRule tag builder)
      else if tag.isOne (["caption", "colgroup"] ++ bodyPartNames) then
        inTemplate .table builder
      else if tag.isOne ["col"] then inTemplate .columnGroup builder
      else if tag.isOne ["tr"] then inTemplate .tableBody builder
      else if tag.isOne ["td", "th"] then inTemplate .row builder
      else inTemplate .body builder
  | .closing name => .done (if name = "template" then endTemplate builder else builder)

def rule : Mode → Token → Builder → Outcome
  | .body => bodyRule
  | .verbatim => bodyRule
  | .table => tableRule
  | .caption => captionRule
  | .columnGroup => columnGroupRule
  | .tableBody => tableBodyRule
  | .row => rowRule
  | .cell => cellRule
  | .select => selectRule
  | .selectInTable => selectInTableRule
  | .template => templateRule

def take : (fuel : Nat) → Mode → Token → Builder → Builder
  | 0, _, _, builder => builder
  | fuel + 1, mode, token, builder =>
      match rule mode token builder with
      | .done builder => builder
      | .again mode builder => take fuel mode token { builder with mode }
      | .using mode builder => take fuel mode token builder
      | .fostered builder =>
          let taken := take fuel .body token { builder with isFostering := true }
          { taken with isFostering := false }

/-! ## Other vocabularies -/

def breakoutNames : List String :=
  ["b", "big", "blockquote", "body", "br", "center", "code", "dd", "div", "dl", "dt", "em",
    "embed", "h1", "h2", "h3", "h4", "h5", "h6", "head", "hr", "i", "img", "li", "listing",
    "menu", "meta", "nobr", "ol", "p", "pre", "ruby", "s", "small", "span", "strong",
    "strike", "sub", "sup", "table", "tt", "u", "ul", "var"]

def breaksOut (tag : Tag) : Bool :=
  tag.isOne breakoutNames ||
    (tag.isOne ["font"] && tag.attributes.any fun given =>
      given.name = "color" || given.name = "face" || given.name = "size")

/-- The note in mathematics holds HTML. -/
def holdsHtml (element : Open) : Bool :=
  element.tag.attributes.any fun given =>
    given.name = "encoding" &&
      ["text/html", "application/xhtml+xml"].contains (String.ofList given.value).toLower

def isForeign (token : Token) (builder : Builder) : Bool :=
  let current := builder.current
  if current.vocabulary = .html then false
  else match token with
    | .text _ =>
        !(current.isMathText || current.isDrawingText ||
          (current.isMathNote && holdsHtml current))
    | .opening tag =>
        !((current.isMathText && !tag.isOne ["mglyph", "malignmark"]) || current.isDrawingText ||
          (current.isMathNote && (tag.isOne ["svg"] || holdsHtml current)))
    | .closing _ => true

/-- What a closing tag of another vocabulary leaves open. `none` hands it on to HTML. -/
def closeForeign (name : String) (isFirst : Bool) (whole : List Open) :
    List Open → Option (List Open)
  | [] => some whole
  | element :: rest =>
      if rest.isEmpty then some whole
      else if !isFirst && element.vocabulary = .html then none
      else if element.tag.name = name then some rest
      else closeForeign name false whole rest

def takeForeign (token : Token) (builder : Builder) : Builder :=
  match token with
  | .text value => builder.insertText (value.map withoutNul)
  | .opening tag =>
      if breaksOut tag then
        let stack := builder.stack.dropWhile fun element =>
          !(element.vocabulary = .html || element.isMathText || element.isDrawingText)
        take 12 builder.mode token { builder with stack }
      else
        let vocabulary := builder.current.vocabulary
        if tag.isClosed then (builder.insertLeaf vocabulary tag).1
        else builder.insertOf vocabulary tag
  | .closing name =>
      match closeForeign name true builder.stack builder.stack with
      | some stack => { builder with stack }
      | none => take 12 builder.mode token builder

def takeToken (token : Token) (builder : Builder) : Builder :=
  let token := match token with
    | .text ('\n' :: rest) => if builder.skipsLineFeed then .text rest else token
    | _ => token
  let builder := { builder with skipsLineFeed := false }
  if isForeign token builder then takeForeign token builder else take 12 builder.mode token builder

end PromptClient.Html
