import TreeSelect.Markup.Builder.Adoption

namespace TreeSelect.Markup

namespace Builder

def blockStarts : List String :=
  ["address", "article", "aside", "blockquote", "center", "details", "dialog", "dir", "div",
    "dl", "fieldset", "figcaption", "figure", "footer", "header", "hgroup", "main", "menu", "nav",
    "ol", "p", "search", "section", "summary", "ul"]

def blockEnds : List String :=
  ["address", "article", "aside", "blockquote", "button", "center", "details", "dialog", "dir",
    "div", "dl", "fieldset", "figcaption", "figure", "footer", "header", "hgroup", "listing",
    "main", "menu", "nav", "ol", "pre", "search", "section", "summary", "ul"]

def headings : List String := ["h1", "h2", "h3", "h4", "h5", "h6"]

def formattingNames : List String :=
  ["b", "big", "code", "em", "font", "i", "s", "small", "strike", "strong", "tt", "u"]

def headTags : List String :=
  ["base", "basefont", "bgsound", "link", "meta", "noframes", "script", "style", "template",
    "title"]

def bodyElem? (b : Builder) : Option Nat :=
  match b.stack[1]? with
  | some n => if b.dom.isHtml n ["body"] then some n else none
  | none => none

/-- Close an open list item (`li`, or `dd`/`dt`) before a new one: the nearest such element on
the stack closes, unless a special element other than `address`, `div` and `p` comes first. -/
def closeListItem (b : Builder) (names : List String) : Builder :=
  go b.stack.toList.reverse
where
  go : List Nat → Builder
    | [] => b
    | n :: rest =>
      match b.dom.name? n with
      | some (.html, name) =>
        if names.contains name then (b.generateImpliedEnd name).popUntilNamed [name]
        else if b.isSpecial n && !(["address", "div", "p"].contains name) then b
        else go rest
      | _ => go rest

/-- Insert a foreign element for an `svg` or `math` start tag in body content, where it goes
straight into the current node: the formatting elements are not opened again first. -/
def enterForeign (b : Builder) (ns : Ns) (t : Tag) : Builder :=
  let (b, _) := b.insertElement ns t.name (foreignAttrs ns t.attrs)
  if t.selfClosing then b.pop else b

def bodyStart (via : Delegate) (b : Builder) (t : Tag) : Builder × Next :=
  let n := t.name
  let done (b : Builder) : Builder × Next := (b, .done)
  if n == "html" then
    if b.hasTemplate then done b
    else done { b with dom := b.dom.addMissingAttrs (b.stack[0]?.getD 0) (plainAttrs t.attrs) }
  else if headTags.contains n then via .inHead b (.startTag t)
  else if n == "body" then
    match b.bodyElem? with
    | some body =>
      if b.hasTemplate then done b
      else
        let dom := b.dom.addMissingAttrs body (plainAttrs t.attrs)
        done { b with framesetOk := false, dom := dom }
    | none => done b
  else if n == "frameset" then
    match b.bodyElem? with
    | some body =>
      if !b.framesetOk then done b
      else
        let b := { b with dom := b.dom.detach body, stack := b.stack.extract 0 1 }
        done { b.insertHtml t with mode := .inFrameset }
    | none => done b
  else if blockStarts.contains n then done (b.closePInButtonScope.insertHtml t)
  else if headings.contains n then
    let b := b.closePInButtonScope
    let b := if b.currentIs headings then b.pop else b
    done (b.insertHtml t)
  else if n == "pre" || n == "listing" then
    done { b.closePInButtonScope.insertHtml t with ignoreLf := true, framesetOk := false }
  else if n == "form" then
    if b.form.isSome && !b.hasTemplate then done b
    else
      let (b, f) := b.closePInButtonScope.insertElement .html n (plainAttrs t.attrs)
      done (if b.hasTemplate then b else { b with form := some f })
  else if n == "li" then
    let b := { b with framesetOk := false }.closeListItem ["li"]
    done (b.closePInButtonScope.insertHtml t)
  else if n == "dd" || n == "dt" then
    let b := { b with framesetOk := false }.closeListItem ["dd", "dt"]
    done (b.closePInButtonScope.insertHtml t)
  else if n == "plaintext" then
    done { b.closePInButtonScope.insertHtml t with lexMode := some .plaintext }
  else if n == "button" then
    let b := if b.hasInScope .plain ["button"] then
        b.generateImpliedEnd.popUntilNamed ["button"] else b
    done { b.reconstruct.insertHtml t with framesetOk := false }
  else if n == "a" then
    let b := match b.sinceMarker.find? fun (_, m, _) => b.dom.isHtml m ["a"] with
      | some (_, a, _) =>
        let b := b.adoption "a"
        let b := match b.formattingIndex? a with
          | some i => { b with formatting := b.formatting.eraseIdxIfInBounds i }
          | none => b
        b.removeFromStack a
      | none => b
    done (b.reconstruct.insertFormatting t)
  else if formattingNames.contains n then done (b.reconstruct.insertFormatting t)
  else if n == "nobr" then
    let b := b.reconstruct
    let b := if b.hasInScope .plain ["nobr"] then (b.adoption "nobr").reconstruct else b
    done (b.insertFormatting t)
  else if n == "applet" || n == "marquee" || n == "object" then
    let b := b.reconstruct.insertHtml t
    done { b with formatting := b.formatting.push .marker, framesetOk := false }
  else if n == "table" then
    let b := if b.legacyLayout then b else b.closePInButtonScope
    done { b.insertHtml t with framesetOk := false, mode := .inTable }
  else if ["area", "br", "embed", "img", "keygen", "wbr"].contains n then
    done { b.reconstruct.insertVoid t with framesetOk := false }
  else if n == "input" then
    let b := b.reconstruct.insertVoid t
    let hidden := (t.attr? "type").any fun v => lowerAsciiString v == "hidden"
    done (if hidden then b else { b with framesetOk := false })
  else if n == "param" || n == "source" || n == "track" then done (b.insertVoid t)
  else if n == "hr" then done { b.closePInButtonScope.insertVoid t with framesetOk := false }
  else if n == "image" then (b, .again (.startTag { t with name := "img" }))
  else if n == "textarea" then
    let b := { b.insertHtml t with ignoreLf := true, framesetOk := false }
    done { b with lexMode := some .rcdata, original := b.mode, mode := .text }
  else if n == "xmp" then
    done ({ b.closePInButtonScope.reconstruct with framesetOk := false }.rawTextElement t .rawtext)
  else if n == "iframe" then done ({ b with framesetOk := false }.rawTextElement t .rawtext)
  else if n == "noembed" || n == "noscript" then done (b.rawTextElement t .rawtext)
  else if n == "select" then
    let b := { b.reconstruct.insertHtml t with framesetOk := false }
    let inTable := [Mode.inTable, .inCaption, .inTableBody, .inRow, .inCell].contains b.mode
    done { b with mode := if inTable then .inSelectInTable else .inSelect }
  else if n == "optgroup" || n == "option" then
    let b := if b.currentIs ["option"] then b.pop else b
    done (b.reconstruct.insertHtml t)
  else if n == "rb" || n == "rtc" then
    let b := if b.hasInScope .plain ["ruby"] then b.generateImpliedEnd else b
    done (b.insertHtml t)
  else if n == "rp" || n == "rt" then
    let b := if b.hasInScope .plain ["ruby"] then b.generateImpliedEnd "rtc" else b
    done (b.insertHtml t)
  else if n == "math" then done (b.enterForeign .mathml t)
  else if n == "svg" then done (b.enterForeign .svg t)
  else if ["caption", "col", "colgroup", "frame", "head", "tbody", "td", "tfoot", "th", "thead",
      "tr"].contains n then done b
  else done (b.reconstruct.insertHtml t)

def bodyEnd (via : Delegate) (b : Builder) (t : Tag) : Builder × Next :=
  let n := t.name
  let done (b : Builder) : Builder × Next := (b, .done)
  if n == "template" then via .inHead b (.endTag t)
  else if n == "body" then
    done (if b.hasInScope .plain ["body"] then { b with mode := .afterBody } else b)
  else if n == "html" then
    if b.hasInScope .plain ["body"] then ({ b with mode := .afterBody }, .again (.endTag t))
    else done b
  else if blockEnds.contains n then
    if b.hasInScope .plain [n] then done (b.generateImpliedEnd.popUntilNamed [n]) else done b
  else if n == "form" then
    if b.hasTemplate then
      if b.hasInScope .plain ["form"] then done (b.generateImpliedEnd.popUntilNamed ["form"])
      else done b
    else
      match b.form with
      | some f =>
        let b := { b with form := none }
        if b.inScope .plain (· == f) then done (b.generateImpliedEnd.removeFromStack f) else done b
      | none => done b
  else if n == "p" then
    let b := if b.hasInScope .button ["p"] then b else b.insertHtml { name := "p" }
    done b.closeP
  else if n == "li" then
    if b.hasInScope .listItem ["li"] then done ((b.generateImpliedEnd "li").popUntilNamed ["li"])
    else done b
  else if n == "dd" || n == "dt" then
    if b.hasInScope .plain [n] then done ((b.generateImpliedEnd n).popUntilNamed [n]) else done b
  else if headings.contains n then
    if b.hasInScope .plain headings then done (b.generateImpliedEnd.popUntilNamed headings)
    else done b
  else if n == "a" || n == "nobr" || formattingNames.contains n then done (b.adoption n)
  else if n == "applet" || n == "marquee" || n == "object" then
    if b.hasInScope .plain [n] then done (b.generateImpliedEnd.popUntilNamed [n]).clearToMarker
    else done b
  else if n == "br" then done { b.reconstruct.insertVoid { name := "br" } with framesetOk := false }
  else done (b.closeNamed n)

def inBody (via : Delegate) : Rules := fun b t =>
  match t with
  | .nullChar => (b, .done)
  | .chars s =>
    let b := b.reconstruct.insertText s
    (if allSpace s then b else { b with framesetOk := false }, .done)
  | .comment s => (b.insertComment s, .done)
  | .doctype _ => (b, .done)
  | .eof => if b.templateModes.isEmpty then (b, .done) else via .inTemplate b t
  | .startTag tg => bodyStart via b tg
  | .endTag tg => bodyEnd via b tg
  | .parseError => (b, .done)

end Builder

end TreeSelect.Markup
