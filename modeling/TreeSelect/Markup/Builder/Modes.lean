import TreeSelect.Markup.Builder.Table
import TreeSelect.Markup.Builder.Doctype

namespace TreeSelect.Markup

namespace Builder

def createRoot (b : Builder) (attrs : List Attr) : Builder :=
  let (d, n) := b.dom.createElement .html "html" (plainAttrs attrs)
  { b with dom := d.append 0 n, stack := b.stack.push n }

def insertHead (b : Builder) (t : Tag) : Builder :=
  let (b, h) := b.insertElement .html "head" (plainAttrs t.attrs)
  { b with head := some h, mode := .inHead }

def initial : Rules := fun b t =>
  match t with
  | .chars s =>
    if allSpace s then (b, .done)
    else ({ b with legacyLayout := true, mode := .beforeHtml }, .again t)
  | .comment s => (b.appendComment 0 s, .done)
  | _ => ({ b with legacyLayout := true, mode := .beforeHtml }, .again t)

def beforeHtml : Rules := fun b t =>
  let other : Builder × Next := ({ b.createRoot [] with mode := .beforeHead }, .again t)
  match t with
  | .chars s => if allSpace s then (b, .done) else other
  | .comment s => (b.appendComment 0 s, .done)
  | .doctype _ => (b, .done)
  | .startTag tg =>
    if tg.name == "html" then ({ b.createRoot tg.attrs with mode := .beforeHead }, .done)
    else other
  | .endTag tg => if ["head", "body", "html", "br"].contains tg.name then other else (b, .done)
  | _ => other

def beforeHead (via : Delegate) : Rules := fun b t =>
  let other : Builder × Next := (b.insertHead { name := "head" }, .again t)
  match t with
  | .chars s => if allSpace s then (b, .done) else other
  | .comment s => (b.insertComment s, .done)
  | .doctype _ => (b, .done)
  | .startTag tg =>
    if tg.name == "html" then via .inBody b t
    else if tg.name == "head" then (b.insertHead tg, .done)
    else other
  | .endTag tg => if ["head", "body", "html", "br"].contains tg.name then other else (b, .done)
  | _ => other

def openTemplate (b : Builder) (t : Tag) : Builder :=
  let b := { b with formatting := b.formatting.push .marker, framesetOk := false }
  let b := { b with mode := .inTemplate, templateModes := .inTemplate :: b.templateModes }
  b.insertHtml t

def closeTemplate (b : Builder) : Builder :=
  if !b.hasTemplate then b
  else
    let b := (b.generateAllImpliedEnd.popUntilNamed ["template"]).clearToMarker
    { b with templateModes := b.templateModes.tail }.resetMode

def inHead (via : Delegate) : Rules := fun b t =>
  let other : Builder × Next := ({ b.pop with mode := .afterHead }, .again t)
  let done (b : Builder) : Builder × Next := (b, .done)
  match t with
  | .chars s => if allSpace s then done (b.insertText s) else other
  | .comment s => done (b.insertComment s)
  | .doctype _ => done b
  | .startTag tg =>
    let n := tg.name
    if n == "html" then via .inBody b t
    else if ["base", "basefont", "bgsound", "link", "meta"].contains n then done (b.insertVoid tg)
    else if n == "title" then done (b.rawTextElement tg .rcdata)
    else if n == "noframes" || n == "style" || n == "noscript" then
      done (b.rawTextElement tg .rawtext)
    else if n == "script" then done (b.rawTextElement tg .scriptData)
    else if n == "template" then done (b.openTemplate tg)
    else if n == "head" then done b
    else other
  | .endTag tg =>
    let n := tg.name
    if n == "head" then done { b.pop with mode := .afterHead }
    else if ["body", "html", "br"].contains n then other
    else if n == "template" then done b.closeTemplate
    else done b
  | _ => other

def afterHead (via : Delegate) : Rules := fun b t =>
  let other : Builder × Next := ({ b.insertPhantom "body" with mode := .inBody }, .again t)
  let done (b : Builder) : Builder × Next := (b, .done)
  match t with
  | .chars s => if allSpace s then done (b.insertText s) else other
  | .comment s => done (b.insertComment s)
  | .doctype _ => done b
  | .startTag tg =>
    let n := tg.name
    if n == "html" then via .inBody b t
    else if n == "body" then done { b.insertHtml tg with framesetOk := false, mode := .inBody }
    else if n == "frameset" then done { b.insertHtml tg with mode := .inFrameset }
    else if headTags.contains n then
      match b.head with
      | some h =>
        let (b, r) := via .inHead { b with stack := b.stack.push h } t
        (b.removeFromStack h, r)
      | none => done b
    else if n == "head" then done b
    else other
  | .endTag tg =>
    let n := tg.name
    if n == "template" then via .inHead b t
    else if ["body", "html", "br"].contains n then other
    else done b
  | _ => other

def text : Rules := fun b t =>
  match t with
  | .chars s => (b.insertText s, .done)
  | .eof => ({ b.pop with mode := b.original }, .again t)
  | .endTag _ => ({ b.pop with mode := b.original }, .done)
  | _ => (b, .done)

def templateAs (b : Builder) (m : Mode) (t : Token) : Builder × Next :=
  ({ b with templateModes := m :: b.templateModes.tail, mode := m }, .again t)

def inTemplate (via : Delegate) : Rules := fun b t =>
  match t with
  | .chars _ | .comment _ => via .inBody b t
  | .startTag tg =>
    let n := tg.name
    if headTags.contains n then via .inHead b t
    else if ["caption", "colgroup", "tbody", "tfoot", "thead"].contains n then
      b.templateAs .inTable t
    else if n == "col" then b.templateAs .inColumnGroup t
    else if n == "tr" then b.templateAs .inTableBody t
    else if n == "td" || n == "th" then b.templateAs .inRow t
    else b.templateAs .inBody t
  | .endTag tg => if tg.name == "template" then via .inHead b t else (b, .done)
  | .eof =>
    if !b.hasTemplate then (b, .done)
    else
      let b := (b.popUntilNamed ["template"]).clearToMarker
      ({ b with templateModes := b.templateModes.tail }.resetMode, .again t)
  | _ => (b, .done)

def afterBody (via : Delegate) : Rules := fun b t =>
  let other : Builder × Next := ({ b with mode := .inBody }, .again t)
  match t with
  | .chars s => if allSpace s then via .inBody b t else other
  | .comment s => (b.appendComment (b.stack[0]?.getD 0) s, .done)
  | .doctype _ => (b, .done)
  | .startTag tg => if tg.name == "html" then via .inBody b t else other
  | .endTag tg => if tg.name == "html" then ({ b with mode := .afterAfterBody }, .done) else other
  | .eof => (b, .done)
  | .nullChar => other
  | .parseError => (b, .done)

def inFrameset (via : Delegate) : Rules := fun b t =>
  let done (b : Builder) : Builder × Next := (b, .done)
  match t with
  | .chars s => done (if allSpace s then b.insertText s else b)
  | .comment s => done (b.insertComment s)
  | .startTag tg =>
    let n := tg.name
    if n == "html" then via .inBody b t
    else if n == "frameset" then done (b.insertHtml tg)
    else if n == "frame" then done (b.insertVoid tg)
    else if n == "noframes" then via .inHead b t
    else done b
  | .endTag tg =>
    if tg.name == "frameset" && b.stack.size != 1 then
      let b := b.pop
      done (if b.currentIs ["frameset"] then b else { b with mode := .afterFrameset })
    else done b
  | _ => done b

def afterFrameset (via : Delegate) : Rules := fun b t =>
  let done (b : Builder) : Builder × Next := (b, .done)
  match t with
  | .chars s => done (if allSpace s then b.insertText s else b)
  | .comment s => done (b.insertComment s)
  | .startTag tg =>
    if tg.name == "html" then via .inBody b t
    else if tg.name == "noframes" then via .inHead b t
    else done b
  | .endTag tg => done (if tg.name == "html" then { b with mode := .afterAfterFrameset } else b)
  | _ => done b

def afterAfterBody (via : Delegate) : Rules := fun b t =>
  let other : Builder × Next := ({ b with mode := .inBody }, .again t)
  match t with
  | .chars s => if allSpace s then via .inBody b t else other
  | .comment s => (b.appendComment 0 s, .done)
  | .doctype _ => (b, .done)
  | .startTag tg => if tg.name == "html" then via .inBody b t else other
  | .eof => (b, .done)
  | _ => other

def afterAfterFrameset (via : Delegate) : Rules := fun b t =>
  match t with
  | .chars s =>
    if allSpace s then via .inBody b t
    else (b, .done)
  | .comment s => (b.appendComment 0 s, .done)
  | .startTag tg =>
    if tg.name == "html" then via .inBody b t
    else if tg.name == "noframes" then via .inHead b t
    else (b, .done)
  | _ => (b, .done)

def rulesOf (via : Delegate) : Mode → Rules
  | .initial => initial
  | .beforeHtml => beforeHtml
  | .beforeHead => beforeHead via
  | .inHead => inHead via
  | .afterHead => afterHead via
  | .inBody => inBody via
  | .text => text
  | .inTable => inTable via
  | .inTableText => inTableText via
  | .inCaption => inCaption via
  | .inColumnGroup => inColumnGroup via
  | .inTableBody => inTableBody via
  | .inRow => inRow via
  | .inCell => inCell via
  | .inSelect => inSelect via
  | .inSelectInTable => inSelectInTable via
  | .inTemplate => inTemplate via
  | .afterBody => afterBody via
  | .inFrameset => inFrameset via
  | .afterFrameset => afterFrameset via
  | .afterAfterBody => afterAfterBody via
  | .afterAfterFrameset => afterAfterFrameset via

/-- The rules of every mode, with hand-overs nested at most `depth` deep. No chain of hand-overs
is longer than four, so a depth of eight never cuts one short. -/
def modeRules : Nat → Delegate
  | 0 => fun _ b _ => (b, .done)
  | depth + 1 => rulesOf (modeRules depth)

def breaksOut : List String :=
  ["b", "big", "blockquote", "body", "br", "center", "code", "dd", "div", "dl", "dt", "em",
    "embed", "h1", "h2", "h3", "h4", "h5", "h6", "head", "hr", "i", "img", "li", "listing", "menu",
    "meta", "nobr", "ol", "p", "pre", "ruby", "s", "small", "span", "strong", "strike", "sub",
    "sup", "table", "tt", "u", "ul", "var"]

/-- Whether a token goes to the rules for foreign content: the current node is not HTML, and
the token is not one that an integration point hands to the HTML rules. -/
def isForeign (b : Builder) (t : Token) : Bool :=
  match t with
  | .eof => false
  | _ =>
    if b.stack.isEmpty then false else
    let cur := b.current
    let d := b.dom
    match d.name? cur with
    | none => false
    | some (.html, _) => false
    | some _ =>
      let textLike := match t with
        | .chars _ | .nullChar => true
        | _ => false
      let startName := match t with
        | .startTag tg => some tg.name
        | _ => none
      if d.isMathmlTextPoint cur && (textLike ||
          (startName.any fun n => n != "mglyph" && n != "malignmark")) then false
      else if d.isSvgHtmlPoint cur && (textLike || startName.isSome) then false
      else if d.isIn .mathml cur ["annotation-xml"] then
        if startName == some "svg" then false
        else if textLike || startName.isSome then !d.isAnnotationHtmlPoint cur
        else true
      else true

/-- Leave foreign content for a start tag that belongs to HTML: pop to an HTML element or an
integration point, then process the tag by the current mode. -/
def breakOut (b : Builder) (t : Token) : Builder × Next :=
  let keep (n : Nat) : Bool :=
    (match b.dom.name? n with
      | some (.html, _) => true
      | _ => false) || b.dom.isMathmlTextPoint n || b.dom.isSvgHtmlPoint n
  let k := (b.stack.toList.reverse.takeWhile fun n => !keep n).length
  let b := { b with stack := b.stack.extract 0 (b.stack.size - k) }
  modeRules 8 b.mode b t

def foreignStart (b : Builder) (t : Tag) : Builder :=
  match b.dom.name? b.current with
  | some (ns, _) =>
    let name := if ns == .svg then renamed svgTagNames t.name else t.name
    let (b, _) := b.insertElement ns name (foreignAttrs ns t.attrs)
    if t.selfClosing then b.pop else b
  | none => b

/-- An end tag inside foreign content: close the nearest element of that name, unless an HTML
element comes first, which hands the tag to the current mode. -/
def foreignEnd (b : Builder) (t : Tag) : Builder × Next :=
  go (b.stack.size - 1) true b.stack.size
where
  go (idx : Nat) (first : Bool) : Nat → Builder × Next
    | 0 => (b, .done)
    | fuel + 1 =>
      if idx == 0 then (b, .done) else
      let n := b.stack[idx]?.getD 0
      match b.dom.name? n with
      | some (ns, nm) =>
        if !first && ns == .html then modeRules 8 b.mode b (.endTag t)
        else if lowerAsciiString nm == t.name then
          ({ b with stack := b.stack.extract 0 idx }, .done)
        else go (idx - 1) false fuel
      | none => go (idx - 1) false fuel

def inForeign (b : Builder) (t : Token) : Builder × Next :=
  match t with
  | .nullChar => (b.insertText (String.singleton replacementChar), .done)
  | .chars s =>
    let b := b.insertText s
    (if allSpace s then b else { b with framesetOk := false }, .done)
  | .comment s => (b.insertComment s, .done)
  | .startTag tg =>
    let fontBreaks := tg.name == "font" &&
      tg.attrs.any fun a => a.name == "color" || a.name == "face" || a.name == "size"
    if breaksOut.contains tg.name || fontBreaks then breakOut b t
    else (b.foreignStart tg, .done)
  | .endTag tg =>
    if tg.name == "br" || tg.name == "p" then breakOut b t
    else foreignEnd b tg
  | _ => (b, .done)

def process (b : Builder) (t : Token) : Nat → Builder
  | 0 => b
  | fuel + 1 =>
    let (b, r) := if b.isForeign t then b.inForeign t else modeRules 8 b.mode b t
    match r with
    | .done => b
    | .again t => process b t fuel

/-- Feed one token from the lexer. A document type declaration counts only at the start; a
line feed that is the very next token after `pre`, `listing` or `textarea` is dropped; a parse
error changes nothing else; text is handed over in runs that are all blank or have no blank at
their start. -/
def feed (b : Builder) (t : Token) : Builder :=
  let skipLf := b.ignoreLf
  let b := { b with ignoreLf := false }
  let fuel := b.stack.size + 16
  match t with
  | .doctype d =>
    if b.mode == .initial then
      let (dom, n) := b.dom.create (.doctype (d.name.getD ""))
      { b with dom := dom.append 0 n, legacyLayout := d.asksLegacyLayout, mode := .beforeHtml }
    else b
  | .chars s =>
    let cs := s.toList
    let cs := if skipLf && cs.head? == some '\n' then cs.tail else cs
    (runs cs).foldl (fun b r => b.process (.chars (String.ofList r)) (b.stack.size + 16)) b
  | .parseError => b
  | _ => b.process t fuel
where
  /-- Split text into maximal runs of blanks and of other characters. -/
  runs (cs : List Char) : List (List Char) :=
    cs.splitBy fun x y => isSpace x == isSpace y

end Builder

end TreeSelect.Markup
