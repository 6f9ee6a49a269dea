import TreeSelect.Markup.Builder.Body

namespace TreeSelect.Markup

namespace Builder

def tableOuter : List String := ["table", "tbody", "tfoot", "thead", "tr"]

def insertPhantom (b : Builder) (name : String) : Builder := b.insertHtml { name := name }

def fosterInBody (via : Delegate) (b : Builder) (t : Token) : Builder × Next :=
  let (b, n) := via .inBody { b with fosterParenting := true } t
  ({ b with fosterParenting := false }, n)

def clearToTable (b : Builder) : Builder := b.clearBackTo ["html", "table", "template"]

def clearToTableBody (b : Builder) : Builder :=
  b.clearBackTo ["tbody", "tfoot", "thead", "template", "html"]

def clearToRow (b : Builder) : Builder := b.clearBackTo ["tr", "template", "html"]

def inTable (via : Delegate) : Rules := fun b t =>
  let done (b : Builder) : Builder × Next := (b, .done)
  match t with
  | .chars _ | .nullChar =>
    if b.currentIs tableOuter then ({ b with original := b.mode, mode := .inTableText }, .again t)
    else fosterInBody via b t
  | .comment s => done (b.insertComment s)
  | .doctype _ | .parseError => done b
  | .eof => via .inBody b t
  | .startTag tg =>
    let n := tg.name
    if n == "caption" then
      let b := b.clearToTable
      let b := { b with formatting := b.formatting.push .marker }
      done { b.insertHtml tg with mode := .inCaption }
    else if n == "colgroup" then done { b.clearToTable.insertHtml tg with mode := .inColumnGroup }
    else if n == "col" then
      ({ b.clearToTable.insertPhantom "colgroup" with mode := .inColumnGroup }, .again t)
    else if n == "tbody" || n == "tfoot" || n == "thead" then
      done { b.clearToTable.insertHtml tg with mode := .inTableBody }
    else if n == "td" || n == "th" || n == "tr" then
      ({ b.clearToTable.insertPhantom "tbody" with mode := .inTableBody }, .again t)
    else if n == "table" then
      if b.hasInScope .table ["table"] then ((b.popUntilNamed ["table"]).resetMode, .again t)
      else done b
    else if n == "style" || n == "script" || n == "template" then via .inHead b t
    else if n == "input" && ((tg.attr? "type").any fun v => lowerAsciiString v == "hidden") then
      done (b.insertVoid tg)
    else if n == "form" then
      if b.hasTemplate || b.form.isSome then done b
      else
        let (b, f) := b.insertElement .html n (plainAttrs tg.attrs)
        done { b.pop with form := some f }
    else fosterInBody via b t
  | .endTag tg =>
    let n := tg.name
    if n == "table" then
      if b.hasInScope .table ["table"] then done (b.popUntilNamed ["table"]).resetMode
      else done b
    else if ["body", "caption", "col", "colgroup", "html", "tbody", "td", "tfoot", "th", "thead",
        "tr"].contains n then done b
    else if n == "template" then via .inHead b t
    else fosterInBody via b t

def inTableText (via : Delegate) : Rules := fun b t =>
  match t with
  | .nullChar => (b, .done)
  | .chars s => ({ b with pendingText := b.pendingText.push s }, .done)
  | _ =>
    let pending := b.pendingText
    let b := { b with pendingText := #[] }
    let b := if pending.any (fun s => !allSpace s) then
        pending.foldl (fun b s => (fosterInBody via b (.chars s)).1) b
      else pending.foldl (fun b s => b.insertText s) b
    ({ b with mode := b.original }, .again t)

def closeCaption (b : Builder) : Option Builder :=
  if b.hasInScope .table ["caption"] then
    some (b.generateImpliedEnd.popUntilNamed ["caption"]).clearToMarker
  else none

def inCaption (via : Delegate) : Rules := fun b t =>
  match t with
  | .startTag tg =>
    if ["caption", "col", "colgroup", "tbody", "td", "tfoot", "th", "thead", "tr"].contains tg.name
    then
      match b.closeCaption with
      | some b => ({ b with mode := .inTable }, .again t)
      | none => (b, .done)
    else via .inBody b t
  | .endTag tg =>
    if tg.name == "caption" then
      match b.closeCaption with
      | some b => ({ b with mode := .inTable }, .done)
      | none => (b, .done)
    else if tg.name == "table" then
      match b.closeCaption with
      | some b => ({ b with mode := .inTable }, .again t)
      | none => (b, .done)
    else if ["body", "col", "colgroup", "html", "tbody", "td", "tfoot", "th", "thead",
        "tr"].contains tg.name then (b, .done)
    else via .inBody b t
  | _ => via .inBody b t

def inColumnGroup (via : Delegate) : Rules := fun b t =>
  let other (b : Builder) : Builder × Next :=
    if b.currentIs ["colgroup"] then ({ b.pop with mode := .inTable }, .again t) else (b, .done)
  match t with
  | .chars s => if allSpace s then (b.insertText s, .done) else other b
  | .comment s => (b.insertComment s, .done)
  | .doctype _ | .parseError => (b, .done)
  | .eof => via .inBody b t
  | .startTag tg =>
    if tg.name == "html" then via .inBody b t
    else if tg.name == "col" then (b.insertVoid tg, .done)
    else if tg.name == "template" then via .inHead b t
    else other b
  | .endTag tg =>
    if tg.name == "colgroup" then
      if b.currentIs ["colgroup"] then ({ b.pop with mode := .inTable }, .done) else (b, .done)
    else if tg.name == "col" then (b, .done)
    else if tg.name == "template" then via .inHead b t
    else other b
  | .nullChar => other b

def inTableBody (via : Delegate) : Rules := fun b t =>
  match t with
  | .startTag tg =>
    let n := tg.name
    if n == "tr" then ({ b.clearToTableBody.insertHtml tg with mode := .inRow }, .done)
    else if n == "th" || n == "td" then
      ({ b.clearToTableBody.insertPhantom "tr" with mode := .inRow }, .again t)
    else if ["caption", "col", "colgroup", "tbody", "tfoot", "thead"].contains n then
      if b.hasInScope .table ["table", "tbody", "tfoot"] then
        ({ b.clearToTableBody.pop with mode := .inTable }, .again t)
      else (b, .done)
    else via .inTable b t
  | .endTag tg =>
    let n := tg.name
    if n == "tbody" || n == "tfoot" || n == "thead" then
      if b.hasInScope .table [n] then ({ b.clearToTableBody.pop with mode := .inTable }, .done)
      else (b, .done)
    else if n == "table" then
      if b.hasInScope .table ["table", "tbody", "tfoot"] then
        ({ b.clearToTableBody.pop with mode := .inTable }, .again t)
      else (b, .done)
    else if ["body", "caption", "col", "colgroup", "html", "td", "th", "tr"].contains n then
      (b, .done)
    else via .inTable b t
  | _ => via .inTable b t

def closeRow (b : Builder) (t : Token) : Builder × Next :=
  if b.hasInScope .table ["tr"] then ({ b.clearToRow.pop with mode := .inTableBody }, .again t)
  else (b, .done)

def inRow (via : Delegate) : Rules := fun b t =>
  match t with
  | .startTag tg =>
    let n := tg.name
    if n == "th" || n == "td" then
      let b := { b.clearToRow.insertHtml tg with mode := .inCell }
      ({ b with formatting := b.formatting.push .marker }, .done)
    else if ["caption", "col", "colgroup", "tbody", "tfoot", "thead", "tr"].contains n then
      closeRow b t
    else via .inTable b t
  | .endTag tg =>
    let n := tg.name
    if n == "tr" then
      if b.hasInScope .table ["tr"] then ({ b.clearToRow.pop with mode := .inTableBody }, .done)
      else (b, .done)
    else if n == "table" then closeRow b t
    else if n == "tbody" || n == "tfoot" || n == "thead" then
      if b.hasInScope .table [n] then
        if b.hasInScope .table ["tr"] then
          ({ b.clearToRow.pop with mode := .inTableBody }, .again t)
        else (b, .done)
      else (b, .done)
    else if ["body", "caption", "col", "colgroup", "html", "td", "th"].contains n then (b, .done)
    else via .inTable b t
  | _ => via .inTable b t

def closeCell (b : Builder) : Builder :=
  (b.generateImpliedEnd.popUntilNamed ["td", "th"]).clearToMarker

def inCell (via : Delegate) : Rules := fun b t =>
  match t with
  | .startTag tg =>
    if ["caption", "col", "colgroup", "tbody", "td", "tfoot", "th", "thead", "tr"].contains tg.name
    then
      if b.hasInScope .table ["td", "th"] then ({ b.closeCell with mode := .inRow }, .again t)
      else (b, .done)
    else via .inBody b t
  | .endTag tg =>
    let n := tg.name
    if n == "td" || n == "th" then
      if b.hasInScope .table [n] then
        let b := (b.generateImpliedEnd.popUntilNamed [n]).clearToMarker
        ({ b with mode := .inRow }, .done)
      else (b, .done)
    else if ["body", "caption", "col", "colgroup", "html"].contains n then (b, .done)
    else if ["table", "tbody", "tfoot", "thead", "tr"].contains n then
      if b.hasInScope .table [n] then ({ b.closeCell with mode := .inRow }, .again t)
      else (b, .done)
    else via .inBody b t
  | _ => via .inBody b t

def inSelect (via : Delegate) : Rules := fun b t =>
  let done (b : Builder) : Builder × Next := (b, .done)
  match t with
  | .nullChar => done b
  | .chars s => done (b.insertText s)
  | .comment s => done (b.insertComment s)
  | .doctype _ | .parseError => done b
  | .eof => via .inBody b t
  | .startTag tg =>
    let n := tg.name
    if n == "html" then via .inBody b t
    else if n == "option" then
      done ((if b.currentIs ["option"] then b.pop else b).insertHtml tg)
    else if n == "optgroup" then
      let b := if b.currentIs ["option"] then b.pop else b
      let b := if b.currentIs ["optgroup"] then b.pop else b
      done (b.insertHtml tg)
    else if n == "hr" then
      let b := if b.currentIs ["option"] then b.pop else b
      let b := if b.currentIs ["optgroup"] then b.pop else b
      done (b.insertVoid tg)
    else if n == "select" then
      if b.hasInScope .select ["select"] then done (b.popUntilNamed ["select"]).resetMode
      else done b
    else if n == "input" || n == "keygen" || n == "textarea" then
      if b.hasInScope .select ["select"] then ((b.popUntilNamed ["select"]).resetMode, .again t)
      else done b
    else if n == "script" || n == "template" then via .inHead b t
    else done b
  | .endTag tg =>
    let n := tg.name
    if n == "optgroup" then
      let underGroup := match b.stack[b.stack.size - 2]? with
        | some g => b.stack.size ≥ 2 && b.dom.isHtml g ["optgroup"]
        | none => false
      let b := if b.currentIs ["option"] && underGroup then b.pop else b
      done (if b.currentIs ["optgroup"] then b.pop else b)
    else if n == "option" then done (if b.currentIs ["option"] then b.pop else b)
    else if n == "select" then
      if b.hasInScope .select ["select"] then done (b.popUntilNamed ["select"]).resetMode
      else done b
    else if n == "template" then via .inHead b t
    else done b

def inSelectInTable (via : Delegate) : Rules := fun b t =>
  let parts := ["caption", "table", "tbody", "tfoot", "thead", "tr", "td", "th"]
  match t with
  | .startTag tg =>
    if parts.contains tg.name then ((b.popUntilNamed ["select"]).resetMode, .again t)
    else via .inSelect b t
  | .endTag tg =>
    if parts.contains tg.name then
      if b.hasInScope .table [tg.name] then ((b.popUntilNamed ["select"]).resetMode, .again t)
      else (b, .done)
    else via .inSelect b t
  | _ => via .inSelect b t

end Builder

end TreeSelect.Markup
