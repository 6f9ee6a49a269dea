import TreeSelect.Markup.Builder.Foreign
import TreeSelect.Text.Blank

namespace TreeSelect.Markup

/-- The insertion modes of tree construction. -/
inductive Mode where
  | initial | beforeHtml | beforeHead | inHead | afterHead | inBody | text
  | inTable | inTableText | inCaption | inColumnGroup | inTableBody | inRow | inCell
  | inSelect | inSelectInTable | inTemplate | afterBody | inFrameset | afterFrameset
  | afterAfterBody | afterAfterFrameset
  deriving DecidableEq, Repr, Inhabited

/-- An entry of the list of active formatting elements: a scope marker, or an element with
the tag it was made from. -/
inductive Formatting where
  | marker
  | elem (node : Nat) (tag : Tag)
  deriving Repr, Inhabited

/-- The state of tree construction. -/
structure Builder where
  dom : Dom := {}
  mode : Mode := .initial
  /-- The mode to return to after text or table text. -/
  original : Mode := .initial
  /-- The stack of template insertion modes, innermost first. -/
  templateModes : List Mode := []
  /-- The stack of open elements, outermost first. -/
  stack : Array Nat := #[]
  /-- The list of active formatting elements, earliest first. -/
  formatting : Array Formatting := #[]
  /-- The `head` element, once there is one. -/
  head : Option Nat := none
  /-- The open `form` element that controls are associated with. -/
  form : Option Nat := none
  /-- Whether a `frameset` may still replace the body: nothing visible has been read yet. -/
  framesetOk : Bool := true
  /-- Whether content that may not stand in a table goes in front of the table. -/
  fosterParenting : Bool := false
  /-- Text seen in a table, in order, waiting to be placed. -/
  pendingText : Array String := #[]
  /-- Drop a line feed that starts the next token. -/
  ignoreLf : Bool := false
  /-- Whether the document asked for the legacy layout. -/
  legacyLayout : Bool := false
  /-- A text mode the tokenizer is to switch to. -/
  lexMode : Option TextMode := none
  deriving Inhabited

/-- What comes after a token: nothing, or the token again, in the mode now current. -/
inductive Next where
  | done
  | again (t : Token)
  deriving Inhabited

/-- The rules of one insertion mode. -/
abbrev Rules := Builder → Token → Builder × Next

/-- The rules of each mode, for a mode that hands a token over to another. -/
abbrev Delegate := Mode → Rules

def isSpace (c : Char) : Bool := Text.isAsciiBlank c

def allSpace (s : String) : Bool := s.toList.all isSpace

def Tag.attr? (t : Tag) (n : String) : Option String :=
  (t.attrs.find? (·.name == n)).map (·.value)

def Tag.sameAs (a b : Tag) : Bool :=
  a.name == b.name && a.attrs.length == b.attrs.length &&
    a.attrs.all fun x => b.attrs.any fun y => x.name == y.name && x.value == y.value

/-- The kinds of scope. -/
inductive Scope where
  | plain | listItem | button | table | select
  deriving DecidableEq

namespace Builder

def current (b : Builder) : Nat := b.stack.back?.getD 0

def currentIs (b : Builder) (names : List String) : Bool := b.dom.isHtml b.current names

def hasTemplate (b : Builder) : Bool := b.stack.any fun n => b.dom.isHtml n ["template"]

/-- Whether a node is an HTML element of the special category. Elements of other namespaces
never are, and the list keeps `isindex`. -/
def isSpecial (b : Builder) (n : Nat) : Bool :=
  b.dom.isHtml n ["address", "applet", "area", "article", "aside", "base", "basefont",
    "bgsound", "blockquote", "body", "br", "button", "caption", "center", "col", "colgroup",
    "dd", "details", "dir", "div", "dl", "dt", "embed", "fieldset", "figcaption", "figure",
    "footer", "form", "frame", "frameset", "h1", "h2", "h3", "h4", "h5", "h6", "head",
    "header", "hgroup", "hr", "html", "iframe", "img", "input", "isindex", "li", "link",
    "listing", "main", "marquee", "menu", "meta", "nav", "noembed", "noframes", "noscript",
    "object", "ol", "p", "param", "plaintext", "pre", "script", "section", "select",
    "source", "style", "summary", "table", "tbody", "td", "template", "textarea", "tfoot", "th",
    "thead", "title", "tr", "track", "ul", "wbr", "xmp"]

/-- Whether a node bounds a scope of a kind. Of the foreign elements, the text integration
points of MathML and the HTML integration points of SVG bound every scope but the table and
select ones; a MathML `annotation-xml` bounds none. -/
def bounds (b : Builder) (s : Scope) (n : Nat) : Bool :=
  let plain := b.dom.isHtml n ["applet", "caption", "html", "table", "td", "th", "marquee",
    "object", "template"] || b.dom.isMathmlTextPoint n || b.dom.isSvgHtmlPoint n
  match s with
  | .plain => plain
  | .listItem => plain || b.dom.isHtml n ["ol", "ul"]
  | .button => plain || b.dom.isHtml n ["button"]
  | .table => b.dom.isHtml n ["html", "table", "template"]
  | .select => !b.dom.isHtml n ["optgroup", "option"]

def inScope (b : Builder) (s : Scope) (p : Nat → Bool) : Bool :=
  go b.stack.toList.reverse
where
  go : List Nat → Bool
    | [] => false
    | n :: ns => if p n then true else if b.bounds s n then false else go ns

def hasInScope (b : Builder) (s : Scope) (names : List String) : Bool :=
  b.inScope s fun n => b.dom.isHtml n names

def pop (b : Builder) : Builder := { b with stack := b.stack.pop }

def popUntil (b : Builder) (p : Nat → Bool) : Builder :=
  let i := b.stack.toList.reverse.findIdx? p
  match i with
  | some k => { b with stack := b.stack.extract 0 (b.stack.size - k - 1) }
  | none => { b with stack := #[] }

def popUntilNamed (b : Builder) (names : List String) : Builder :=
  b.popUntil fun n => b.dom.isHtml n names

def removeFromStack (b : Builder) (n : Nat) : Builder :=
  { b with stack := b.stack.filter (· != n) }

def popWhile (b : Builder) (names : List String) : Builder :=
  let k := (b.stack.toList.reverse.takeWhile fun n => b.dom.isHtml n names).length
  { b with stack := b.stack.extract 0 (b.stack.size - k) }

def impliedEnd : List String :=
  ["dd", "dt", "li", "optgroup", "option", "p", "rb", "rp", "rt", "rtc"]

def generateImpliedEnd (b : Builder) (except : String := "") : Builder :=
  b.popWhile (impliedEnd.filter (· != except))

def generateAllImpliedEnd (b : Builder) : Builder :=
  b.popWhile (impliedEnd ++ ["caption", "colgroup", "tbody", "td", "tfoot", "th", "thead", "tr"])

def clearBackTo (b : Builder) (names : List String) : Builder :=
  let k := (b.stack.toList.reverse.takeWhile fun n => !b.dom.isHtml n ("html" :: names)).length
  { b with stack := b.stack.extract 0 (b.stack.size - k) }

/-- Where a node is to go. -/
inductive Place where
  | lastChild (parent : Nat)
  | before (parent sibling : Nat)

/-- The appropriate place for inserting a node, next to `override` or the current node. With
foster parenting on and a table part there, the node goes before the table instead. -/
def placeFor (b : Builder) (override : Option Nat := none) : Place :=
  let target := override.getD b.current
  let intoTemplate (n : Nat) : Place := .lastChild ((b.dom.contents? n).getD n)
  if b.fosterParenting && b.dom.isHtml target ["table", "tbody", "tfoot", "thead", "tr"] then
    let rec look : List Nat → Place
      | [] => .lastChild (b.stack[0]?.getD 0)
      | n :: rest =>
        if b.dom.isHtml n ["template"] then intoTemplate n
        else if b.dom.isHtml n ["table"] then
          match (b.dom.get n).parent with
          | some p => .before p n
          | none => .lastChild (rest.head?.getD 0)
        else look rest
    look b.stack.toList.reverse
  else if b.dom.isHtml target ["template"] then intoTemplate target
  else .lastChild target

def putNode (b : Builder) (pl : Place) (n : Nat) : Builder :=
  match pl with
  | .lastChild p => { b with dom := b.dom.append p n }
  | .before p s => { b with dom := b.dom.insertBefore p s n }

def insertText (b : Builder) (s : String) : Builder :=
  if s.isEmpty then b else
  match b.placeFor with
  | .lastChild p => { b with dom := b.dom.appendText p s }
  | .before p sib => { b with dom := b.dom.insertTextBefore p sib s }

def insertComment (b : Builder) (s : String) : Builder :=
  let (d, n) := b.dom.create (.comment s)
  { b with dom := d }.putNode b.placeFor n

def appendComment (b : Builder) (parent : Nat) (s : String) : Builder :=
  let (d, n) := b.dom.create (.comment s)
  { b with dom := d.append parent n }

def insertElement (b : Builder) (ns : Ns) (name : String) (attrs : List Attribute) :
    Builder × Nat :=
  let pl := b.placeFor
  let (d, n) := b.dom.createElement ns name attrs
  let b := { b with dom := d }.putNode pl n
  ({ b with stack := b.stack.push n }, n)

def insertHtml (b : Builder) (t : Tag) : Builder :=
  (b.insertElement .html t.name (plainAttrs t.attrs)).1

def insertVoid (b : Builder) (t : Tag) : Builder := (b.insertHtml t).pop

def formattingIndex? (b : Builder) (n : Nat) : Option Nat :=
  b.formatting.findIdx? fun
    | .elem m _ => m == n
    | .marker => false

def sinceMarker (b : Builder) : List (Nat × Nat × Tag) :=
  go (b.formatting.toList.zipIdx.reverse)
where
  go : List (Formatting × Nat) → List (Nat × Nat × Tag)
    | [] => []
    | (.marker, _) :: _ => []
    | (.elem n t, i) :: rest => (i, n, t) :: go rest

/-- Push a formatting element; a fourth element equal to three already there since the last
marker pushes out the earliest of them. -/
def pushFormatting (b : Builder) (n : Nat) (t : Tag) : Builder :=
  let same := b.sinceMarker.filter fun (_, _, t') => t.sameAs t'
  let fmt := if same.length ≥ 3 then
      match same.getLast? with
      | some (i, _, _) => b.formatting.eraseIdxIfInBounds i
      | none => b.formatting
    else b.formatting
  { b with formatting := fmt.push (.elem n t) }

def insertFormatting (b : Builder) (t : Tag) : Builder :=
  let (b, n) := b.insertElement .html t.name (plainAttrs t.attrs)
  b.pushFormatting n t

def clearToMarker (b : Builder) : Builder :=
  let k := (b.formatting.toList.reverse.takeWhile fun
    | .marker => false
    | .elem _ _ => true).length
  { b with formatting := b.formatting.extract 0 (b.formatting.size - k - 1) }

def settled (b : Builder) : Formatting → Bool
  | .marker => true
  | .elem n _ => b.stack.contains n

def reconstruct (b : Builder) : Builder :=
  let fs := b.formatting.toList
  let k := (fs.reverse.takeWhile fun f => !b.settled f).length
  let start := fs.length - k
  (List.range k).foldl (fun b j =>
    match b.formatting[start + j]? with
    | some (.elem _ t) =>
      let (b, n) := b.insertElement .html t.name (plainAttrs t.attrs)
      { b with formatting := b.formatting.set! (start + j) (.elem n t) }
    | _ => b) b

def resetMode (b : Builder) : Builder :=
  let rec go : List (Nat × Nat) → Mode
    | [] => .inBody
    | (n, i) :: rest =>
      let last := i == 0
      match b.dom.name? n with
      | some (.html, name) =>
        if name == "select" then
          let ancestors := (b.stack.extract 0 i).toList.reverse
          match ancestors.find? fun a => b.dom.isHtml a ["template", "table"] with
          | some a => if b.dom.isHtml a ["table"] then .inSelectInTable else .inSelect
          | none => .inSelect
        else if (name == "td" || name == "th") && !last then .inCell
        else if name == "tr" then .inRow
        else if name == "tbody" || name == "thead" || name == "tfoot" then .inTableBody
        else if name == "caption" then .inCaption
        else if name == "colgroup" then .inColumnGroup
        else if name == "table" then .inTable
        else if name == "template" then b.templateModes.head?.getD .inBody
        else if name == "head" && !last then .inHead
        else if name == "body" then .inBody
        else if name == "frameset" then .inFrameset
        else if name == "html" then (if b.head.isNone then .beforeHead else .afterHead)
        else go rest
      | _ => go rest
  { b with mode := go b.stack.toList.zipIdx.reverse }

def closeP (b : Builder) : Builder := (b.generateImpliedEnd "p").popUntilNamed ["p"]

def closePInButtonScope (b : Builder) : Builder :=
  if b.hasInScope .button ["p"] then b.closeP else b

def rawTextElement (b : Builder) (t : Tag) (m : TextMode) : Builder :=
  let b := b.insertHtml t
  { b with lexMode := some m, original := b.mode, mode := .text }

end Builder

end TreeSelect.Markup
