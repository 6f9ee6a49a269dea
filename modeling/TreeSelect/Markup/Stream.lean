import TreeSelect.Markup.Lexer

namespace TreeSelect.Markup

/-- Whether the text starts with the end tag `</name` followed by a blank, `/` or `>`, the
name in any case. -/
def startsEndTag (name : String) (cs : List Char) : Bool :=
  match cs with
  | '<' :: '/' :: r =>
    !name.isEmpty && (r.take name.length).map lowerAscii == name.toList &&
      (match r.drop name.length with
        | c :: _ => isTagSpace c || c == '/' || c == '>'
        | [] => false)
  | _ => false

def flushText (acc : List Char) : List Token :=
  if acc.isEmpty then [] else [.chars (String.ofList acc.reverse)]

/-- Text up to the end tag of `name` or the end of input; `refs` says whether character
references are read in it. -/
def rawText (name : String) (refs : Bool) (acc : List Char) : List Char → List Token × List Char
  | [] => (flushText acc, [])
  | c :: r =>
    if c == '<' && startsEndTag name (c :: r) then (flushText acc, c :: r)
    else if c == '&' && refs then
      let (s, k) := charRef r false
      if numericRefFlawed r then
        let (ts, rest) := rawText name refs s.reverse (r.drop k)
        (flushText acc ++ .parseError :: ts, rest)
      else rawText name refs (s.reverse ++ acc) (r.drop k)
    else rawText name refs (nameValueChar c :: acc) r
termination_by cs => cs.length

/-- Where script text stands: plain, after `<!` or `<!-`, inside an escape `<!--` (after no, one
or two dashes), or inside a double escape `<script>` within it (likewise). -/
inductive ScriptState where
  | plain | escapeStart | escapeStartDash
  | escaped | escapedDash | escapedDashDash
  | double | doubleDash | doubleDashDash
  deriving DecidableEq, Repr

def ScriptState.isDouble : ScriptState → Bool
  | double | doubleDash | doubleDashDash => true
  | _ => false

/-- After `<` (and `/`) inside an escape: the letters that follow, lower-cased, are a tag name
that may start or end a double escape, and the character after them decides whether they do. -/
def closesWord (cs : List Char) : Bool :=
  match cs.head? with
  | some e => isTagSpace e || e == '/' || e == '>'
  | none => false

def scriptText (name : String) (st : ScriptState) (acc : List Char) :
    List Char → List Token × List Char
  | [] => (flushText acc, [])
  | c :: r =>
    if c == '<' && !st.isDouble && startsEndTag name (c :: r) then (flushText acc, c :: r)
    else if c == '<' && (st == .plain || st == .escapeStart || st == .escapeStartDash) then
      if r.head? == some '!' then scriptText name .escapeStart ('!' :: '<' :: acc) (r.drop 1)
      else scriptText name .plain ('<' :: acc) r
    else if c == '<' && !st.isDouble then
      if (r.head?.map Char.isAlpha).getD false then
        let letters := r.takeWhile Char.isAlpha
        let word := String.ofList (letters.map lowerAscii)
        let rest := r.drop letters.length
        if closesWord rest then
          scriptText name (if word == "script" then .double else .escaped)
            (rest.take 1 ++ letters.reverse ++ '<' :: acc) (rest.drop 1)
        else scriptText name .escaped (letters.reverse ++ '<' :: acc) rest
      else scriptText name .escaped ('<' :: acc) r
    else if c == '<' then
      if r.head? == some '/' then
        let letters := (r.drop 1).takeWhile Char.isAlpha
        let word := String.ofList (letters.map lowerAscii)
        let rest := (r.drop 1).drop letters.length
        if closesWord rest then
          scriptText name (if word == "script" then .escaped else .double)
            (rest.take 1 ++ letters.reverse ++ '/' :: '<' :: acc) (rest.drop 1)
        else scriptText name .double (letters.reverse ++ '/' :: '<' :: acc) rest
      else scriptText name .double ('<' :: acc) r
    else if c == '-' then
      let st' := match st with
        | .escapeStart => .escapeStartDash
        | .escapeStartDash => .escapedDashDash
        | .escaped => .escapedDash
        | .escapedDash | .escapedDashDash => .escapedDashDash
        | .double => .doubleDash
        | .doubleDash | .doubleDashDash => .doubleDashDash
        | .plain => .plain
      scriptText name st' ('-' :: acc) r
    else if c == '>' && (st == .escapedDashDash || st == .doubleDashDash) then
      scriptText name .plain ('>' :: acc) r
    else
      let st' := match st with
        | .plain | .escapeStart | .escapeStartDash => .plain
        | .escaped | .escapedDash | .escapedDashDash => .escaped
        | .double | .doubleDash | .doubleDashDash => .double
      scriptText name st' (nameValueChar c :: acc) r
termination_by cs => cs.length

/-- The tokenizer's state between tokens: the text mode and the name of the last start tag. -/
structure Lexer where
  mode : TextMode := .data
  lastStart : String := ""
  deriving Repr, Inhabited

def startTagToken (lx : Lexer) (read : TagRead) : List Token × List Char × Lexer :=
  match read with
  | some (t, rest) => ([.startTag t], rest, { lx with lastStart := t.name })
  | none => ([.eof], [], lx)

def endTagToken (lx : Lexer) (read : TagRead) : List Token × List Char × Lexer :=
  match read with
  | some (t, rest) => ([.endTag t], rest, { lx with mode := .data })
  | none => ([.eof], [], lx)

/-- After `<!`: a comment, a document type declaration, a `CDATA` section where `cdataOk`, or
a malformed declaration read as a comment. -/
def declaration (cdataOk : Bool) (r : List Char) : List Token × List Char :=
  if r.take 2 == ['-', '-'] then commentStart (r.drop 2)
  else if startsWithWord r "doctype" then doctypeStart (r.drop 7)
  else if r.take 7 == "[CDATA[".toList then
    if cdataOk then cdataSection [] (r.drop 7) else bogusComment "[CDATA[".toList.reverse (r.drop 7)
  else bogusComment [] r

def markupNext (lx : Lexer) (cdataOk : Bool) (cs : List Char) : List Token × List Char × Lexer :=
  match cs with
  | [] => ([.eof], [], lx)
  | '<' :: r =>
    match r with
    | '!' :: r' => let (ts, rest) := declaration cdataOk r'; (ts, rest, lx)
    | '/' :: r' =>
      match r' with
      | c :: r'' =>
        if c.isAlpha then endTagToken { lx with mode := .data } (readTag r')
        else if c == '>' then ([.parseError], r'', lx)
        else let (ts, rest) := bogusComment [] r'; (ts, rest, lx)
      | [] => ([.chars "</"], [], lx)
    | c :: _ =>
      if c.isAlpha then startTagToken lx (readTag r)
      else if c == '?' then let (ts, rest) := bogusComment [] r; (ts, rest, lx)
      else ([.chars "<"], r, lx)
    | [] => ([.chars "<"], [], lx)
  | '&' :: r =>
    let (s, k) := charRef r false
    let flaw := if numericRefFlawed r then [Token.parseError] else []
    (flaw ++ [.chars (String.ofList s)], r.drop k, lx)
  | '\x00' :: r => ([.nullChar], r, lx)
  | cs =>
    let run := cs.takeWhile fun c => c != '<' && c != '&' && c != '\x00'
    ([.chars (String.ofList run)], cs.drop run.length, lx)

/-- The next tokens of the input, with the rest of it and the new state. `cdataOk` says whether
the tree builder is inside foreign content, where `CDATA` sections are text. -/
def Lexer.next (lx : Lexer) (cdataOk : Bool) (cs : List Char) : List Token × List Char × Lexer :=
  match lx.mode with
  | .data => markupNext lx cdataOk cs
  | .plaintext =>
    match cs with
    | [] => ([.eof], [], lx)
    | _ => ([.chars (String.ofList (cs.map nameValueChar))], [], lx)
  | m =>
    match cs with
    | [] => ([.eof], [], lx)
    | _ =>
      if startsEndTag lx.lastStart cs then endTagToken lx (readTag (cs.drop 2))
      else
        let (ts, rest) := match m with
          | .scriptData => scriptText lx.lastStart .plain [] cs
          | .rcdata => rawText lx.lastStart true [] cs
          | _ => rawText lx.lastStart false [] cs
        (ts, rest, lx)

end TreeSelect.Markup
