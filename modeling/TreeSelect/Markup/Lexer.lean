import TreeSelect.Markup.CharRef

namespace TreeSelect.Markup

/-- A tag being read: its name, the finished attributes, and whether it is an end tag. -/
structure TagDraft where
  name : String
  attrs : List Attr := []
  selfClosing : Bool := false

def TagDraft.addAttr (t : TagDraft) (name value : List Char) : TagDraft :=
  let n := String.ofList name
  if t.attrs.any (·.name == n) then t
  else { t with attrs := t.attrs ++ [⟨n, String.ofList value⟩] }

def TagDraft.finish (t : TagDraft) : Tag := ⟨t.name, t.attrs, t.selfClosing⟩

def nameChar (c : Char) : Char := if c == '\x00' then replacementChar else lowerAscii c

def nameValueChar (c : Char) : Char := if c == '\x00' then replacementChar else c

/-- The outcome of reading a tag: the tag and the rest, or nothing when input ends inside it. -/
abbrev TagRead := Option (Tag × List Char)

mutual
def tagName (t : TagDraft) (acc : List Char) : List Char → TagRead
  | [] => none
  | c :: r =>
    if isTagSpace c then beforeAttrName { t with name := String.ofList acc.reverse } r
    else if c == '/' then selfClosingTag { t with name := String.ofList acc.reverse } r
    else if c == '>' then some ({ t with name := String.ofList acc.reverse }.finish, r)
    else tagName t (nameChar c :: acc) r
termination_by cs => cs.length
decreasing_by all_goals simp_wf

def beforeAttrName (t : TagDraft) : List Char → TagRead
  | [] => none
  | c :: r =>
    if isTagSpace c then beforeAttrName t r
    else if c == '/' then selfClosingTag t r
    else if c == '>' then some (t.finish, r)
    else attrName t [nameChar c] r
termination_by cs => cs.length
decreasing_by all_goals simp_wf

def attrName (t : TagDraft) (name : List Char) : List Char → TagRead
  | [] => none
  | c :: r =>
    if isTagSpace c then afterAttrName t name r
    else if c == '/' then selfClosingTag (t.addAttr name.reverse []) r
    else if c == '>' then some ((t.addAttr name.reverse []).finish, r)
    else if c == '=' then beforeAttrValue t name r
    else attrName t (nameChar c :: name) r
termination_by cs => cs.length
decreasing_by all_goals simp_wf

def afterAttrName (t : TagDraft) (name : List Char) : List Char → TagRead
  | [] => none
  | c :: r =>
    if isTagSpace c then afterAttrName t name r
    else if c == '/' then selfClosingTag (t.addAttr name.reverse []) r
    else if c == '=' then beforeAttrValue t name r
    else if c == '>' then some ((t.addAttr name.reverse []).finish, r)
    else attrName (t.addAttr name.reverse []) [nameChar c] r
termination_by cs => cs.length
decreasing_by all_goals simp_wf

def beforeAttrValue (t : TagDraft) (name : List Char) : List Char → TagRead
  | [] => none
  | c :: r =>
    if isTagSpace c then beforeAttrValue t name r
    else if c == '"' || c == '\'' then quotedValue c t name [] r
    else if c == '>' then some ((t.addAttr name.reverse []).finish, r)
    else if c == '&' then
      let (s, k) := charRef r true
      unquotedValue t name s.reverse (r.drop k)
    else unquotedValue t name [nameValueChar c] r
termination_by cs => cs.length

def quotedValue (q : Char) (t : TagDraft) (name v : List Char) : List Char → TagRead
  | [] => none
  | c :: r =>
    if c == q then afterQuotedValue (t.addAttr name.reverse v.reverse) r
    else if c == '&' then
      let (s, k) := charRef r true
      quotedValue q t name (s.reverse ++ v) (r.drop k)
    else quotedValue q t name (nameValueChar c :: v) r
termination_by cs => cs.length

def unquotedValue (t : TagDraft) (name v : List Char) : List Char → TagRead
  | [] => none
  | c :: r =>
    if isTagSpace c then beforeAttrName (t.addAttr name.reverse v.reverse) r
    else if c == '>' then some ((t.addAttr name.reverse v.reverse).finish, r)
    else if c == '&' then
      let (s, k) := charRef r true
      unquotedValue t name (s.reverse ++ v) (r.drop k)
    else unquotedValue t name (nameValueChar c :: v) r
termination_by cs => cs.length

def afterQuotedValue (t : TagDraft) : List Char → TagRead
  | [] => none
  | c :: r =>
    if isTagSpace c then beforeAttrName t r
    else if c == '/' then selfClosingTag t r
    else if c == '>' then some (t.finish, r)
    else attrName t [nameChar c] r
termination_by cs => cs.length
decreasing_by all_goals simp_wf

def selfClosingTag (t : TagDraft) : List Char → TagRead
  | [] => none
  | c :: r =>
    if c == '>' then some ({ t with selfClosing := true }.finish, r)
    else if isTagSpace c then beforeAttrName t r
    else if c == '/' then selfClosingTag t r
    else attrName t [nameChar c] r
termination_by cs => cs.length
decreasing_by all_goals simp_wf
end

def readTag (cs : List Char) : TagRead :=
  match cs with
  | c :: r => tagName { name := "" } [nameChar c] r
  | [] => none

def commentOf (acc : List Char) : Token := .comment (String.ofList acc.reverse)

mutual
def commentBody (acc : List Char) : List Char → List Token × List Char
  | [] => ([commentOf acc], [])
  | c :: r =>
    if c == '-' then commentEndDash acc r
    else commentBody (nameValueChar c :: acc) r

def commentEndDash (acc : List Char) : List Char → List Token × List Char
  | [] => ([commentOf acc], [])
  | c :: r =>
    if c == '-' then commentEnd acc r
    else commentBody (nameValueChar c :: '-' :: acc) r

def commentEnd (acc : List Char) : List Char → List Token × List Char
  | [] => ([commentOf acc], [])
  | c :: r =>
    if c == '>' then ([commentOf acc], r)
    else if c == '!' then commentEndBang acc r
    else if c == '-' then commentEnd ('-' :: acc) r
    else commentBody (nameValueChar c :: '-' :: '-' :: acc) r

def commentEndBang (acc : List Char) : List Char → List Token × List Char
  | [] => ([commentOf acc], [])
  | c :: r =>
    if c == '-' then commentEndDash ('!' :: '-' :: '-' :: acc) r
    else if c == '>' then ([commentOf acc], r)
    else commentBody (nameValueChar c :: '!' :: '-' :: '-' :: acc) r
end

def commentStart (cs : List Char) : List Token × List Char :=
  match cs with
  | '-' :: r =>
    match r with
    | [] => ([commentOf []], [])
    | '-' :: r' => commentEnd [] r'
    | '>' :: r' => ([commentOf []], r')
    | _ => commentBody ['-'] r
  | '>' :: r => ([commentOf []], r)
  | _ => commentBody [] cs

def bogusComment (acc : List Char) : List Char → List Token × List Char
  | [] => ([commentOf acc], [])
  | c :: r => if c == '>' then ([commentOf acc], r) else bogusComment (nameValueChar c :: acc) r

def malformedDoctype (d : Doctype) : Token := .doctype { d with malformed := true }

def bogusDoctype (d : Doctype) : List Char → List Token × List Char
  | [] => ([.doctype d], [])
  | c :: r => if c == '>' then ([.doctype d], r) else bogusDoctype d r

def startsWithWord (cs : List Char) (w : String) : Bool :=
  (cs.take w.length).map lowerAscii == w.toList

def afterSystemId (d : Doctype) : List Char → List Token × List Char
  | [] => ([malformedDoctype d], [])
  | c :: r =>
    if isTagSpace c then afterSystemId d r
    else if c == '>' then ([.doctype d], r)
    else bogusDoctype d r

def systemId (q : Char) (d : Doctype) (acc : List Char) : List Char → List Token × List Char
  | [] => ([malformedDoctype { d with systemId := String.ofList acc.reverse }], [])
  | c :: r =>
    let d' := { d with systemId := String.ofList acc.reverse }
    if c == q then afterSystemId d' r
    else if c == '>' then ([malformedDoctype d'], r)
    else systemId q d (nameValueChar c :: acc) r

def beforeSystemId (d : Doctype) : List Char → List Token × List Char
  | [] => ([malformedDoctype d], [])
  | c :: r =>
    if isTagSpace c then beforeSystemId d r
    else if c == '"' || c == '\'' then systemId c d [] r
    else if c == '>' then ([malformedDoctype d], r)
    else bogusDoctype { d with malformed := true } r

def betweenIds (d : Doctype) : List Char → List Token × List Char
  | [] => ([malformedDoctype d], [])
  | c :: r =>
    if isTagSpace c then betweenIds d r
    else if c == '>' then ([.doctype d], r)
    else if c == '"' || c == '\'' then systemId c d [] r
    else bogusDoctype { d with malformed := true } r

def afterPublicId (d : Doctype) : List Char → List Token × List Char
  | [] => ([malformedDoctype d], [])
  | c :: r =>
    if isTagSpace c then betweenIds d r
    else if c == '>' then ([.doctype d], r)
    else if c == '"' || c == '\'' then systemId c d [] r
    else bogusDoctype { d with malformed := true } r

def publicId (q : Char) (d : Doctype) (acc : List Char) : List Char → List Token × List Char
  | [] => ([malformedDoctype { d with publicId := String.ofList acc.reverse }], [])
  | c :: r =>
    let d' := { d with publicId := String.ofList acc.reverse }
    if c == q then afterPublicId d' r
    else if c == '>' then ([malformedDoctype d'], r)
    else publicId q d (nameValueChar c :: acc) r

def beforePublicId (d : Doctype) : List Char → List Token × List Char
  | [] => ([malformedDoctype d], [])
  | c :: r =>
    if isTagSpace c then beforePublicId d r
    else if c == '"' || c == '\'' then publicId c d [] r
    else if c == '>' then ([malformedDoctype d], r)
    else bogusDoctype { d with malformed := true } r

def afterPublicKeyword (d : Doctype) (cs : List Char) : List Token × List Char :=
  match cs with
  | [] => ([malformedDoctype d], [])
  | c :: r =>
    if isTagSpace c then beforePublicId d r
    else if c == '"' || c == '\'' then publicId c d [] r
    else if c == '>' then ([malformedDoctype d], r)
    else bogusDoctype { d with malformed := true } r

def afterSystemKeyword (d : Doctype) (cs : List Char) : List Token × List Char :=
  match cs with
  | [] => ([malformedDoctype d], [])
  | c :: r =>
    if isTagSpace c then beforeSystemId d r
    else if c == '"' || c == '\'' then systemId c d [] r
    else if c == '>' then ([malformedDoctype d], r)
    else bogusDoctype { d with malformed := true } r

def afterDoctypeName (d : Doctype) : List Char → List Token × List Char
  | [] => ([malformedDoctype d], [])
  | c :: r =>
    if isTagSpace c then afterDoctypeName d r
    else if c == '>' then ([.doctype d], r)
    else if startsWithWord (c :: r) "public" then afterPublicKeyword d (r.drop 5)
    else if startsWithWord (c :: r) "system" then afterSystemKeyword d (r.drop 5)
    else bogusDoctype { d with malformed := true } r

def doctypeName (acc : List Char) : List Char → List Token × List Char
  | [] => ([malformedDoctype { name := String.ofList acc.reverse }], [])
  | c :: r =>
    if isTagSpace c then afterDoctypeName { name := String.ofList acc.reverse } r
    else if c == '>' then ([.doctype { name := String.ofList acc.reverse }], r)
    else doctypeName (nameChar c :: acc) r

def beforeDoctypeName : List Char → List Token × List Char
  | [] => ([malformedDoctype {}], [])
  | c :: r =>
    if isTagSpace c then beforeDoctypeName r
    else if c == '>' then ([malformedDoctype {}], r)
    else doctypeName [nameChar c] r

def doctypeStart (cs : List Char) : List Token × List Char :=
  match cs with
  | [] => ([malformedDoctype {}], [])
  | c :: r => if isTagSpace c then beforeDoctypeName r else beforeDoctypeName cs

def cdataSection (acc : List Char) : List Char → List Token × List Char
  | [] => ([.chars (String.ofList acc.reverse)], [])
  | ']' :: ']' :: '>' :: r => ([.chars (String.ofList acc.reverse)], r)
  | c :: r =>
    if c == '\x00' then
      let (ts, rest) := cdataSection [] r
      (.chars (String.ofList acc.reverse) :: .nullChar :: ts, rest)
    else cdataSection (c :: acc) r

end TreeSelect.Markup
