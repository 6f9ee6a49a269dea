namespace TreeSelect.Markup

/-- An attribute of a tag as written: its name, lower-cased, and its value. -/
structure Attr where
  name : String
  value : String
  deriving Repr, Inhabited, BEq

/-- A tag: its name, lower-cased, its attributes in order with later repeats dropped, and
whether it ends in `/>`. -/
structure Tag where
  name : String
  attrs : List Attr := []
  selfClosing : Bool := false
  deriving Repr, Inhabited, BEq

/-- A document type declaration; a part that was not written is absent. -/
structure Doctype where
  name : Option String := none
  publicId : Option String := none
  systemId : Option String := none
  /-- Set when the declaration is malformed: the document then gets the legacy layout. -/
  malformed : Bool := false
  deriving Repr, Inhabited

/-- A token of markup. -/
inductive Token where
  | doctype (d : Doctype)
  | startTag (t : Tag)
  | endTag (t : Tag)
  | comment (s : String)
  | chars (s : String)
  | nullChar
  | eof
  /-- A parse error: a numeric character reference written against the rules, or `</>`. It
  builds nothing, but it is a token of its own, so a line feed after it is not the one that
  directly follows a `pre` start tag. -/
  | parseError
  deriving Repr, Inhabited

/-- How the text after a start tag is read: as markup, as text with character references only,
as text alone, as script text, or as text up to the end of input. -/
inductive TextMode where
  | data
  | rcdata
  | rawtext
  | scriptData
  | plaintext
  deriving DecidableEq, Repr, Inhabited

def isTagSpace (c : Char) : Bool := c == '\t' || c == '\n' || c == '\x0c' || c == ' '

def replacementChar : Char := '�'

def lowerAscii (c : Char) : Char := if c.isUpper then c.toLower else c

def lowerAsciiString (s : String) : String := String.ofList (s.toList.map lowerAscii)

end TreeSelect.Markup
