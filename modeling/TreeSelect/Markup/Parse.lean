import TreeSelect.Markup.Stream
import TreeSelect.Markup.Builder.Modes

namespace TreeSelect.Markup

def normalizeNewlines : List Char → List Char
  | [] => []
  | '\r' :: '\n' :: rest => '\n' :: normalizeNewlines rest
  | '\r' :: rest => '\n' :: normalizeNewlines rest
  | c :: rest => c :: normalizeNewlines rest

def Builder.inForeignContent (b : Builder) : Bool :=
  !b.stack.isEmpty &&
    match b.dom.name? b.current with
    | some (.html, _) => false
    | some _ => true
    | none => false

/-- Feed tokens to the builder, switching the lexer's text mode as the builder asks; the flag
says whether the end of input was among them. -/
def feedAll (b : Builder) (lx : Lexer) : List Token → Builder × Lexer × Bool
  | [] => (b, lx, false)
  | t :: ts =>
    let b := b.feed t
    let lx := match b.lexMode with
      | some m => { lx with mode := m }
      | none => lx
    let b := { b with lexMode := none }
    match t with
    | .eof => (b, lx, true)
    | _ => feedAll b lx ts

def dropByteOrderMark : List Char → List Char
  | '\uFEFF' :: rest => rest
  | cs => cs

def blockBytes : Nat := 4096

def cutByBlock (pos size : Nat) : Bool := pos / blockBytes != (pos + size - 1) / blockBytes

/-- Drop each byte order mark that starts a piece handed to the tokenizer. The input goes over
in blocks of `blockBytes` bytes; a character cut by a block boundary goes over on its own, and
then the rest of its block. `pos` is the byte offset of the first character, and `fresh` says
whether a piece starts there. -/
def dropPieceMarks : List Char → Nat → Bool → List Char
  | [], _, _ => []
  | c :: cs, pos, fresh =>
    let cut := cutByBlock pos c.utf8Size
    let rest := dropPieceMarks cs (pos + c.utf8Size) cut
    if (fresh || pos % blockBytes == 0 || cut) && c == '\uFEFF' then rest else c :: rest

/-- Whether a token ends a script element: the end tag of the text of a `script`. Reading
starts afresh after it, so a byte order mark right after it is dropped like one at the start of
the input. -/
def Builder.endsScript (b : Builder) : Token → Bool
  | .endTag t => b.mode == .text && t.name == "script"
  | _ => false

/-- Run lexer and builder over the input, for at most `fuel` rounds; every round but the last
consumes input, so its length plus one is enough. -/
def run (b : Builder) (lx : Lexer) (cs : List Char) : Nat → Builder
  | 0 => b
  | fuel + 1 =>
    let (ts, rest, lx) := lx.next b.inForeignContent cs
    let rest := if ts.any b.endsScript then dropByteOrderMark rest else rest
    let (b, lx, ended) := feedAll b lx ts
    if ended then b else run b lx rest fuel

/-- The document tree of a text of markup; a byte order mark at its start, or at the start of
a piece the tokenizer is handed, is not content. -/
def parseDocument (input : String) : Dom :=
  let cs := normalizeNewlines (dropPieceMarks input.toList 0 true)
  (run {} {} cs (cs.length + 2)).dom

end TreeSelect.Markup
