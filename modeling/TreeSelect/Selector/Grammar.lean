import TreeSelect.Selector.Peg

namespace TreeSelect.Selector.Grammar

open Peg

def str (s : String) : Peg := lit s.toList

def gap : Peg := many1 (sat fun c => c == ' ' || c == '\t' || c == '\r' || c == '\n')

def optGap : Peg := opt gap

def isIdentChar (c : Char) : Bool := c.isAlphanum || c == '-' || c == '_'

def identifier : Peg := rule .identifier (many1 (sat isIdentChar))

def idPredict : Peg := rule .idPredict (seq (str "#") identifier)

def classPredict : Peg := rule .classPredict (seq (str ".") identifier)

def tagPredict : Peg := rule .tagPredict identifier

def basicPredict : Peg := rule .basicPredict (alts [idPredict, classPredict, tagPredict])

def basicPredicts : Peg := rule .basicPredicts (many1 basicPredict)

def quoted (name : Rule) (q : Char) : Peg :=
  rule name (seqs [lit [q], many (seq (notAhead (lit [q])) anyChar), lit [q]])

def textStop : Peg :=
  alts [str " ", str "\t", str "\r", str "\n", str "[", str "]", str "(", str ")", str "&&",
    str "||", str "'", str "\"", str "`"]

def textValue : Peg := rule .text (many1 (seq (notAhead textStop) anyChar))

def value : Peg :=
  rule .value (alts [quoted .singleQuoted '\'', quoted .doubleQuoted '"',
    quoted .backQuoted '`', textValue])

def attrOp : Peg := rule .attrOp (alts [str "!=", str "~=", str "="])

def attrElementaryExpr : Peg :=
  rule .attrElementaryExpr (seqs [identifier, optGap, attrOp, optGap, value])

def attrExpr : Nat → Peg
  | 0 => fail
  | depth + 1 =>
    let group := rule .attrGroupExpr (seqs [str "(", optGap, attrExpr depth, optGap, str ")"])
    let basic := rule .attrBasicExpr (alt group attrElementaryExpr)
    let conj := rule .attrAndExpr
      (seq basic (many (seqs [optGap, str "&&", optGap, basic])))
    let disj := rule .attrOrExpr
      (seq conj (many (seqs [optGap, str "||", optGap, conj])))
    rule .attrExpr disj

def attrPredict (depth : Nat) : Peg :=
  rule .attrPredict (seqs [str "[", optGap, opt (attrExpr depth), optGap, str "]"])

def predict (depth : Nat) : Peg :=
  rule .predict
    (alt (rule .predictWithAttr (seq basicPredicts (opt (attrPredict depth))))
      (attrPredict depth))

def expr : Nat → Peg
  | 0 => fail
  | depth + 1 =>
    let group := rule .groupExpr (seqs [str "(", optGap, expr depth, optGap, str ")"])
    let elementary := rule .elementaryExpr (alt group (predict (depth + 1)))
    let marker := alts [rule .star (str "*"), rule .plus (str "+"), rule .option (str "?")]
    let basic := rule .basicExpr (seq elementary (opt marker))
    let concat := rule .concatExpr (seq basic (many (seq gap basic)))
    let disj := rule .orExpr (seq concat (many (seqs [optGap, str "|", optGap, concat])))
    rule .expr disj

end TreeSelect.Selector.Grammar
