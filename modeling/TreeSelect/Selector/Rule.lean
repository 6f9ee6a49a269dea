namespace TreeSelect.Selector

/-- A named rule of the selector grammar. -/
inductive Rule where
  | expr | orExpr | concatExpr | basicExpr | star | plus | option
  | elementaryExpr | groupExpr | predict | predictWithAttr | basicPredicts | basicPredict
  | idPredict | classPredict | tagPredict | identifier
  | attrPredict | attrExpr | attrOrExpr | attrAndExpr | attrBasicExpr | attrGroupExpr
  | attrElementaryExpr | attrOp | value | singleQuoted | doubleQuoted | backQuoted | text
  deriving DecidableEq, Repr, Inhabited

namespace Rule

def name : Rule → String
  | expr => "expr"
  | orExpr => "or_expr"
  | concatExpr => "concat_expr"
  | basicExpr => "basic_expr"
  | star => "star"
  | plus => "plus"
  | option => "option"
  | elementaryExpr => "elementary_expr"
  | groupExpr => "group_expr"
  | predict => "predict"
  | predictWithAttr => "predict_with_attr"
  | basicPredicts => "basic_predicts"
  | basicPredict => "basic_predict"
  | idPredict => "id_predict"
  | classPredict => "class_predict"
  | tagPredict => "tag_predict"
  | identifier => "identifier"
  | attrPredict => "attr_predict"
  | attrExpr => "attr_expr"
  | attrOrExpr => "attr_or_expr"
  | attrAndExpr => "attr_and_expr"
  | attrBasicExpr => "attr_basic_expr"
  | attrGroupExpr => "attr_group_expr"
  | attrElementaryExpr => "attr_elementary_expr"
  | attrOp => "attr_op"
  | value => "value"
  | singleQuoted => "single_quoted"
  | doubleQuoted => "double_quoted"
  | backQuoted => "back_quoted"
  | text => "text"

def all : List Rule :=
  [expr, orExpr, concatExpr, basicExpr, star, plus, option, elementaryExpr, groupExpr,
    predict, predictWithAttr, basicPredicts, basicPredict, idPredict, classPredict, tagPredict,
    identifier, attrPredict, attrExpr, attrOrExpr, attrAndExpr, attrBasicExpr, attrGroupExpr,
    attrElementaryExpr, attrOp, value, singleQuoted, doubleQuoted, backQuoted, text]

def ofName? (s : String) : Option Rule := all.find? (·.name == s)

theorem mem_all (r : Rule) : r ∈ all := by cases r <;> decide

def isQuoted : Rule → Bool
  | singleQuoted | doubleQuoted | backQuoted => true
  | _ => false

end Rule

end TreeSelect.Selector
