import TreeSelect.Text.Ranges
import TreeSelect.Text.Blank
import TreeSelect.Text.Utf8
import TreeSelect.Text.Unprintable
import TreeSelect.Text.GraphemeExtend
import TreeSelect.Text.Quoted
import TreeSelect.Selector.Rule
import TreeSelect.Selector.Syntax
import TreeSelect.Selector.Error
import TreeSelect.Selector.Nesting
import TreeSelect.Selector.Peg
import TreeSelect.Selector.Grammar
import TreeSelect.Selector.Parse
import TreeSelect.Element
import TreeSelect.Predicate.Basic
import TreeSelect.Predicate.OfSyntax
import TreeSelect.Selector.Ast
import TreeSelect.Program.Basic
import TreeSelect.Program.Codegen
import TreeSelect.Machine
import TreeSelect.Forest.Basic
import TreeSelect.Forest.Select
import TreeSelect.Markup.Token
import TreeSelect.Markup.Entities
import TreeSelect.Markup.CharRef
import TreeSelect.Markup.Lexer
import TreeSelect.Markup.Stream
import TreeSelect.Markup.Dom
import TreeSelect.Markup.Builder.Foreign
import TreeSelect.Markup.Builder.State
import TreeSelect.Markup.Builder.Adoption
import TreeSelect.Markup.Builder.Body
import TreeSelect.Markup.Builder.Table
import TreeSelect.Markup.Builder.Doctype
import TreeSelect.Markup.Builder.Modes
import TreeSelect.Markup.Parse
import TreeSelect.Markup.Render
import TreeSelect.Document
import TreeSelect.Demo
import TreeSelect.Session
import TreeSelect.Main
import TreeSelect.Proofs.Layout
import TreeSelect.Proofs.Runs
import TreeSelect.Proofs.Simulation
import TreeSelect.Proofs.Fragment
import TreeSelect.Proofs.Thompson
import TreeSelect.Proofs.Parsing
import TreeSelect.Proofs.ParseTree
import TreeSelect.Proofs.Denotation
import TreeSelect.Proofs.Merge
import TreeSelect.Proofs.ForestShape
import TreeSelect.Proofs.Preorder
import TreeSelect.Proofs.Selection
import TreeSelect.Proofs.Compile
import TreeSelect.Proofs.Nesting
import TreeSelect.Proofs.Validation
import TreeSelect.Proofs.Attributes
import TreeSelect.Proofs.DomTree
import TreeSelect.Proofs.DocumentLoop
import TreeSelect.Proofs.DocumentForest
import TreeSelect.Proofs.FlatForm
import TreeSelect.Proofs.Navigation
import TreeSelect.Proofs.Closure
import TreeSelect.Proofs.Spans
import TreeSelect.Proofs.Depth
import TreeSelect.Proofs.Truncation
import TreeSelect.Proofs.Lookahead
import TreeSelect.Proofs.PrefixParse
import TreeSelect.Proofs.ThreadSets
import TreeSelect.Proofs.CodeShape
import TreeSelect.Proofs.Simplification
