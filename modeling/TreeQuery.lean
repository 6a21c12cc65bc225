import TreeQuery.Text.ByteRange
import TreeQuery.Unicode.Age
import TreeQuery.Unicode.Boundary
import TreeQuery.Unicode.CaseFolding
import TreeQuery.Unicode.Property
import TreeQuery.Unicode.Script
import TreeQuery.Unicode.Version17
import TreeQuery.Regex.Basic
import TreeQuery.Regex.Normal
import TreeQuery.Regex.Automaton
import TreeQuery.Regex.Flags
import TreeQuery.Regex.Class
import TreeQuery.Regex.Escape
import TreeQuery.Regex.Bracket
import TreeQuery.Regex.Reader
import TreeQuery.Number.Binary64
import TreeQuery.Number.FloatText
import TreeQuery.Number.Integer
import TreeQuery.Text.Quoted
import TreeQuery.Text.Utf8
import TreeQuery.Number.Decimal
import TreeQuery.Number.DecimalReader
import TreeQuery.Json.Basic
import TreeQuery.Json.Reader
import TreeQuery.Forest.Basic
import TreeQuery.Forest.Edit
import TreeQuery.Expression.Basic
import TreeQuery.Token.Lexer
import TreeQuery.Expression.Fault
import TreeQuery.Expression.Reader
import TreeQuery.Convert
import TreeQuery.Select.Basic
import TreeQuery.Select.Cursor
import TreeQuery.Evaluate.Basic
import TreeQuery.Evaluate.Resolution
import TreeQuery.Render
import TreeQuery.Check
import TreeQuery.Command
import TreeQuery.Main
import TreeQuery.Proofs.Forest.Links
import TreeQuery.Proofs.Forest.Lineage
import TreeQuery.Proofs.Forest.Preorder
import TreeQuery.Proofs.Forest.Edits
import TreeQuery.Proofs.Forest.Copy
import TreeQuery.Proofs.Forest.Clone
import TreeQuery.Proofs.Forest.Reachable
import TreeQuery.Proofs.Forest.Replace
import TreeQuery.Proofs.Select.Advance
import TreeQuery.Proofs.Select.Pull
import TreeQuery.Proofs.Select.Chain
import TreeQuery.Proofs.Evaluate.Selection
import TreeQuery.Proofs.Expression.Marks
import TreeQuery.Proofs.Token.Lexer
import TreeQuery.Proofs.Expression.Body
import TreeQuery.Proofs.Expression.Grammar
import TreeQuery.Proofs.Evaluate.Literals
import TreeQuery.Proofs.Evaluate.Reference
import TreeQuery.Proofs.Evaluate.Limit
import TreeQuery.Proofs.Expression.Selector
import TreeQuery.Proofs.Expression.Image
import TreeQuery.Proofs.Forest.Carried
import TreeQuery.Proofs.Forest.Shape
import TreeQuery.Proofs.Forest.Placed
import TreeQuery.Proofs.Forest.Mirror
import TreeQuery.Proofs.Select.Mirror
import TreeQuery.Proofs.Evaluate.Mirror
import TreeQuery.Proofs.Evaluate.Copy
import TreeQuery.Proofs.Token.Spelling
import TreeQuery.Proofs.Expression.Compose
import TreeQuery.Proofs.Expression.Splice
import TreeQuery.Proofs.Expression.Recognition
import TreeQuery.Proofs.Evaluate.Quoting
import TreeQuery.Proofs.Evaluate.SetAlgebra
import TreeQuery.Proofs.Evaluate.Recognition
import TreeQuery.Proofs.Number.Rounding
import TreeQuery.Proofs.Json.Stored
import TreeQuery.Proofs.Json.Number
import TreeQuery.Proofs.Json.Reader
import TreeQuery.Proofs.Forest.Grown
import TreeQuery.Proofs.Json.Tree
import TreeQuery.Proofs.Check
import TreeQuery.Proofs.Forest.DocumentOrder
import TreeQuery.Proofs.Forest.Faithful
import TreeQuery.Proofs.Forest.Insertion
import TreeQuery.Proofs.Select.Combination
import TreeQuery.Proofs.Evaluate.Write
import TreeQuery.Proofs.Expression.Layout
import TreeQuery.Proofs.Evaluate.Indirection
import TreeQuery.Proofs.Evaluate.Nesting
import TreeQuery.Proofs.Expression.ViablePrefix
import TreeQuery.Proofs.Expression.Escape
import TreeQuery.Proofs.Evaluate.Failure
import TreeQuery.Proofs.Evaluate.TypeSuffix
import TreeQuery.Proofs.Evaluate.ReadBack
import TreeQuery.Proofs.Select.Consumption
import TreeQuery.Proofs.Select.LiveChildren
import TreeQuery.Proofs.Template
import TreeQuery.Proofs.Evaluate.Detachment
import TreeQuery.Proofs.Forest.TakenOver
import TreeQuery.Proofs.Render
import TreeQuery.Proofs.Token.Tiling
import TreeQuery.Proofs.Forest.Likeness
import TreeQuery.Proofs.Text
import TreeQuery.Proofs.Convert
import TreeQuery.Proofs.Evaluate.Opening
import TreeQuery.Proofs.Evaluate.Joining
