import Formula.Catalogue
import Formula.Decimal.Reading
import Formula.Draft
import Formula.Log
import Formula.Program.Validation
import Formula.Session
import Formula.Token.Anatomy
import Formula.Proofs.Conversion.Layout
import Formula.Proofs.Effect
import Formula.Proofs.Operands
import Formula.Proofs.Program.Run
import Formula.Proofs.Folding.Steps
import Formula.Proofs.Folding.Transparency
import Formula.Proofs.Program.Agreement
import Formula.Proofs.Grammar.Brackets
import Formula.Proofs.Grammar.Surplus
import Formula.Proofs.Conversion.Contents
import Formula.Proofs.Lexer.Neighbours
import Formula.Proofs.Balance
import Formula.Proofs.Acceptance
import Formula.Proofs.Lexer.Tiling
import Formula.Proofs.Lexer.Adjacency
import Formula.Proofs.Conversion.Order
import Formula.Proofs.Conversion.Waiting
import Formula.Proofs.Conversion.Following
import Formula.Proofs.Program.Height
import Formula.Proofs.Conversion.Heights
import Formula.Proofs.Conversion.Preceding
import Formula.Proofs.Program.Postorder
import Formula.Proofs.Session
import Formula.Proofs.Conversion.Segments
import Formula.Proofs.Lexer.Recognition
import Formula.Proofs.Program.Settings
import Formula.Proofs.Folding.Substitution
import Formula.Proofs.Folding.Completeness
import Formula.Proofs.Likeness
import Formula.Proofs.Lexer.Respelling
import Formula.Proofs.Folding.Findings
import Formula.Proofs.Folding.Postorder
import Formula.Proofs.Draft
import Formula.Proofs.Lexer.Explicit
import Formula.Proofs.Lexer.Stream
import Formula.Proofs.Lexer.Longest
import Formula.Proofs.Lexer.Declared
import Formula.Proofs.Unmentioned
import Formula.Proofs.Calls
import Formula.Proofs.Program.Bounds
import Formula.Proofs.Program.Batch
import Formula.Proofs.Lexer.Literal
import Formula.Proofs.Collisions
