import Calculator.Main
import Calculator.Expr.Rpn
import Calculator.Parser.Cursor
import Calculator.Proofs.Compile.Composition
import Calculator.Proofs.Evaluation.Degrees
import Calculator.Proofs.Expr.Brevity
import Calculator.Proofs.Expr.Document
import Calculator.Proofs.Graph.Abscissae
import Calculator.Proofs.Lexeme.Tiling
import Calculator.Proofs.Parser.Depth
import Calculator.Proofs.Report.Caret
import Calculator.Proofs.Session.Isolation
import Calculator.Proofs.Graph.Samples
import Calculator.Proofs.Parser.Cursor
import Calculator.Proofs.Parser.Deepest
import Calculator.Proofs.Compile.Display
import Calculator.Proofs.Token.Gaps
import Calculator.Proofs.Token.Indices
import Calculator.Proofs.Expr.Walk
import Calculator.Proofs.Graph.Flat
import Calculator.Proofs.Report.Place
import Calculator.Proofs.Parser.Limit
import Calculator.Proofs.Graph.Count
import Calculator.Proofs.Report.Ending
import Calculator.Proofs.Command.Dialogue
