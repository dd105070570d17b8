import Reckoner.Operator
import Reckoner.Text.Unprintable
import Reckoner.Text.Quoted
import Reckoner.Text.Decimal
import Reckoner.Text.Blank
import Reckoner.Token
import Reckoner.Cursor
import Reckoner.Expr
import Reckoner.Expr.Value
import Reckoner.Series
import Reckoner.Nesting
import Reckoner.Formula
import Reckoner.FileTree
import Reckoner.Source
import Reckoner.Journal
import Reckoner.Notice
import Reckoner.Evaluation
import Reckoner.History
import Reckoner.Session
import Reckoner.CommandLine.Arguments
import Reckoner.CommandLine.Usage
import Reckoner.Program
import Reckoner.Main
import Reckoner.Proofs.Sequencing
import Reckoner.Proofs.Lexing
import Reckoner.Proofs.MaximalMunch
import Reckoner.Proofs.Grammar
import Reckoner.Proofs.Reading
import Reckoner.Proofs.Completion
import Reckoner.Proofs.ExactValue
import Reckoner.Proofs.Diagnosis
import Reckoner.Proofs.BadTokens
import Reckoner.Proofs.OnePass
import Reckoner.Proofs.Spacing
import Reckoner.Proofs.Adjoining
import Reckoner.Proofs.InStep
import Reckoner.Proofs.Replacement
import Reckoner.Proofs.Finality
import Reckoner.Proofs.Dialogue
import Reckoner.Proofs.Continuation
import Reckoner.Proofs.Turns
import Reckoner.Proofs.Inspection
import Reckoner.Proofs.Recording
import Reckoner.Proofs.Paths
import Reckoner.Proofs.HistoryFile
import Reckoner.Proofs.Restarts
import Reckoner.Proofs.Widths
import Reckoner.Proofs.Resumption
import Reckoner.Proofs.Rendering
import Reckoner.Proofs.Strands
import Reckoner.Proofs.Roots
import Reckoner.Proofs.Sheets
import Reckoner.Proofs.LevelPass
import Reckoner.Proofs.TokenTexts
import Reckoner.Proofs.Invocation
import Reckoner.Proofs.Batches
