import BindingNames.Koka.Construct
import BindingNames.Koka.Summary
import BindingNames.Proofs.Abi.ResultNames
import BindingNames.Proofs.Documentation.EvenBackticks
import BindingNames.Proofs.Documentation.Paragraphs
import BindingNames.Proofs.Documentation.ShownUrls
import BindingNames.Proofs.Documentation.UniqueUrls
import BindingNames.Proofs.Documentation.UrlShape
import BindingNames.Proofs.Exports.Lookup
import BindingNames.Proofs.Exports.SymbolClashes
import BindingNames.Proofs.Koka.AccessorNames
import BindingNames.Proofs.Koka.CommentFailures
import BindingNames.Proofs.Koka.CommentLines
import BindingNames.Proofs.Koka.CommentMarks
import BindingNames.Proofs.Koka.CommentUrls
import BindingNames.Proofs.Koka.ConstructorNames
import BindingNames.Proofs.Koka.EscapedNames
import BindingNames.Proofs.Koka.ForbiddenNames
import BindingNames.Proofs.Koka.MarkedNames
import BindingNames.Proofs.Koka.ParamNames
import BindingNames.Proofs.Koka.ReferenceAgreement
import BindingNames.Proofs.Koka.RenameChannels
import BindingNames.Proofs.Koka.RenamingAtOnce
import BindingNames.Proofs.Koka.TypeNameClashes
import BindingNames.Proofs.Koka.UnmentionedTypes
import BindingNames.Proofs.Lifetimes.EdgeArrays
import BindingNames.Proofs.Text.Capitals
import BindingNames.Proofs.Text.LoweredTexts
import BindingNames.Proofs.Text.Passages
import BindingNames.Proofs.TypeExpr.Arms
import BindingNames.Proofs.Unicode.Ascii
import BindingNames.Proofs.Words.CamelSeams
import BindingNames.Proofs.Words.Gaps
import BindingNames.Proofs.Words.Positions
import BindingNames.Proofs.Words.Resplitting
import BindingNames.Proofs.Words.SnakeProjection
