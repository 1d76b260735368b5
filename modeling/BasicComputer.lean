import BasicComputer.Command.Invocation
import BasicComputer.Main
import BasicComputer.Message.Template
import BasicComputer.Proofs.LabelOrder
import BasicComputer.Proofs.Meaning
import BasicComputer.Proofs.OnePass
import BasicComputer.Proofs.Reassembly
import BasicComputer.Proofs.History
import BasicComputer.Proofs.FailedLine
import BasicComputer.Proofs.Operands
import BasicComputer.Proofs.BodyLine
import BasicComputer.Proofs.Rebuild
import BasicComputer.Proofs.CommandEffects
import BasicComputer.Proofs.Translation
import BasicComputer.Proofs.Layout
import BasicComputer.Proofs.Relabeling
import BasicComputer.Proofs.Listing
import BasicComputer.Proofs.BlamedLine
import BasicComputer.Proofs.HexRows
import BasicComputer.Assembly.Tracing
import BasicComputer.Proofs.Tracing
import BasicComputer.Proofs.Decoding
import BasicComputer.Proofs.NumeralGrammar
import BasicComputer.Proofs.BodyGrammar
import BasicComputer.Proofs.Literals
import BasicComputer.Proofs.LabelOperands
import BasicComputer.Proofs.Names
import BasicComputer.Proofs.Classification
import BasicComputer.Proofs.LabelExpressions
import BasicComputer.Proofs.CanonicalNames
import BasicComputer.Proofs.LineParts
import BasicComputer.Proofs.OutputNames
import BasicComputer.Proofs.SourceKept
import BasicComputer.Proofs.DefinedNames
