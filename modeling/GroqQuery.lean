import GroqQuery.Construction
import GroqQuery.Decimal.Binary64
import GroqQuery.Decimal.Numeral
import GroqQuery.Decimal.Shortest
import GroqQuery.Decimal.Whole
import GroqQuery.Failure
import GroqQuery.Field
import GroqQuery.Filter
import GroqQuery.Filter.Reading
import GroqQuery.Log
import GroqQuery.Log.Message
import GroqQuery.Log.Setup
import GroqQuery.Names
import GroqQuery.Projection
import GroqQuery.Projection.Reading
import GroqQuery.Proofs.Construction
import GroqQuery.Proofs.Decimal.Numeral
import GroqQuery.Proofs.Decimal.Shortest
import GroqQuery.Proofs.Decimal.Whole
import GroqQuery.Proofs.Filter.Acceptance
import GroqQuery.Proofs.Filter.Formula
import GroqQuery.Proofs.Filter.Grammar
import GroqQuery.Proofs.Filter.InputMeaning
import GroqQuery.Proofs.Filter.MarkerPositions
import GroqQuery.Proofs.Filter.Meaning
import GroqQuery.Proofs.Filter.MisplacedMarkers
import GroqQuery.Proofs.Filter.Operands
import GroqQuery.Proofs.Filter.Reading
import GroqQuery.Proofs.Filter.Regrouping
import GroqQuery.Proofs.Filter.Spellings
import GroqQuery.Proofs.Finished
import GroqQuery.Proofs.Induction
import GroqQuery.Proofs.Log.Setup
import GroqQuery.Proofs.Numbers
import GroqQuery.Proofs.Operands
import GroqQuery.Proofs.Projection.Acceptance
import GroqQuery.Proofs.Projection.Composition
import GroqQuery.Proofs.Projection.Decoding
import GroqQuery.Proofs.Projection.Grammar
import GroqQuery.Proofs.Projection.Operands
import GroqQuery.Proofs.Projection.Outline
import GroqQuery.Proofs.Projection.Reading
import GroqQuery.Proofs.Projection.Rewording
import GroqQuery.Proofs.Projection.Spellings
import GroqQuery.Proofs.Query.Brackets
import GroqQuery.Proofs.Query.Chain
import GroqQuery.Proofs.Query.ClosedForm
import GroqQuery.Proofs.Query.Drafts
import GroqQuery.Proofs.Query.DraftsPath
import GroqQuery.Proofs.Query.Inputs
import GroqQuery.Proofs.Query.Reachable
import GroqQuery.Proofs.Query.Records
import GroqQuery.Proofs.Query.Run
import GroqQuery.Proofs.Query.Shorthand
import GroqQuery.Proofs.Query.Slices
import GroqQuery.Proofs.Query.Start
import GroqQuery.Proofs.Query.Texts
import GroqQuery.Proofs.Query.Totality
import GroqQuery.Proofs.Reading
import GroqQuery.Proofs.Rendering
import GroqQuery.Proofs.Scalars
import GroqQuery.Proofs.Settings.Loading
import GroqQuery.Proofs.Text.Brackets
import GroqQuery.Proofs.Text.Capitals
import GroqQuery.Proofs.Text.Literals
import GroqQuery.Proofs.Text.Numbers
import GroqQuery.Proofs.Text.Numerals
import GroqQuery.Proofs.Text.Quoted
import GroqQuery.Query.Chain
import GroqQuery.Query.Edit
import GroqQuery.Query.Outcome
import GroqQuery.Query.Start
import GroqQuery.Query.State
import GroqQuery.Rendering
import GroqQuery.Settings
import GroqQuery.Settings.EnvFile
import GroqQuery.Settings.Loading
import GroqQuery.Shape
import GroqQuery.Text.Blank
import GroqQuery.Text.Capitals
import GroqQuery.Text.Printable
import GroqQuery.Text.Quoted
import GroqQuery.Value
import GroqQuery.Value.Display
import GroqQuery.Value.Keys
