import GradedSymbols.Contract.Checks
import GradedSymbols.Contract.Distortion
import GradedSymbols.Log
import GradedSymbols.Store
import GradedSymbols.Strategy.Survey
import GradedSymbols.Proofs.Name.Scan
import GradedSymbols.Proofs.Name.Sampling
import GradedSymbols.Proofs.Object.Groups
import GradedSymbols.Proofs.Object.Identity
import GradedSymbols.Proofs.Contract.Course
import GradedSymbols.Proofs.Contract.Identity
import GradedSymbols.Proofs.Random.Stretch
import GradedSymbols.Proofs.Contract.Symbol
import GradedSymbols.Proofs.Contract.Rejection
import GradedSymbols.Proofs.Text.Digits
import GradedSymbols.Proofs.Text.Quoted
import GradedSymbols.Proofs.Error.Texts
import GradedSymbols.Proofs.Store.Steps
import GradedSymbols.Proofs.Store.Runs
import GradedSymbols.Proofs.Object.Texts
import GradedSymbols.Proofs.Name.Append
import GradedSymbols.Proofs.Strategy.SpoiledNames
import GradedSymbols.Proofs.Log
import GradedSymbols.Proofs.Random.Even
import GradedSymbols.Proofs.Name.Even
import GradedSymbols.Proofs.Draft.Scalars
import GradedSymbols.Proofs.Strategy.Symbols
import GradedSymbols.Proofs.Text.Lines
import GradedSymbols.Proofs.Text.Indented
import GradedSymbols.Proofs.Decimal.Numerals
import GradedSymbols.Proofs.Scalar.Numbers
import GradedSymbols.Proofs.Error.Lines
import GradedSymbols.Proofs.Binary64.Nearest
import GradedSymbols.Proofs.Binary64.Reading
import GradedSymbols.Proofs.Scalar.Texts
import GradedSymbols.Proofs.Text.Padding
import GradedSymbols.Proofs.Text.Integer
import GradedSymbols.Proofs.Scalar.Padding
import GradedSymbols.Proofs.Decimal.Rounding
import GradedSymbols.Proofs.Scalar.Precision
