import TaxReturn.Text.Quoted
import TaxReturn.Text.Alphabetic
import TaxReturn.Text.Blank
import TaxReturn.Text.DecimalDigit
import TaxReturn.Text.Split
import TaxReturn.Error
import TaxReturn.Name.Form
import TaxReturn.Name.Order
import TaxReturn.Decimal.Arithmetic
import TaxReturn.Decimal.Text
import TaxReturn.Value.Basic
import TaxReturn.Value.Kind
import TaxReturn.Pattern.Basic
import TaxReturn.Pattern.Reader
import TaxReturn.Input.Spec
import TaxReturn.Sections
import TaxReturn.Input.Store
import TaxReturn.Value.Store
import TaxReturn.View
import TaxReturn.Field
import TaxReturn.Form
import TaxReturn.Waitlist
import TaxReturn.Formula
import TaxReturn.Solution
import TaxReturn.Solver.Basic
import TaxReturn.Solver.Run
import TaxReturn.Describe
import TaxReturn.FilingStatus
import TaxReturn.Line
import TaxReturn.Year2023.Rates
import TaxReturn.Year2023.HealthSavings
import TaxReturn.Year2023.IndividualReturn
import TaxReturn.Year2023.Library
import TaxReturn.Filing.Plan
import TaxReturn.Listing
import TaxReturn.Report
import TaxReturn.Terminal
import TaxReturn.Command.Arguments
import TaxReturn.Command.Desk
import TaxReturn.Main
import TaxReturn.Text.CaseFold
import TaxReturn.Text.Property.Age
import TaxReturn.Text.Property.Binary
import TaxReturn.Text.Property.Boundary
import TaxReturn.Text.Property.Lookup
import TaxReturn.Proofs.Names
import TaxReturn.Proofs.Keys
import TaxReturn.Proofs.Solver.LeastPair
import TaxReturn.Proofs.Solver.Loss
import TaxReturn.Proofs.Solver.Cycles
import TaxReturn.Proofs.Solver.Questions
import TaxReturn.Proofs.Solver.Termination
import TaxReturn.Proofs.Year2023.Refiling
import TaxReturn.Proofs.Solver.Exactness
import TaxReturn.Proofs.Year2023.Additions
import TaxReturn.Proofs.Year2023.Closed
import TaxReturn.Proofs.Year2023.Retagging
import TaxReturn.Proofs.Sections
import TaxReturn.Proofs.Encoding
import TaxReturn.Proofs.Filing
import TaxReturn.Proofs.Year2023.Reloading
import TaxReturn.Proofs.Ranges
import TaxReturn.Proofs.Year2023.Ranges
import TaxReturn.Proofs.Decimal.Rational
import TaxReturn.Proofs.Decimal.Exact
import TaxReturn.Proofs.Year2023.TaxTable
import TaxReturn.Proofs.Year2023.Overflow
import TaxReturn.Proofs.Amounts
import TaxReturn.Proofs.Year2023.Balance
import TaxReturn.Proofs.Year2023.Interest
import TaxReturn.Proofs.Storable
import TaxReturn.Proofs.Decoding
import TaxReturn.Proofs.Plans
import TaxReturn.Proofs.Year2023.Recovered
import TaxReturn.Proofs.Year2023.Planned
import TaxReturn.Proofs.Terminal
import TaxReturn.Proofs.Solver.Supplied
import TaxReturn.Proofs.Year2023.Restored
import TaxReturn.Proofs.Grammar
import TaxReturn.Proofs.Releases
import TaxReturn.Proofs.Decimal.Reading
import TaxReturn.Proofs.Codec
import TaxReturn.Proofs.Solver.Written
import TaxReturn.Proofs.Decimal.Amount
import TaxReturn.Proofs.Decimal.Places
import TaxReturn.Proofs.Solver.Committed
import TaxReturn.Proofs.Echoes
import TaxReturn.Proofs.Solver.Requests
import TaxReturn.Proofs.Resolution
import TaxReturn.Proofs.Assembly
import TaxReturn.Proofs.Solver.Invalid
import TaxReturn.Proofs.Transcript
import TaxReturn.Proofs.Year2023.Prompted
import TaxReturn.Proofs.LineNumbers
import TaxReturn.Proofs.Year2023.TableRows
import TaxReturn.Proofs.Year2023.Deduction
