import TaxReturn.FilingStatus

/-!
The income tax of 2023. Below $100,000 it is read from the Tax Table: each row is taxed at its
midpoint, in whole dollars. From there on the brackets apply to the exact amount.
-/
namespace TaxReturn.Year2023

/-- Income up to `upper` dollars is taxed at `rate`. -/
structure Bracket where
  upper : Decimal
  rate : Decimal
  deriving DecidableEq, Repr

/-- The last bracket ends where amounts of dollars in 32 bits do. -/
def topBracket : Bracket := ⟨.ofNat 4294967295, .cents 37⟩

def singleBrackets : List Bracket :=
  [⟨.ofNat 11000, .cents 10⟩, ⟨.ofNat 44725, .cents 12⟩, ⟨.ofNat 95375, .cents 22⟩,
    ⟨.ofNat 182100, .cents 24⟩, ⟨.ofNat 231250, .cents 32⟩, ⟨.ofNat 578125, .cents 35⟩, topBracket]

def jointBrackets : List Bracket :=
  [⟨.ofNat 22000, .cents 10⟩, ⟨.ofNat 89450, .cents 12⟩, ⟨.ofNat 190750, .cents 22⟩,
    ⟨.ofNat 364200, .cents 24⟩, ⟨.ofNat 462500, .cents 32⟩, ⟨.ofNat 693750, .cents 35⟩, topBracket]

def separateBrackets : List Bracket :=
  [⟨.ofNat 11000, .cents 10⟩, ⟨.ofNat 44725, .cents 12⟩, ⟨.ofNat 95375, .cents 22⟩,
    ⟨.ofNat 182100, .cents 24⟩, ⟨.ofNat 231250, .cents 32⟩, ⟨.ofNat 346875, .cents 35⟩, topBracket]

def headOfHouseholdBrackets : List Bracket :=
  [⟨.ofNat 15700, .cents 10⟩, ⟨.ofNat 59850, .cents 12⟩, ⟨.ofNat 95350, .cents 22⟩,
    ⟨.ofNat 182100, .cents 24⟩, ⟨.ofNat 231250, .cents 32⟩, ⟨.ofNat 578100, .cents 35⟩, topBracket]

def brackets : FilingStatus → List Bracket
  | .single => singleBrackets
  | .marriedJointly | .survivingSpouse => jointBrackets
  | .marriedSeparately => separateBrackets
  | .headOfHousehold => headOfHouseholdBrackets

/-- The tax in brackets from `lower` on, on top of `tax`. -/
def taxFrom (income lower tax : Decimal) : List Bracket → Option Decimal
  | [] => some tax
  | bracket :: rest =>
    if income ≤ lower then some tax
    else do
      let slice ← (min income bracket.upper).sub? lower
      taxFrom income bracket.upper (← tax.add? (← slice.mul? bracket.rate)) rest

/-- The bracket rates applied to the exact income. -/
def bracketTax (income : Decimal) (status : FilingStatus) : Option Decimal :=
  taxFrom income 0 0 (brackets status)

/-- The start of the row of the given width, counted from zero, that holds an income. -/
def rowStart (income width : Decimal) : Option Decimal := do
  (← (← income.div? width).floor?).mul? width

/-- The middle of a row. -/
def rowMiddle (start width : Decimal) : Option Decimal := do
  start.add? (← width.div? (.ofNat 2))

/-- The middle of the Tax Table row that holds an income of at least five dollars. -/
def tableMidpoint (income : Decimal) : Option Decimal :=
  if income < .ofNat 5 then none
  else if income < .ofNat 15 then rowMiddle (.ofNat 5) (.ofNat 10)
  else if income < .ofNat 25 then rowMiddle (.ofNat 15) (.ofNat 10)
  else if income < .ofNat 3000 then do
    let width : Decimal := .ofNat 25
    let start ← (← rowStart (← income.sub? width) width).add? width
    rowMiddle start width
  else do
    let width : Decimal := .ofNat 50
    rowMiddle (← rowStart income width) width

/-- Where the Tax Table stops. -/
def tableLimit : Decimal := .ofNat 100000

/-- The tax on a taxable income. -/
def figureTax (income : Decimal) (status : FilingStatus) : Option Decimal :=
  if tableLimit ≤ income then (bracketTax income status).map (·.round .awayFromZero 2)
  else match tableMidpoint income with
    | some midpoint => (bracketTax midpoint status).map (·.round .awayFromZero 0)
    | none => some 0

end TaxReturn.Year2023
