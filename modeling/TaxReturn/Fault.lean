import TaxReturn.Text.Quoted
import TaxReturn.Text.Split

/-!
What can be wrong with a name, an instance tag, a line of sectioned text or a typed value.
Each cause has one wording.
-/
namespace TaxReturn

inductive NamePart where
  | form
  | tag
  deriving DecidableEq, Repr

def NamePart.text : NamePart → String
  | .form => "form name"
  | .tag => "instance tag"

inductive NameFault where
  | emptyPart (part : NamePart)
  | badCharacter (part : NamePart) (c : Char)
  | badBase
  | badPattern
  | unqualifiedInput
  | unqualifiedField
  /-- A field asked for a name that says no form. -/
  | unscoped (reader : String)
  | badJurisdiction
  deriving DecidableEq, Repr

def NameFault.text : NameFault → String
  | .emptyPart part => part.text ++ " is empty"
  | .badCharacter part c => part.text ++ " contains " ++ Text.quoteChar c
  | .badBase => "base names must be non-empty without '.' or whitespace"
  | .badPattern => "bad pattern"
  | .unqualifiedInput => "input names must be qualified"
  | .unqualifiedField => "field names in a solution must be qualified"
  | .unscoped reader => "referenced by " ++ reader ++ " without a form prefix"
  | .badJurisdiction => "expected `federal` or a two-letter state code"

inductive InstanceFault where
  | notInstanced
  | unlisted (tags : List String)
  | tagRequired (tags : List String)
  deriving DecidableEq, Repr

def InstanceFault.text : InstanceFault → String
  | .notInstanced => "form is not instanced"
  | .unlisted tags => "valid instances are " ++ Text.join ", " tags
  | .tagRequired tags => "an instance is required, one of " ++ Text.join ", " tags

inductive LineFault where
  | unterminatedHeader
  | emptySection
  | noAssignment
  | emptyKey
  | outsideSection
  | duplicateKey (key sectionName : String)
  deriving DecidableEq, Repr

def LineFault.text : LineFault → String
  | .unterminatedHeader => "unterminated section header"
  | .emptySection => "empty section name"
  | .noAssignment => "expected `key = value`"
  | .emptyKey => "empty key"
  | .outsideSection => "key outside of any section"
  | .duplicateKey key name => "duplicate key " ++ Text.quote key ++ " in [" ++ name ++ "]"

inductive IntegerFault where
  | empty
  | notDigits
  | aboveRange
  | belowRange
  deriving DecidableEq, Repr

def IntegerFault.text : IntegerFault → String
  | .empty => "cannot parse integer from empty string"
  | .notDigits => "invalid digit found in string"
  | .aboveRange => "number too large to fit in target type"
  | .belowRange => "number too small to fit in target type"

inductive DecimalFault where
  | notPlain (raw : String)
  | tooManyDigits
  | roundedPastLimit
  deriving DecidableEq, Repr

def DecimalFault.text : DecimalFault → String
  | .notPlain raw => Text.quote raw ++ " is not a plain decimal number"
  | .tooManyDigits => "Invalid decimal: overflow from too many digits"
  | .roundedPastLimit => "Invalid decimal: overflow from mantissa after rounding"

/-- Why a text is not a value of the kind asked for. -/
inductive ValueFault where
  | notBoolean
  | notYesOrNo
  | notInteger (fault : IntegerFault)
  | notDecimal (fault : DecimalFault)
  | amountTooLarge (limit : Nat)
  | notAKey (keys : List String)
  | notAnOption (keys : List String)
  | required
  | mismatch (pattern : String)
  | notNineDigits
  | unknownStatus
  deriving DecidableEq, Repr

def ValueFault.text : ValueFault → String
  | .notBoolean => "not a boolean"
  | .notYesOrNo => "expected yes or no"
  | .notInteger fault => fault.text
  | .notDecimal fault => fault.text
  | .amountTooLarge limit => "amount exceeds " ++ toString limit ++ " in magnitude"
  | .notAKey keys => "expected one of " ++ Text.join ", " keys
  | .notAnOption keys => "expected one of " ++ Text.join "/" keys
  | .required => "a value is required"
  | .mismatch pattern => "does not match " ++ pattern
  | .notNineDigits => "expected 9 digits"
  | .unknownStatus => "unknown filing status"

/-- Why a file could not be read or written. -/
inductive FileFault where
  | notFound
  | notText
  | isDirectory
  | notADirectory
  | denied
  | nameTooLong
  | noSpace
  | other (description : String)
  deriving DecidableEq, Repr

def FileFault.text : FileFault → String
  | .notFound => "No such file or directory (os error 2)"
  | .notText => "stream did not contain valid UTF-8"
  | .isDirectory => "Is a directory (os error 21)"
  | .notADirectory => "Not a directory (os error 20)"
  | .denied => "Permission denied (os error 13)"
  | .nameTooLong => "File name too long (os error 36)"
  | .noSpace => "No space left on device (os error 28)"
  | .other description => description

end TaxReturn
