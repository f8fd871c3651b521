import TaxReturn.Pattern.Basic
import TaxReturn.Text.Property.Binary

/-!
The sets of characters that patterns have letters for: digits, blanks and word characters, of all
scripts or of ASCII alone.
-/
namespace TaxReturn.Pattern

def digitSet : Text.CharSet := Text.Property.categories.named "Nd"

def blankSet : Text.CharSet := Text.Property.listed.named "White_Space"

def wordSet : Text.CharSet := Text.Property.wordRule.set

def asciiDigitSet : Text.CharSet := .range '0' '9'

def asciiBlankSet : Text.CharSet := .ofText ["9-d 20"]

def asciiWordSet : Text.CharSet := .ofText ["30-39 41-5a 5f 61-7a"]

end TaxReturn.Pattern
