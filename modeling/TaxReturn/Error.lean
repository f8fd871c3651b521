import TaxReturn.Fault

/-!
The errors that end a solve or refuse a request, each by its cause, and their wording.
-/
namespace TaxReturn

inductive TaxError where
  | unknownForm (name : String)
  | invalidInstance (form : String) (tag : Option String) (fault : InstanceFault)
  | missingInputSpec (name : String)
  | invalidInput (name raw : String) (fault : ValueFault)
  /-- The wording of `expected` and `found` is that of kinds and of value types. -/
  | wrongType (field expected found : String)
  | overflow (what : String)
  | duplicateName (what : String)
  | unknownField (name reader : String)
  | cyclicDependency (chain : List String)
  | invalidName (name : String) (fault : NameFault)
  | badLine (line : Nat) (fault : LineFault)
  | undecodable (name raw : String) (fault : ValueFault)
  | file (fault : FileFault)
  deriving DecidableEq, Repr

def TaxError.message : TaxError → String
  | .unknownForm name => "unknown form: " ++ name
  | .invalidInstance form tag fault =>
    "form " ++ form ++ " does not accept instance " ++ Text.quoteOption tag ++ ": " ++ fault.text
  | .missingInputSpec name => "no input specification registered for " ++ name
  | .invalidInput name raw fault =>
    "invalid value " ++ Text.quote raw ++ " for input " ++ name ++ ": " ++ fault.text
  | .wrongType field expected found =>
    "field " ++ field ++ " returned " ++ found ++ ", expected " ++ expected
  | .overflow what => "arithmetic overflow computing " ++ what
  | .duplicateName what => "duplicate name during form instantiation: " ++ what
  | .unknownField name reader => "field " ++ reader ++ " references unknown field " ++ name
  | .cyclicDependency chain => "cyclic dependency: " ++ Text.join " -> " chain
  | .invalidName name fault => "invalid name " ++ Text.quote name ++ ": " ++ fault.text
  | .badLine line fault => "line " ++ toString line ++ ": " ++ fault.text
  | .undecodable name raw fault =>
    "cannot decode " ++ Text.quote raw ++ " for " ++ name ++ ": " ++ fault.text
  | .file fault => "io error: " ++ fault.text

/-- Why the evaluation of a field stops without a value. -/
inductive Signal where
  /-- A field that has no value yet is needed. -/
  | unmet (name : String)
  /-- An input that is not given is needed. -/
  | missingInput (name : String)
  /-- The return needs something that the form does not compute. -/
  | notImplemented (detail : Option String)
  | fatal (error : TaxError)
  deriving DecidableEq, Repr

end TaxReturn
