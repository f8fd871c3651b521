import TaxReturn.Filing.Printed
import TaxReturn.FilingStatus

/-!
The fillable fields of the printed forms of 2023. Statements are not filed and have none.
-/
namespace TaxReturn.Year2023

/-- The full name of a fillable field. -/
def onPage (page : Nat) (field : String) : String :=
  "topmostSubform[0].Page" ++ toString page ++ "[0]." ++ field ++ "[0]"

/-- A text field of page `page`, and the line that goes there. -/
def textOn (page : Nat) (field line : String) : PrintedField := .text (onPage page field) line

/-- One box for each filing status. -/
def statusBoxes : List PrintedField :=
  FilingStatus.all.mapIdx fun i status =>
    .box (onPage 1 ("c1_" ++ toString (i + 1))) "filing_status" status.key

def printedReturn : PrintedForm where
  form := "1040"
  file := "f1040.pdf"
  fields := statusBoxes ++ [
    textOn 1 "f1_04" "first_name",
    textOn 1 "f1_05" "last_name",
    textOn 1 "f1_06" "ssn",
    textOn 1 "f1_07" "spouse_first_name",
    textOn 1 "f1_08" "spouse_last_name",
    textOn 1 "f1_09" "spouse_ssn",
    .button (onPage 1 "c1_6") "virtual_currency",
    textOn 1 "f1_28" "1a",
    textOn 1 "f1_36" "1z",
    textOn 1 "f1_37" "2a",
    textOn 1 "f1_38" "2b",
    textOn 1 "f1_49" "8",
    textOn 1 "f1_50" "9",
    textOn 1 "f1_51" "10",
    textOn 1 "f1_52" "11",
    textOn 1 "f1_53" "12",
    textOn 1 "f1_54" "13",
    textOn 1 "f1_55" "14",
    textOn 1 "f1_56" "15",
    textOn 2 "f2_02" "16",
    textOn 2 "f2_04" "18",
    textOn 2 "f2_05" "19",
    textOn 2 "f2_07" "21",
    textOn 2 "f2_08" "22",
    textOn 2 "f2_09" "23",
    textOn 2 "f2_10" "24",
    textOn 2 "f2_11" "25a",
    textOn 2 "f2_12" "25b",
    textOn 2 "f2_14" "25d",
    textOn 2 "f2_16" "27",
    textOn 2 "f2_21" "32",
    textOn 2 "f2_22" "33",
    textOn 2 "f2_23" "34",
    textOn 2 "f2_24" "35a",
    textOn 2 "f2_25" "35b",
    .box (onPage 2 "c2_5") "35c" "checking",
    .box (onPage 2 "c2_6") "35c" "savings",
    textOn 2 "f2_26" "35d",
    textOn 2 "f2_28" "37",
    textOn 2 "f2_29" "38"]

def printedScheduleOne : PrintedForm where
  form := "1040_s1"
  file := "f1040s1.pdf"
  fields := [
    textOn 1 "f1_03" "1",
    textOn 1 "f1_09" "7",
    textOn 1 "f1_32" "8z",
    textOn 1 "f1_33" "9",
    textOn 1 "f1_34" "10",
    textOn 2 "f2_03" "13",
    textOn 2 "f2_08" "18",
    textOn 2 "f2_09" "19a",
    textOn 2 "f2_10" "19b",
    textOn 2 "f2_29" "24z",
    textOn 2 "f2_30" "25",
    textOn 2 "f2_31" "26"]

def printedScheduleB : PrintedForm where
  form := "1040_sb"
  file := "f1040sb.pdf"
  fields := [
    textOn 1 "f1_31" "2",
    textOn 1 "f1_32" "3",
    textOn 1 "f1_33" "4",
    .button (onPage 1 "c1_1") "7a",
    .button (onPage 1 "c1_3") "8"]

def printedHealthSavings : PrintedForm where
  form := "8889"
  file := "f8889.pdf"
  fields := [
    .choice (onPage 1 "c1_1") "1" [("self_only", "1"), ("family", "2")],
    textOn 1 "f1_04" "2",
    textOn 1 "f1_05" "3",
    textOn 1 "f1_08" "6",
    textOn 1 "f1_09" "7",
    textOn 1 "f1_10" "8",
    textOn 1 "f1_11" "9",
    textOn 1 "f1_13" "11",
    textOn 1 "f1_14" "12",
    textOn 1 "f1_15" "13",
    textOn 1 "f1_16" "14a"]

def printedForms : PrintedForms :=
  ⟨[printedReturn, printedScheduleOne, printedScheduleB, printedHealthSavings]⟩

end TaxReturn.Year2023
