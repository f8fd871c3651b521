import TaxReturn.Text.Split

/-!
What the command says about itself: its version, and a page for each of its subcommands.
-/
namespace TaxReturn.Command

def version : String := "taxes 0.1.0\n"

def usage : String := "Usage: taxes [OPTIONS] <COMMAND>\n"

/-- A page of help. The entries of a section have a name and a description each. -/
structure HelpPage where
  about : String
  usage : String
  sections : List (String × List (String × String))

namespace HelpPage

/-- A section with its descriptions in one column. -/
def sectionText (title : String) (entries : List (String × String)) : String :=
  let width := (entries.map fun e => e.1.length).foldl max 0
  "\n" ++ title ++ ":\n" ++ Text.join "" (entries.map fun e =>
    "  " ++ e.1 ++ "".pushn ' ' (width - e.1.length) ++ "  " ++ e.2 ++ "\n")

def text (page : HelpPage) : String :=
  page.about ++ "\n\n" ++ page.usage ++
    Text.join "" (page.sections.map fun s => sectionText s.1 s.2)

end HelpPage

def verboseHelp : String × String :=
  ("-v, --verbose...", "Enable verbose output. Repeat for more verbosity (-v, -vv, -vvv)")

def yearHelp : String × String :=
  ("    --year <YEAR>", "Tax year of the forms [default: 2023]")

def helpHelp : String × String := ("-h, --help", "Print help")

def commandSummaries : List (String × String) :=
  [("solve", "Solve forms from an input file"),
    ("fill-pdfs", "Emit the PDF fill plan for a solution file"),
    ("list-forms", "List the forms of the tax year"),
    ("list-form-inputs", "List the inputs a form reads"),
    ("help", "Print this message or the help of the given subcommand(s)")]

def topPage : HelpPage where
  about := "The `taxes` command: solve a return from a sectioned input file, " ++
    "prompt for missing inputs, write solutions, and plan PDF fills."
  usage := usage
  sections := [("Commands", commandSummaries),
    ("Options", [verboseHelp, yearHelp, helpHelp, ("-V, --version", "Print version")])]

/-- The page of a subcommand. Options stand in the order in which they are declared, the common ones
among them. -/
def pageOf (subcommand : String) : HelpPage :=
  let about := (commandSummaries.lookup subcommand).getD ""
  match subcommand with
  | "solve" =>
    ⟨about, "Usage: taxes solve [OPTIONS] <INPUT>\n",
      [("Arguments", [("<INPUT>", "Sectioned input file")]),
        ("Options",
          [("    --form <FORMS>",
              "Form to solve, as `<name>` or `<name>:<instance>`. Repeatable [default: 1040]"),
            verboseHelp,
            ("    --prompt-missing", "Ask on the terminal for inputs missing from the file"),
            yearHelp,
            ("    --writeback-input", "Write prompted values back into the input file"),
            ("    --solution <SOLUTION>", "Write the solution here instead of printing it"),
            ("    --json", "Print the solution as JSON"),
            helpHelp])]⟩
  | "fill-pdfs" =>
    ⟨about, "Usage: taxes fill-pdfs [OPTIONS] <SOLUTION>\n",
      [("Arguments", [("<SOLUTION>", "Solution file written by `taxes solve --solution`")]),
        ("Options",
          [("    --out <OUT>", "Write the plan here instead of printing it"),
            verboseHelp, yearHelp, helpHelp])]⟩
  | "list-forms" =>
    ⟨about, "Usage: taxes list-forms [OPTIONS]\n",
      [("Options", [verboseHelp, yearHelp, helpHelp])]⟩
  | "list-form-inputs" =>
    ⟨about, "Usage: taxes list-form-inputs [OPTIONS] <FORM>\n",
      [("Arguments", [("<FORM>", "Form name, e.g. `1040` or `8889`")]),
        ("Options", [verboseHelp, yearHelp, helpHelp])]⟩
  | "help" =>
    ⟨about, "Usage: taxes help [COMMAND]...\n",
      [("Arguments", [("[COMMAND]...", "Print help for the subcommand(s)")])]⟩
  | _ => topPage

/-- The help on a subcommand, or on the command. -/
def help (topic : Option String) : String := (topic.elim topPage pageOf).text

end TaxReturn.Command
