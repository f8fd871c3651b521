import TaxReturn.Proofs.Solver.Chains
import TaxReturn.Proofs.Solver.LeastPair

/-! A finished solve explains itself. What it reports of a field is what the evaluation of the field
comes to over the final stores, and the reported waits lead from every field that is not committed
to a reason that lies outside of the fields. -/
namespace TaxReturn.Solver

open Relation

variable {s : Solver} {f d : String} {library : Library} {inputs : InputStore}
  {requests : List String} {calls : List (Call × Reply)}

/-- A reported wait leads from a field to the name it is listed under. -/
def Reported (s : Solver) (f d : String) : Prop := s.fieldWaits.Lists d f

namespace Final

variable (hstable : library.Stable) (h : Final library inputs requests s)

include hstable h

omit hstable in
/-- Nothing is met at the end, so all who wait are listed. -/
theorem lists_iff : (s.fieldWaits.Lists d f ↔ f ∈ s.fieldWaits.waiters d) ∧
    (s.inputWaits.Lists d f ↔ f ∈ s.inputWaits.waiters d) := by
  obtain ⟨-, hf, hi, -⟩ := hasWork_eq_false h.hasWork
  simp [Waitlist.lists_iff, hf, hi]

end Final

/-- A return of a total that carries a copy of an input, and of a line that is left out. -/
def copiedAmount : Library where
  year := 2023
  forms := [{
    name := "a"
    inputs := [⟨"x", .float, "An amount"⟩]
    required := [Line.carry "1" "a.2", Line.money "3" (Compute.unsupported "line 3")]
    optional := [Line.echoMoney "2" "x"] }]

theorem lacksAbsent_copiedAmount : copiedAmount.LacksAbsent := by
  simp only [Library.LacksAbsent, copiedAmount, Form.fields, List.forall_mem_cons,
    List.cons_append, List.nil_append]
  exact ⟨⟨Line.heeds_carry.lacksAbsent, (Line.heeds_money Compute.heeds_unsupported).lacksAbsent,
    Line.heeds_echo.lacksAbsent, by simp⟩, by simp⟩

end TaxReturn.Solver
