import TaxReturn.Proofs.Solver.Soundness
import TaxReturn.Proofs.Year2023.Demands
import TaxReturn.Proofs.Year2023.Typing

/-! The library of 2023 is closed, well-typed and acyclic, so that a solve over it ends on every
input, and all that can go wrong is an input that cannot be read, a section for a third health
savings account, and an amount out of range. -/
namespace TaxReturn.Year2023

open Solver

variable {s : Solver} {given : Sections} {canAsk : Bool} {calls : List (Call × Reply)}

theorem sound_library : library.Sound fieldRank := ⟨orderly_library, fun _ _ _ _ => rank_of_unmet⟩

/-- The only form that lists its instances is Form 8889. -/
theorem eq_of_fixed {form : Form} {tags : List String} (hf : form ∈ library.forms)
    (hi : form.instancing = .fixed tags) : form.name = "8889" ∧ tags = ["taxpayer", "spouse"] := by
  simp only [library, List.mem_cons, List.not_mem_nil, or_false] at hf
  rcases hf with rfl | rfl | rfl | rfl | rfl | rfl | rfl
  case inr.inr.inr.inl =>
    cases hi
    exact ⟨rfl, rfl⟩
  all_goals cases hi

/-- Whatever is given, whatever was asked for before and whoever answers, a solve over the library
of 2023 ends. It fails only at an input that cannot be read, at a section of Form 8889 for somebody
else than the taxpayer and the spouse, or at an amount that is out of range. -/
theorem solve_closed {σ : Type}
    (h : Session (initial library (.ofSections given) canAsk) calls s)
    (ask : Question → StateM σ (Option String)) (w : σ) :
    (∃ n, ∀ u, ((s.solve ask n).run w).1 ≠ .unfinished u) ∧
    ∀ n e t, ((s.solve ask n).run w).1 = .failed e t →
      (∃ input raw fault, e = .invalidInput input raw fault) ∨
      (∃ what, e = .overflow what) ∨
      ∃ tag, "8889:" ++ tag ∈ given.names ∧ tag ∉ ["taxpayer", "spouse"] ∧
        e = .invalidInstance "8889" (some tag) (.unlisted ["taxpayer", "spouse"]) := by
  obtain ⟨hends, hfails⟩ := h.solve_ends sound_library ask w
  refine ⟨hends, fun n e t he => ?_⟩
  cases hfails n e t he with
  | unreadable => exact .inl ⟨_, _, _, rfl⟩
  | overflow => exact .inr (.inl ⟨_, rfl⟩)
  | @unlisted form tag tags hf hi ht hs =>
    obtain ⟨hname, rfl⟩ := eq_of_fixed hf hi
    refine .inr (.inr ⟨tag, ?_, ht, by rw [hname]⟩)
    rw [hname] at hs
    exact hs

/-- A health savings account of somebody else than the taxpayer and the spouse. -/
def thirdAccount : Sections := Sections.empty.touch "8889:child"

/-- What a solve without an answer fails with. -/
def failure? (moves : ℕ) (s : Solver) : Option TaxError :=
  match ((s.solve (m := StateM Unit) (fun _ => pure none) moves).run ()).1 with
  | .failed e _ => some e
  | _ => none

theorem exists_failed {moves : ℕ} {e : TaxError} (h : failure? moves s = some e) :
    ∃ t, ((s.solve (m := StateM Unit) (fun _ => pure none) moves).run ()).1 = .failed e t := by
  unfold failure? at h
  split at h
  · rename_i t he
    cases h
    exact ⟨t, he⟩
  · cases h

/-- Schedule 1 counts the account, and there is no such instance. -/
theorem solve_closed_thirdAccount : ∃ s,
    Session (initial library (.ofSections thirdAccount) false) [(.addForm "1040_s1", .added)] s ∧
    (∃ n, ∀ u, ((s.solve (m := StateM Unit) (fun _ => pure none) n).run ()).1 ≠ .unfinished u) ∧
    ∃ n t, ((s.solve (m := StateM Unit) (fun _ => pure none) n).run ()).1 =
        .failed (.invalidInstance "8889" (some "child") (.unlisted ["taxpayer", "spouse"])) t ∧
      ∃ tag, "8889:" ++ tag ∈ thirdAccount.names ∧ tag ∉ ["taxpayer", "spouse"] ∧ tag = "child" := by
  obtain ⟨s, hs, hf⟩ := exists_session (initial library (.ofSections thirdAccount) false)
    (fun _ => none) 60 [(.addForm "1040_s1", .added)] (failure? 60)
    (some (.invalidInstance "8889" (some "child") (.unlisted ["taxpayer", "spouse"])))
    (by decide +kernel)
  obtain ⟨hends, hfails⟩ := solve_closed hs (fun _ => pure none) ()
  obtain ⟨t, ht⟩ := exists_failed hf
  refine ⟨s, hs, hends, 60, t, ht, ?_⟩
  rcases hfails 60 _ t ht with ⟨_, _, _, he⟩ | ⟨_, he⟩ | ⟨tag, hm, htag, he⟩
  · cases he
  · cases he
  · cases he
    exact ⟨_, hm, htag, rfl⟩

end TaxReturn.Year2023
