import TaxReturn.Proofs.Canonical
import TaxReturn.Proofs.Solver.Written

/-! What is committed, wherever a solve has come to. It is what some evaluation of its field came
to, and so there is nothing left to change of it: the field would keep it again as it stands. -/
namespace TaxReturn.Solver

variable {s : Solver} {m : Move} {f : String} {v : Value} {library : Library}
  {known : Name.Table InputSpec}

/-- A solve commits what its fields are evaluated to, wherever it has come to. -/
theorem evaluated_of_leads (hr : Registered library known s) (h : Evaluated library s)
    (hl : Leads (.next ⟨s, .round⟩) m) : Evaluated library m.solver := by
  have hsteps : ∀ p, Steps ⟨s, [], none⟩ p →
      Registered library known p.solver ∧ Evaluated library p.solver := fun p hs =>
    hs.preserves (I := fun p => Registered library known p.solver ∧ Evaluated library p.solver)
      (fun _ _ hp hs => ⟨registered_step hp.1 hs, evaluated_step hp.1 hp.2 hs⟩) ⟨hr, h⟩
  cases from_round s [] hl with
  | next hf hs => exact (hsteps _ hs).2
  | ask hf hq hs => exact (hsteps _ hs).2
  | finished hs hw => exact (hsteps _ hs).2
  | failed he =>
    obtain ⟨p', hs, hf⟩ := he
    exact (hsteps _ hs).2.congr (values_fails hf)

/-- The field of a value that is committed would keep it again. -/
theorem Indexed.exists_canonical {hand : List String} (h : Indexed library known ⟨s, hand, none⟩)
    (he : Evaluated library s) (hv : s.values.get? f = some v) :
    ∃ q field, s.field? f = some (q, field) ∧ field.kind.Canonical v := by
  obtain ⟨q, base, -, field, hfield, hsplit, -⟩ := h.registered.exists_field h.balanced hv
  obtain ⟨rfl, -⟩ := Name.split_eq_some_iff.mp hsplit
  obtain ⟨-, ⟨w, hw⟩, -⟩ := h.registered.kept he hv hfield
  exact ⟨q, field, hfield, ValueKind.canonical_of_canonicalize hw⟩

/-- Whatever a kind keeps it would keep again, with the same text written for it. What is kept is
not nothing and of the type of the kind, and what is blank is kept as the empty value of the kind.
So whatever the library and whatever calls were made and however they ended, wherever the next
solve has come to, every value that is committed is one that its field would keep again, and every
choice that is committed is none or one of the keys of its field. -/
theorem committed_canonical :
    (∀ (kind : ValueKind) (v : Value),
      (∀ w, kind.canonicalize v = .ok w → kind.Canonical w) ∧
      ((v = .empty ∨ ∃ t, v = .text t ∧ ∀ c ∈ t.toList, Text.isBlank c = true) →
        kind.canonicalize v = .ok kind.empty)) ∧
    ∀ (library : Library) (inputs : InputStore) (canAsk : Bool) (calls : List (Call × Reply))
      (s : Solver) (m : Move), Session (initial library inputs canAsk) calls s →
      Leads (.next ⟨s, .round⟩) m → ∀ f v, m.solver.values.get? f = some v →
      ∃ q field, m.solver.field? f = some (q, field) ∧ field.kind.Canonical v := by
  constructor
  · intro kind v
    refine ⟨fun w hw => ValueKind.canonical_of_canonicalize hw, fun hv => ?_⟩
    exact (ValueKind.Keeps.blank (Value.isBlank_iff.mpr hv)).canonicalize
  · intro library inputs canAsk calls s m h hl f v hv
    obtain ⟨lost, hs⟩ := h.indexed
    obtain ⟨hand, hm, -⟩ := indexed_of_leads hs hl
    exact hm.exists_canonical (evaluated_of_leads hs.registered h.evaluated hl) hv

/-- A form with an amount that has to be rounded, a blank text and a choice that there is not. -/
def unsettled : Form where
  name := "a"
  required := [⟨"1", .decimal 2, pure (.number ⟨true, 4, 3, by decide⟩)⟩,
    ⟨"2", .text, pure (.text " ")⟩, ⟨"3", .enumeration ["x"], pure (.choice (some "y"))⟩]

def unsettledValues : Library where
  year := 2023
  forms := [unsettled]

/-- The solve fails at the choice. By then the amount is rounded to nothing, without a sign, and the
text is empty. -/
theorem committed_canonical_unsettled : ∃ s q field,
    Session (initial unsettledValues (.ofSections .empty) false) [(.addForm "a", .added),
      (.solve, .failed (.wrongType "a.3" "enum(x)" (Mismatch.text (.unknownKey "y"))))] s ∧
    s.values.toList = [("a.1", .number (.cents 0)), ("a.2", .text "")] ∧
    s.field? "a.1" = some (q, field) ∧ field.kind.Canonical (.number (.cents 0)) := by
  obtain ⟨s, hs, hlook⟩ := exists_session (initial unsettledValues (.ofSections .empty) false)
    (fun _ => none) 20 [(.addForm "a", .added),
      (.solve, .failed (.wrongType "a.3" "enum(x)" (Mismatch.text (.unknownKey "y"))))]
    (fun s => s.values.toList) [("a.1", .number (.cents 0)), ("a.2", .text "")] (by decide +kernel)
  have hcommitted : s.values.get? "a.1" = some (.number (.cents 0)) := by
    apply Std.ExtTreeMap.mem_toList_iff_getElem?_eq_some.mp
    change _ ∈ s.values.toList
    rw [hlook]
    exact List.mem_cons_self
  obtain ⟨q, field, hfield, hcanonical⟩ :=
    committed_canonical.2 _ _ _ _ s _ hs .refl "a.1" _ hcommitted
  exact ⟨s, q, field, hs, hlook, hfield, hcanonical⟩

end TaxReturn.Solver
