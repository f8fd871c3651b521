import TaxReturn.Proofs.Codec
import TaxReturn.Proofs.Solver.Exactness
import TaxReturn.Proofs.Solver.Unprompted

/-! What is read from a solution, against what was committed when it was written. Over any library,
and whatever calls were made and however they ended, every field is read as its kind reads what it
writes. So text loses the blanks around it, which a field of text keeps when it is computed. -/
namespace TaxReturn

namespace Library

variable {library : Library} {q base raw : String} {name : FormName} {form : Form} {field : Field}
  {v : Value}

/-- A field of a form is read as its kind says. -/
theorem decodeField_eq_ok (hi : library.instantiate q = .ok (name, form))
    (hb : form.field? base = some field) {p : String × Value} :
    library.decodeField q base raw = .ok p ↔
      p.1 = q ++ "." ++ base ∧ field.kind.decode raw = .ok p.2 := by
  obtain ⟨n, v⟩ := p
  simp only [decodeField, Library.field?_of_instantiate hi, hb, Field.decode]
  cases field.kind.decode raw <;> simp [Except.map, eq_comm]

end Library

namespace Solver

variable {s t : Solver} {p p' : Point} {q base : String} {field : Field} {v : Value}
  {library : Library} {inputs : InputStore} {known : Name.Table InputSpec} {canAsk : Bool}
  {calls : List (Call × Reply)} {sol : Solution}

/-- A solve that ends with an error has committed nothing with it. -/
theorem values_fails {e : TaxError} (hf : Fails p e t) : t.values = p.solver.values := by
  cases hf with
  | missed hv hy hd =>
    obtain ⟨new, hg⟩ := (misses_of_discover hd).grows
    exact hg.values
  | cyclic hv hy hd hp =>
    obtain ⟨new, hg, -⟩ := hd.grows
    exact hg.values
  | _ => rfl

/-- What is committed is what some evaluation of the field came to. -/
def Evaluated (library : Library) (s : Solver) : Prop :=
  ∀ f v, s.values.get? f = some v → ∃ inputs values, library.Evaluates inputs values f (.ok v)

theorem evaluated_step (hr : Registered library known p.solver) (h : Evaluated library p.solver)
    (hs : Step p p') : Evaluated library p'.solver := by
  intro f v hv
  rcases get?_step hs hv with hv | ⟨-, hy⟩
  · exact h f v hv
  · exact ⟨_, _, hr.evaluates hy⟩

theorem Evaluated.congr (h : Evaluated library s) (hv : t.values = s.values) :
    Evaluated library t :=
  fun f v ht => h f v (hv ▸ ht)

theorem Session.evaluated (h : Session (initial library inputs canAsk) calls s) :
    Evaluated library s := by
  obtain ⟨lost, ⟨-, hs⟩, -⟩ := h.induction
    (I := fun p => Registered library inputs.specs p.solver ∧ Evaluated library p.solver)
    ⟨registered_initial, by simp [Evaluated, initial, ValueStore.get?, ValueStore.empty]⟩
    (fun s t q lost _ hs ha => by
      obtain ⟨new, hg⟩ := addForm_grows ha
      exact ⟨registered_addForm hs.1 ha, hs.2.congr hg.values⟩)
    (fun _ _ hp hs => ⟨registered_step hp.1 hs, evaluated_step hp.1 hp.2 hs⟩)
    (fun _ _ hs _ => ⟨hs.1.same ⟨rfl, rfl, rfl, rfl, rfl, rfl⟩, hs.2⟩)
    (.inr fun _ _ _ hp hf => ⟨registered_fails hp.1 hf, hp.2.congr (values_fails hf)⟩)
  exact hs

/-- What is committed for a field is kept in its kind, and it is this field that reads it. -/
theorem Registered.kept (h : Registered library known s) (he : Evaluated library s)
    (hv : s.values.get? (q ++ "." ++ base) = some v)
    (hfield : s.field? (q ++ "." ++ base) = some (q, field)) :
    '.' ∉ q.toList ∧ (∃ w, field.kind.canonicalize w = .ok v) ∧
      ∀ raw p, library.decodeField q base raw = .ok p ↔
        p.1 = q ++ "." ++ base ∧ field.kind.decode raw = .ok p.2 := by
  obtain ⟨base', form, hsplit, hq, hb⟩ := h.field?_eq_some_iff.mp hfield
  obtain ⟨name, hi⟩ := h.instantiated q form hq
  have hpoint := FormName.point_notMem_of_parse (Library.instantiate_eq_ok hi).1
  obtain rfl : base = base' := by
    rw [Name.split_scoped hpoint] at hsplit
    cases hsplit
    rfl
  obtain ⟨inputs, values, he⟩ := he _ v hv
  obtain ⟨w, -, hw⟩ := Field.evaluate_eq_ok.mp ((Library.evaluates_iff hsplit hi hb).mp he)
  exact ⟨hpoint, ⟨w, hw⟩, fun raw p => Library.decodeField_eq_ok hi hb⟩

/-- Whether every choice that is committed can be read from what its field writes. -/
def ReadsChoices (s : Solver) : Prop :=
  ∀ f key q field, s.values.get? f = some (.choice (some key)) → s.field? f = some (q, field) →
    field.kind.ReadsKey key

/-- A solution can be read if the choices in it can. What is read are the values that are committed,
each as its field reads what it writes, and no others. -/
theorem Registered.read_back (h : Registered library known s) (he : Evaluated library s)
    (hsol : Encodes s sol) :
    ((∃ values, library.decode sol = .ok values) ↔ s.ReadsChoices) ∧
      ∀ values, library.decode sol = .ok values → ∀ f w, values.get? f = some w ↔
        ∃ v q field, s.values.get? f = some v ∧ s.field? f = some (q, field) ∧
          field.kind.decode (field.kind.encode v) = .ok w := by
  have hpoint : ∀ q base raw, sol.get? q base = some raw → '.' ∉ q.toList := by
    intro q base raw hg
    obtain ⟨v, field, hv, hfield, -⟩ := (hsol.entries q base raw).mp hg
    exact (h.kept he hv hfield).1
  have hscoped : ∀ f q field, s.field? f = some (q, field) → ∃ base, f = q ++ "." ++ base := by
    intro f q field hfield
    obtain ⟨base, -, hsplit, -⟩ := h.field?_eq_some_iff.mp hfield
    exact ⟨base, (Name.split_eq_some_iff.mp hsplit).1⟩
  refine ⟨⟨?_, fun hchoices => ?_⟩, fun values hvalues f w => ?_⟩
  · rintro ⟨values, hvalues⟩ f key q field hv hfield
    obtain ⟨base, rfl⟩ := hscoped f q field hfield
    obtain ⟨-, ⟨w, hw⟩, hread⟩ := h.kept he hv hfield
    obtain ⟨p, hp⟩ := Library.exists_decodeField hvalues
      ((hsol.entries q base _).mpr ⟨_, field, hv, hfield, rfl⟩)
    exact (ValueKind.exists_decode_encode_iff hw).mp ⟨_, ((hread _ p).mp hp).2⟩ key rfl
  · obtain ⟨values, hvalues, -⟩ := Library.exists_decode hpoint fun q base raw hg => by
      obtain ⟨v, field, hv, hfield, rfl⟩ := (hsol.entries q base raw).mp hg
      obtain ⟨-, ⟨w, hw⟩, hread⟩ := h.kept he hv hfield
      obtain ⟨v', hv'⟩ := (ValueKind.exists_decode_encode_iff hw).mpr fun key hkey =>
        hchoices _ key q field (hkey ▸ hv) hfield
      exact ⟨(_, v'), (hread _ _).mpr ⟨rfl, hv'⟩⟩
    exact ⟨values, hvalues⟩
  · obtain ⟨values', hvalues', hget⟩ := Library.exists_decode hpoint
      fun q base raw hg => Library.exists_decodeField hvalues hg
    rw [hvalues] at hvalues'
    cases hvalues'
    rw [hget]
    constructor
    · rintro ⟨q, base, raw, hg, hd⟩
      obtain ⟨v, field, hv, hfield, rfl⟩ := (hsol.entries q base raw).mp hg
      obtain ⟨rfl, hw⟩ := ((h.kept he hv hfield).2.2 _ _).mp hd
      exact ⟨v, q, field, hv, hfield, hw⟩
    · rintro ⟨v, q, field, hv, hfield, hw⟩
      obtain ⟨base, rfl⟩ := hscoped f q field hfield
      exact ⟨q, base, _, (hsol.entries q base _).mpr ⟨v, field, hv, hfield, rfl⟩,
        ((h.kept he hv hfield).2.2 _ _).mpr ⟨rfl, hw⟩⟩

/-- What is computed for a field of text is kept with the blanks around it, and it is read without
them from what the field writes. So what is read from a solution, whatever is computed and whatever
calls were made, is the text that is committed if there are no blanks around it, and not otherwise.
-/
theorem text_trimmed (h : Session (initial library inputs canAsk) calls s) :
    (∀ (kind : ValueKind) (v w : Value), kind.isText = true → kind.canonicalize v = .ok w →
      kind.decode (kind.encode w) = .ok w.trimmed ∧
        (kind.decode (kind.encode w) = .ok w ↔ w.trimmed = w)) ∧
    ∃ sol, s.solution = .ok sol ∧
      ((∃ values, library.decode sol = .ok values) ↔ s.ReadsChoices) ∧
      ∀ values, library.decode sol = .ok values → ∀ f t, s.values.get? f = some (.text t) →
        values.get? f = some (.text (Text.trim t)) ∧
        (values.get? f = some (.text t) ↔ Text.trim t = t) := by
  constructor
  · intro kind v w hk hw
    rw [ValueKind.decode_encode_text hk hw]
    simp
  obtain ⟨lost, hs⟩ := h.indexed
  obtain ⟨sol, hsol, hencodes⟩ := hs.registered.exists_solution fun f hf =>
    hs.registered.attempted f (hs.balanced.attempted_of_has hf)
  obtain ⟨hchoices, hread⟩ := hs.registered.read_back h.evaluated hencodes
  refine ⟨sol, hsol, hchoices, fun values hvalues f t ht => ?_⟩
  obtain ⟨q, base, -, field, hfield, hsplit, -⟩ := hs.registered.exists_field hs.balanced ht
  obtain ⟨rfl, -⟩ := Name.split_eq_some_iff.mp hsplit
  obtain ⟨-, ⟨v, hv⟩, -⟩ := hs.registered.kept h.evaluated ht hfield
  have hk : field.kind.isText = true := by
    have hholds := ValueKind.holds_of_canonicalize hv
    cases hkind : field.kind <;> rw [hkind] at hholds <;> cases hholds <;> rfl
  have htrim := (hread values hvalues _ _).mpr
    ⟨_, q, field, ht, hfield, ValueKind.decode_encode_text hk hv⟩
  exact ⟨htrim, by rw [htrim]; simp [Value.trimmed]⟩

/-- A form of one field, a text with a blank before and after it. -/
def padded : Form where
  name := "a"
  required := [⟨"1", .text, pure (.text " a ")⟩]

def paddedText : Library where
  year := 2023
  forms := [padded]

/-- It is committed with its blanks, and read from the solution without them. -/
theorem text_trimmed_padded : ∃ s sol values,
    Session (initial paddedText (.ofSections .empty) false)
      [(.addForm "a", .added), (.solve, .returned true)] s ∧
    s.values.get? "a.1" = some (.text " a ") ∧ s.solution = .ok sol ∧
    paddedText.decode sol = .ok values ∧ values.get? "a.1" = some (.text "a") := by
  obtain ⟨s, hs, hlook⟩ := exists_session (initial paddedText (.ofSections .empty) false)
    (fun _ => none) 20 [(.addForm "a", .added), (.solve, .returned true)]
    (fun s => s.values.toList) [("a.1", .text " a ")] (by decide +kernel)
  have hmem : ∀ n v, s.values.get? n = some v ↔ (n, v) = ("a.1", .text " a ") := by
    intro n v
    have htable : (n, v) ∈ s.values.toList ↔ s.values.get? n = some v :=
      Std.ExtTreeMap.mem_toList_iff_getElem?_eq_some
    rw [← htable, hlook, List.mem_singleton]
  have hcommitted := (hmem _ _).mpr rfl
  obtain ⟨-, sol, hsol, hchoices, hread⟩ := text_trimmed hs
  obtain ⟨values, hvalues⟩ := hchoices.mpr fun f key q field hv => by cases (hmem _ _).mp hv
  obtain ⟨hget, -⟩ := hread values hvalues _ _ hcommitted
  have htrim : Text.trim " a " = "a" := by decide
  exact ⟨s, sol, values, hs, hcommitted, hsol, hvalues, htrim ▸ hget⟩

/-- So a field of text does not read what it has kept. -/
theorem not_read_back_padded :
    ValueKind.text.canonicalize (.text " a ") = .ok (.text " a ") ∧
    ValueKind.text.decode (ValueKind.text.encode (.text " a ")) = .ok (.text "a") ∧
    ValueKind.text.decode (ValueKind.text.encode (.text " a ")) ≠ .ok (.text " a ") := by
  decide

end Solver
end TaxReturn
