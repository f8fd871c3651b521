import TaxReturn.Proofs.Terminal
import TaxReturn.Proofs.Solver.Supplied
import TaxReturn.Proofs.Year2023.Closed
import TaxReturn.Proofs.Year2023.Recovered

/-! Inputs of 2023 that are asked for at a terminal and written back to their file. What is read
from it is what was given, with one entry more for each answer, and no session over it asks for an
answer again or cannot read it. -/
namespace TaxReturn.Year2023

open Solver

variable {s s₀ : Solver} {p p' : Point} {n raw : String} {v : Value} {spec : InputSpec}
  {inputs : InputStore} {given : Sections} {canAsk : Bool} {calls : List (Call × Reply)}

/-- The inputs have names that can be written as they are. -/
theorem plain_inputs : ∀ form ∈ library.forms, ∀ input ∈ form.inputs,
    Sections.PlainKey input.name := by decide

theorem plain_of_inputSpec? {sec key : String} (hspec : library.inputSpec? n = some spec)
    (hs : Name.split n = some (sec, key)) :
    (sec ≠ "" ∧ OneLine sec) ∧ Sections.PlainKey key := by
  obtain ⟨q, base, name, form, hs', hi, hm, rfl⟩ := Library.exists_input hspec
  rw [hs] at hs'
  cases hs'
  obtain ⟨hne, hblank⟩ := FormName.unblank_of_parse (Library.instantiate_eq_ok hi).1
  exact ⟨⟨hne, .of_unblank hblank⟩, plain_inputs form (Library.mem_forms_of_instantiate hi) spec hm⟩

theorem lacksAbsent_library : library.LacksAbsent := by
  intro form hform field hfield
  obtain ⟨r, hr, -⟩ := wellRead_library form hform field hfield
  exact hr.lacksAbsent

/-- The choices that go by the name of an input of their form, each with the form. -/
def namedChoices : List (Form × Field) :=
  library.forms.flatMap fun form => (form.fields.filter fun field =>
    field.kind.isChoice && form.inputs.any (·.name == field.name)).map (form, ·)

/-- The copy of the input that gives the filing status. -/
def statusField : Field :=
  Line.echo "filing_status" (.enumeration (FilingStatus.all.map FilingStatus.key)) "filing_status"

theorem namedChoices_eq : namedChoices = [(individualReturn, statusField)] := rfl

theorem eq_of_named_choice {form : Form} {field : Field} (hform : form ∈ library.forms)
    (hfield : field ∈ form.fields) (hk : field.kind.isChoice) (hm : spec ∈ form.inputs)
    (hn : spec.name = field.name) : form = individualReturn ∧ field = statusField := by
  have hsame : form.inputs.any (·.name == field.name) :=
    List.any_eq_true.mpr ⟨spec, hm, beq_iff_eq.mpr hn⟩
  have hmem : (form, field) ∈ namedChoices := by
    refine List.mem_flatMap.mpr ⟨form, hform, ?_⟩
    exact List.mem_map.mpr ⟨field, List.mem_filter.mpr ⟨hfield, by simp [hk, hsame]⟩, rfl⟩
  rw [namedChoices_eq, List.mem_singleton] at hmem
  exact Prod.mk.inj hmem

theorem statusInputs_eq : individualReturn.inputs.filter (·.name == "filing_status") =
    [⟨"filing_status", .enumeration FilingStatus.options false, "Filing status"⟩] := rfl

/-- A status that is read is one that was made. -/
theorem canonicalize_status {w : Value} (hm : spec ∈ individualReturn.inputs)
    (hn : spec.name = "filing_status") (hp : spec.parse raw = .ok w) :
    statusField.kind.canonicalize w ≠ .ok (.choice none) := by
  have hspec : spec ∈ individualReturn.inputs.filter (·.name == "filing_status") :=
    List.mem_filter.mpr ⟨hm, by simp [hn]⟩
  rw [statusInputs_eq, List.mem_singleton] at hspec
  subst hspec
  intro hk
  cases InputSpec.readsAs_of_parse hp with
  | key he hm =>
    cases ValueKind.keeps_of_canonicalize hk with
    | blank hb => cases hb

/-- A value that is committed under the name of an input is no choice that was not made: the only
choice of such a name is the filing status, which may not be left blank. -/
theorem Standing.chosen (h : Standing inputs p) (hspec : library.inputSpec? n = some spec) :
    p.solver.values.get? n ≠ some (.choice none) := by
  intro hv
  obtain ⟨q, base, form, field, -, hs, hq, hb⟩ := h.exists_field hv
  obtain ⟨name, hi⟩ := h.registered.instantiated q form hq
  obtain ⟨hfield, rfl⟩ := name_of_field? hb
  obtain ⟨q', key, name', form', hs', hi', hm, hname⟩ := Library.exists_input hspec
  rw [hs] at hs'
  cases hs'
  rw [hi] at hi'
  cases hi'
  obtain ⟨inputs', values', he, hknows, -⟩ := h.traces.committed n _ hv
  have hknown := hknows q field.name hs _ _ _ hs hspec
  obtain ⟨w, hw, hk⟩ := Field.evaluate_eq_ok.mp ((Library.evaluates_iff hs hi hb).mp he)
  have hchoice : field.kind.isChoice := by
    have hholds := ValueKind.holds_of_canonicalize hk
    cases hkind : field.kind <;> simp [hkind, ValueKind.holds, ValueKind.isChoice] at hholds ⊢
  obtain ⟨rfl, rfl⟩ :=
    eq_of_named_choice (Library.mem_forms_of_instantiate hi) hfield hchoice hm hname
  have hqualified : Name.scopeTo q "filing_status" = n := by
    rw [Name.scopeTo_of_split_none (by decide)]
    exact (Name.split_eq_some_iff.mp hs).1.symm
  change inputs'.parse (Name.scopeTo q "filing_status") = .ok w at hw
  rw [hqualified] at hw
  obtain ⟨spec', raw, hspec', -, hp⟩ := InputStore.parse_eq_ok.mp hw
  rw [hknown] at hspec'
  cases hspec'
  exact canonicalize_status hm hname hp hk

/-- What holds throughout a session over given inputs, of which one is looked at. -/
structure Served (given : Sections) (n raw : String) (p : Point) : Prop
    extends Standing (.ofSections given) p where
  supplied : Supplied library given fieldRank n raw p.solver

theorem served_steps (h : Served given n raw p) (hs : Steps p p') : Served given n raw p' :=
  hs.preserves (I := Served given n raw) (fun _ _ hp hs =>
    ⟨standing_step hp.toStanding hs, hp.supplied.step sound_library lacksAbsent_library hs⟩) h

/-- Over inputs that are given, none is reported missing, and none is reported invalid that can be
read. -/
theorem served_session (h : Session (initial library (.ofSections given) canAsk) calls s)
    (hspec : library.inputSpec? n = some spec) (hv : spec.parse raw = .ok v)
    (hraw : (InputStore.ofSections given).raw? n = some raw) :
    (∃ lost, Served given n raw ⟨s, lost, none⟩) ∧
      ∀ c ∈ calls, ∀ raw' fault, c.2 ≠ .failed (.invalidInput n raw' fault) := by
  have hserved : ∀ {calls s}, Session (initial library (.ofSections given) canAsk) calls s →
      ∃ lost, Served given n raw ⟨s, lost, none⟩ := by
    intro calls s h
    obtain ⟨lost, hs⟩ := standing_session h
    exact ⟨lost, hs, h.supplied sound_library lacksAbsent_library hraw⟩
  refine ⟨hserved h, ?_⟩
  induction h with
  | start => simp
  | call h hr ih =>
    intro c hc raw' fault he
    rcases List.mem_append.mp hc with hc | hc
    · exact ih c hc raw' fault he
    rw [List.mem_singleton] at hc
    subst hc
    cases hr with
    | added => cases he
    | returned => cases he
    | refused ha =>
      cases he
      cases aboutNames_of_addForm ha
    | failed hr =>
      cases he
      obtain ⟨lost, hs⟩ := hserved h
      obtain ⟨p, hsteps, hf⟩ := exists_fails_of_failed hr lost
      have hp := served_steps hs hsteps
      exact hp.supplied.not_invalid sound_library hspec hv (hp.chosen hspec) hf

/-- Over inputs that are given, an input is read as a value wherever it can be read at all, and it
is reported neither as missing nor as invalid. -/
def Provided (inputs : InputStore) (n : String) (v : Value) : Prop :=
  ∀ canAsk calls u, Session (initial library inputs canAsk) calls u →
    (n ∈ u.inputSpecs → u.inputs.parse n = .ok v) ∧ n ∉ u.inputWaits.unmetNames ∧
      ∀ c ∈ calls, ∀ raw fault, c.2 ≠ .failed (.invalidInput n raw fault)

theorem provided_of_raw? (hspec : library.inputSpec? n = some spec) (hv : spec.parse raw = .ok v)
    (hraw : (InputStore.ofSections given).raw? n = some raw) :
    Provided (.ofSections given) n v := by
  intro canAsk calls u h
  obtain ⟨⟨lost, hs⟩, hvalid⟩ := served_session h hspec hv hraw
  refine ⟨fun hn => hs.supplied.parse hspec hv ?_, hs.supplied.notMem_unmetNames, hvalid⟩
  obtain ⟨spec', hspec'⟩ := Name.mem_iff_getElem?.mp hn
  simp [InputStore.spec?, hs.supplied.registered.spec, hspec']

/-- What is given now is what was given, with one entry for each answer, in a place that was free.
An answer is read as the value that it was accepted as. -/
structure Restored (inputs now : InputStore) (seen : List (Question × Option String)) : Prop where
  once : (seen.map (·.1.name)).Nodup
  entries : ∀ q key raw, now.given.get? q key = some raw ↔ inputs.given.get? q key = some raw ∨
    ∃ question, (question, some raw) ∈ seen ∧ Name.split question.name = some (q, key)
  sections : ∀ q, q ∈ now.given.names ↔ q ∈ inputs.given.names ∨
    ∃ question raw key, (question, some raw) ∈ seen ∧ Name.split question.name = some (q, key)
  answers : ∀ question raw, (question, some raw) ∈ seen → inputs.raw? question.name = none ∧
    library.inputSpec? question.name = some question.spec ∧
    ∃ v, question.spec.parse raw = .ok v ∧
      (now.addSpecs [(question.name, question.spec)]).parse question.name = .ok v ∧
      Provided now question.name v

theorem restored_of_protocol {l : List Moment} (h : Protocol library inputs l s)
    (hl : Readable l) : Restored inputs (.ofSections s.inputs.given) (exchanges l) where
  once := h.once
  entries _ _ _ := h.get?_given hl
  sections _ := h.mem_names hl
  answers question raw hm := by
    have ha : (question.name, raw) ∈ accepted l := hl.mem_accepted.mpr ⟨question, hm, rfl⟩
    have hspec := h.declared hm
    obtain ⟨v, hv⟩ := hl question raw hm
    have hraw : (InputStore.ofSections s.inputs.given).raw? question.name = some raw :=
      (h.raw _ _).mpr (.inr ha)
    refine ⟨h.new _ _ ha, hspec, v, hv, ?_, provided_of_raw? hspec hv hraw⟩
    refine InputStore.parse_eq_ok.mpr ⟨question.spec, raw, ?_, hraw, hv⟩
    simp [InputStore.addSpecs, InputStore.spec?, InputStore.ofSections]

/-- A solve over the library of 2023 whose inputs come from a file and from a terminal: the inputs
that are written back are read as what was given, with the answers beside it. -/
theorem inputs_restored {text : String} {requests : List String} {bytes : ByteArray} {moves : ℕ}
    {w' : Terminal} (ht : InputStore.ofText text = .ok inputs)
    (ha : (initial library inputs canAsk).addForms requests = .ok s₀)
    (hr : (s₀.solve Terminal.prompter moves).run (.ofBytes bytes) = (.finished s, w')) :
    ∃ now, InputStore.ofText s.inputs.text = .ok now ∧
      Restored inputs now (exchanges
        (diary Terminal.prompter moves (.next ⟨s₀, .round⟩) (.ofBytes bytes))) := by
  obtain ⟨calls, hc⟩ := Chronicle.start.addForms ha
  have hI : Keeps (Conversed library inputs) := keeps_conversed lacksAbsent_library
  obtain ⟨hand, hs, -⟩ := hI.solve Terminal.prompter moves (.ofBytes bytes)
    (hI.chronicle hc conversed_initial)
  rw [hr] at hs
  have hanswers : ∀ e ∈ exchanges
        (diary Terminal.prompter moves (.next ⟨s₀, .round⟩) (.ofBytes bytes)),
      ∀ raw, e.2 = some raw → OneLine raw ∧ ∃ v, e.1.spec.parse raw = .ok v :=
    forall_exchanges (J := Terminal.Unbroken) (fun question w hw => hw.prompter question) moves _ _
      (Terminal.unbroken_ofBytes bytes)
  have hplain : s.inputs.given.Plain :=
    hs.protocol.plain (InputStore.plain_ofText ht) (fun _ _ _ _ => plain_of_inputSpec?)
      fun question raw hm => (hanswers _ hm raw rfl).1
  exact ⟨_, InputStore.ofText_text hplain,
    restored_of_protocol hs.protocol fun question raw hm => (hanswers _ hm raw rfl).2⟩

/-- An answer that opens a section of its own, beside a section that is empty. -/
theorem inputs_restored_foreign : ∃ inputs s₀ s w' now,
    InputStore.ofText "[note]\n" = .ok inputs ∧
    (initial library inputs true).addForms ["1040_sb"] = .ok s₀ ∧
    (s₀.solve Terminal.prompter 60).run (.ofBytes "maybe\n no \n".toUTF8) = (.finished s, w') ∧
    s.inputs.text = "[1040_sb]\nforeign_account = no\n\n[note]\n" ∧
    InputStore.ofText s.inputs.text = .ok now ∧
    Restored inputs now (exchanges (diary Terminal.prompter 60 (.next ⟨s₀, .round⟩)
      (.ofBytes "maybe\n no \n".toUTF8))) := by
  obtain ⟨inputs, s₀, s, w', hin, ha, hr, htext⟩ := exists_solve_run "[note]\n" true ["1040_sb"]
    Terminal.prompter 60 (.ofBytes "maybe\n no \n".toUTF8) (fun s => s.inputs.text)
    "[1040_sb]\nforeign_account = no\n\n[note]\n" (by decide +kernel)
  obtain ⟨now, hnow, hrestored⟩ := inputs_restored hin ha hr
  exact ⟨inputs, s₀, s, w', now, hin, ha, hr, htext, hnow, hrestored⟩

end TaxReturn.Year2023
