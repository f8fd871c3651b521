import TaxReturn.Proofs.Sections
import TaxReturn.Proofs.Solver.Questions
import TaxReturn.Proofs.Solver.Soundness

/-! What is answered stands beside what was given, each answer in its own place. An input that is
given from the start is never lacked, so nobody is asked for it; and if it can be read, no solve
fails over it. -/
namespace TaxReturn

namespace Sections

variable {s : Sections} {q key raw : String} {a : String × String}
  {answers : List (String × String)}

theorem get?_enter : (s.enter a).get? q key =
    if Name.split a.1 = some (q, key) then some a.2 else s.get? q key := by
  unfold enter
  split
  · rename_i q' key' hs
    simp only [get?_set, hs, Option.some.injEq, Prod.mk.injEq, eq_comm]
  · rename_i hs
    simp [hs]

theorem mem_names_enter :
    q ∈ (s.enter a).names ↔ q ∈ s.names ∨ ∃ key, Name.split a.1 = some (q, key) := by
  unfold enter
  split
  · rename_i q' key' hs
    simp [mem_names_set, hs, or_comm, eq_comm]
  · rename_i hs
    simp [hs]

theorem mem_names_foldl_enter : q ∈ (answers.foldl enter s).names ↔
    q ∈ s.names ∨ ∃ a ∈ answers, ∃ key, Name.split a.1 = some (q, key) := by
  induction answers generalizing s with
  | nil => simp
  | cons a rest ih =>
    rw [List.foldl_cons, ih, mem_names_enter, or_assoc]
    simp [or_and_right, exists_or]

/-- Answers to different questions, for which nothing is given yet, each take a place of their
own. -/
theorem get?_foldl_enter (hd : (answers.map (·.1)).Nodup)
    (hnew : ∀ a ∈ answers, ∀ q key, Name.split a.1 = some (q, key) → s.get? q key = none) :
    (answers.foldl enter s).get? q key = some raw ↔ s.get? q key = some raw ∨
      ∃ a ∈ answers, Name.split a.1 = some (q, key) ∧ a.2 = raw := by
  induction answers generalizing s with
  | nil => simp
  | cons a rest ih =>
    obtain ⟨hother, hd⟩ := List.nodup_cons.mp hd
    obtain ⟨ha, hrest⟩ := List.forall_mem_cons.mp hnew
    have hfree : ∀ b ∈ rest, ∀ q key, Name.split b.1 = some (q, key) →
        (s.enter a).get? q key = none := by
      intro b hb q key hs
      have hne : Name.split a.1 ≠ some (q, key) := by
        intro hs'
        obtain ⟨he, -⟩ := Name.split_eq_some_iff.mp hs
        obtain ⟨he', -⟩ := Name.split_eq_some_iff.mp hs'
        exact hother (List.mem_map.mpr ⟨b, hb, he.trans he'.symm⟩)
      rw [get?_enter, if_neg hne]
      exact hrest b hb q key hs
    rw [List.foldl_cons, ih hd hfree, get?_enter]
    by_cases hs : Name.split a.1 = some (q, key)
    · simp [hs, ha q key hs]
    · simp [hs]

theorem Plain.enter (hs : s.Plain) (ha : ∀ q key, Name.split a.1 = some (q, key) →
    (q ≠ "" ∧ OneLine q) ∧ PlainKey key ∧ OneLine a.2) : (s.enter a).Plain := by
  unfold Sections.enter
  split
  · rename_i q key hsplit
    obtain ⟨hq, hk, hv⟩ := ha q key hsplit
    exact hs.set hq hk hv
  · exact hs

theorem Plain.foldl_enter (hs : s.Plain) (ha : ∀ a ∈ answers, ∀ q key,
    Name.split a.1 = some (q, key) → (q ≠ "" ∧ OneLine q) ∧ PlainKey key ∧ OneLine a.2) :
    (answers.foldl Sections.enter s).Plain := by
  induction answers generalizing s with
  | nil => exact hs
  | cons a rest ih =>
    obtain ⟨ha, hrest⟩ := List.forall_mem_cons.mp ha
    exact ih (hs.enter ha) hrest

end Sections

namespace InputStore

variable {store : InputStore}

/-- What is given is read back from its text. -/
theorem ofText_text (h : store.given.Plain) :
    ofText store.text = .ok (.ofSections store.given) := by
  rw [ofText, text, Sections.parse_text h]
  rfl

end InputStore

/-- An input that is declared is one of the form before its name. -/
theorem Library.exists_input {library : Library} {n : String} {spec : InputSpec}
    (h : library.inputSpec? n = some spec) : ∃ q key name form, Name.split n = some (q, key) ∧
      library.instantiate q = .ok (name, form) ∧ spec ∈ form.inputs ∧ spec.name = key := by
  obtain ⟨⟨q, key⟩, hs, hspec⟩ := Option.bind_eq_some_iff.mp h
  cases hi : library.instantiate q with
  | error e => simp [hi] at hspec
  | ok x =>
    obtain ⟨name, form⟩ := x
    simp only [hi] at hspec
    obtain ⟨input, hm, he⟩ := List.mem_map.mp (Name.mem_of_getElem?_insertMany hspec)
    simp only [Prod.mk.injEq] at he
    obtain ⟨hn, rfl⟩ := he
    refine ⟨q, key, name, form, hs, hi, hm, @Form.qualify_injective name _ _ ?_⟩
    rw [hn, FormName.qualify, text_of_instantiate hi]
    exact (Name.split_eq_some_iff.mp hs).1

namespace Solver

variable {s t : Solver} {p p' : Point} {n raw raw' : String} {fault : ValueFault} {v : Value}
  {spec : InputSpec} {library : Library} {inputs : InputStore} {canAsk : Bool} {given : Sections}
  {calls : List (Call × Reply)} {l : List Moment} {rank : String → ℕ} {q : Question}
  {answer : Option String}

/-- All that is answered can be read. -/
def Readable (l : List Moment) : Prop :=
  ∀ question raw, (question, some raw) ∈ exchanges l → ∃ v, question.spec.parse raw = .ok v

theorem exists_of_mem_accepted (h : (n, raw) ∈ accepted l) :
    ∃ question, (question, some raw) ∈ exchanges l ∧ question.name = n := by
  obtain ⟨⟨question, answer⟩, hm, he⟩ := List.mem_filterMap.mp h
  obtain rfl := name_of_acceptedAnswer he
  cases answer with
  | none => cases he
  | some r =>
    simp only [acceptedAnswer] at he
    split at he <;> cases he
    exact ⟨question, hm, rfl⟩

theorem Readable.mem_accepted (h : Readable l) : (n, raw) ∈ accepted l ↔
    ∃ question, (question, some raw) ∈ exchanges l ∧ question.name = n := by
  refine ⟨exists_of_mem_accepted, ?_⟩
  rintro ⟨question, hm, rfl⟩
  obtain ⟨v, hv⟩ := h question raw hm
  refine List.mem_filterMap.mpr ⟨_, hm, ?_⟩
  simp [acceptedAnswer, InputSpec.accepts, hv, Except.isOk, Except.toBool]

namespace Protocol

variable {sec key : String}

/-- No input is answered twice. -/
theorem nodup_accepted (h : Protocol library inputs l s) :
    ((accepted l).map (·.1)).Nodup := by
  have honce := h.once
  rw [List.nodup_iff_pairwise_ne, List.pairwise_map] at honce ⊢
  rw [accepted, List.pairwise_filterMap]
  refine honce.imp fun {e e'} hne a ha a' ha' => ?_
  rw [name_of_acceptedAnswer ha, name_of_acceptedAnswer ha']
  exact hne

/-- Only declared inputs are asked for, and each as it is declared. -/
theorem declared (h : Protocol library inputs l s) (he : (q, answer) ∈ exchanges l) :
    library.inputSpec? q.name = some q.spec := by
  obtain ⟨x, hx, hq⟩ := List.mem_filterMap.mp he
  exact (h.poses x hx q answer hq).declared

/-- What was given is still there, and each answer has come to it. -/
theorem get?_given (h : Protocol library inputs l s) (hl : Readable l) :
    s.inputs.given.get? sec key = some raw ↔ inputs.given.get? sec key = some raw ∨
      ∃ question, (question, some raw) ∈ exchanges l ∧
        Name.split question.name = some (sec, key) := by
  rw [h.given, Sections.get?_foldl_enter h.nodup_accepted]
  · refine or_congr_right ?_
    constructor
    · rintro ⟨⟨n, raw'⟩, ha, hs, rfl⟩
      obtain ⟨question, hm, rfl⟩ := exists_of_mem_accepted ha
      exact ⟨question, hm, hs⟩
    · rintro ⟨question, hm, hs⟩
      exact ⟨_, hl.mem_accepted.mpr ⟨question, hm, rfl⟩, hs, rfl⟩
  · intro a ha sec' key' hs
    simpa only [InputStore.raw?, hs, Option.bind_some] using h.new a.1 a.2 ha

/-- The sections are those that were there and those of the answers. -/
theorem mem_names (h : Protocol library inputs l s) (hl : Readable l) :
    sec ∈ s.inputs.given.names ↔ sec ∈ inputs.given.names ∨ ∃ question raw key,
      (question, some raw) ∈ exchanges l ∧ Name.split question.name = some (sec, key) := by
  rw [h.given, Sections.mem_names_foldl_enter]
  refine or_congr_right ?_
  constructor
  · rintro ⟨⟨n, raw⟩, ha, key, hs⟩
    obtain ⟨question, hm, rfl⟩ := exists_of_mem_accepted ha
    exact ⟨question, raw, key, hm, hs⟩
  · rintro ⟨question, raw, key, hm, hs⟩
    exact ⟨_, hl.mem_accepted.mpr ⟨question, hm, rfl⟩, key, hs⟩

/-- Answers that stand on a line leave what is given fit to be written. -/
theorem plain (h : Protocol library inputs l s) (hplain : inputs.given.Plain)
    (hnames : ∀ n spec sec key, library.inputSpec? n = some spec →
      Name.split n = some (sec, key) → (sec ≠ "" ∧ OneLine sec) ∧ Sections.PlainKey key)
    (hanswers : ∀ question raw, (question, some raw) ∈ exchanges l → OneLine raw) :
    s.inputs.given.Plain := by
  rw [h.given]
  refine hplain.foldl_enter ?_
  rintro ⟨n, raw⟩ ha sec key hs
  obtain ⟨question, hm, rfl⟩ := exists_of_mem_accepted ha
  obtain ⟨hsec, hkey⟩ := hnames _ _ sec key (h.declared hm) hs
  exact ⟨hsec, hkey, hanswers question raw hm⟩

end Protocol

/-- What holds throughout a session over a sound library in which an input is given from the start:
nobody lacks it. -/
structure Supplied (library : Library) (given : Sections) (rank : String → ℕ) (n raw : String)
    (s : Solver) : Prop extends InOrder library given rank s where
  present : s.inputs.raw? n = some raw
  unlacked : s.inputWaits.waiters n = []

namespace Supplied

theorem notMem_unmetNames (h : Supplied library given rank n raw s) :
    n ∉ s.inputWaits.unmetNames :=
  fun hn => (Waitlist.mem_unmetNames.mp hn).1 h.unlacked

/-- A state that is in order, and in which no more is given and lacked. -/
theorem of_inOrder (h : Supplied library given rank n raw s) (ht : InOrder library given rank t)
    (hg : t.inputs.given = s.inputs.given) (hw : t.inputWaits = s.inputWaits) :
    Supplied library given rank n raw t := by
  refine ⟨ht, ?_, hw ▸ h.unlacked⟩
  simpa only [InputStore.raw?, hg] using h.present

theorem step (hlib : library.Sound rank) (hlacks : library.LacksAbsent)
    (h : Supplied library given rank n raw p.solver) (hs : Step p p') :
    Supplied library given rank n raw p'.solver := by
  have hin := inOrder_step hlib h.toInOrder hs
  cases hs with
  | wait hv hy hd hp =>
    obtain ⟨new, hg, -⟩ := hd.grows
    exact h.of_inOrder hin hg.given hg.inputWaits
  | lack hv hy =>
    refine ⟨hin, h.present, List.eq_nil_iff_forall_not_mem.mpr fun f hf => ?_⟩
    rcases Waitlist.mem_waiters_add.mp hf with hf | ⟨rfl, rfl⟩
    · rw [h.unlacked] at hf
      cases hf
    · have habsent := (h.registered.evaluates hy).lacks hlacks
      simp [InputStore.has, h.present] at habsent
  | supply =>
    refine ⟨hin, h.present, ?_⟩
    simp only [Waitlist.waiters_releaseAll]
    split
    · rfl
    · exact h.unlacked
  | @accept s hand input spec value raw' new inputs hc hr ha hw hs hp hg =>
    refine ⟨hin, ?_, h.unlacked⟩
    have hkept : ¬ (n = input ∧ s.inputs.raw? input = none) := by
      rintro ⟨rfl, hnone⟩
      rw [h.present] at hnone
      cases hnone
    rw [InputStore.raw?_give hg, if_neg hkept]
    exact h.present
  | _ => exact h.of_inOrder hin rfl rfl

theorem fails {e : TaxError} (h : Supplied library given rank n raw p.solver) (hf : Fails p e t) :
    Supplied library given rank n raw t := by
  obtain ⟨hw, hg, -, -⟩ := hf.frame
  exact h.of_inOrder (inOrder_fails h.toInOrder hf) hg hw

/-- Where an input can be read at all, it is read as what is given. -/
theorem parse (h : Supplied library given rank n raw s) (hspec : library.inputSpec? n = some spec)
    (hv : spec.parse raw = .ok v) (hn : (s.inputs.spec? n).isSome) :
    s.inputs.parse n = .ok v := by
  obtain ⟨spec', hspec'⟩ := Option.isSome_iff_exists.mp hn
  have hreg : s.inputSpecs[n]? = some spec' := by
    simpa [InputStore.spec?, h.registered.spec] using hspec'
  obtain ⟨-, hdecl⟩ := (h.registered.inputSpec n spec').mp hreg
  rw [hspec] at hdecl
  cases hdecl
  exact InputStore.parse_eq_ok.mpr ⟨spec, raw, hspec', h.present, hv⟩

/-- No evaluation and no answer finds that the input cannot be read, unless it is the name of a
choice that was not made. -/
theorem not_invalid (hlib : library.Sound rank) (h : Supplied library given rank n raw p.solver)
    (hspec : library.inputSpec? n = some spec) (hv : spec.parse raw = .ok v)
    (hchosen : p.solver.values.get? n ≠ some (.choice none)) :
    ¬ Fails p (.invalidInput n raw' fault) t := by
  intro hf
  generalize he : TaxError.invalidInput n raw' fault = e at hf
  cases hf with
  | @fatal s hand name e hval hy =>
    subst he
    obtain ⟨q, field, -, -, ho⟩ := h.orderly hlib hy
    cases ho with
    | unreadable hread =>
      rcases hread with hread | hread
      · have hsome : (s.inputs.spec? n).isSome := by
          cases hs : s.inputs.spec? n with
          | none => simp [InputStore.parse, hs] at hread
          | some spec => rfl
        have hok : s.inputs.parse n = .ok v := h.parse hspec hv hsome
        rw [hok] at hread
        cases hread
      · exact hchosen hread
  | missed hval hy hd =>
    subst he
    cases aboutNames_of_discover hd
  | unreadable hc hw hs hp =>
    cases he
    exact hw h.unlacked
  | ungiven hc hw hg =>
    subst he
    cases aboutNames_of_give hg
  | _ => cases he

end Supplied

theorem Session.supplied (hlib : library.Sound rank) (hlacks : library.LacksAbsent)
    (h : Session (initial library (.ofSections given) canAsk) calls s)
    (hraw : (InputStore.ofSections given).raw? n = some raw) :
    Supplied library given rank n raw s := by
  obtain ⟨lost, hs, -⟩ := h.induction (I := fun p => Supplied library given rank n raw p.solver)
    ⟨inOrder_initial, hraw, by simp [initial]⟩
    (fun s t q lost _ hs ha => by
      obtain ⟨new, hg⟩ := addForm_grows ha
      have hreg := registered_addForm hs.registered ha
      have hin := hs.grows hg (fun _ => mem_forms_addForm ha) hreg
      exact hs.of_inOrder hin hg.given hg.inputWaits)
    (fun _ _ hp hs => hp.step hlib hlacks hs)
    (fun _ _ hs _ => hs.of_inOrder
      (hs.toInOrder.same ⟨rfl, rfl, rfl, rfl, rfl, rfl⟩ rfl rfl rfl rfl) rfl rfl)
    (.inr fun _ _ _ hp hf => hp.fails hf)
  exact hs

end Solver
end TaxReturn
