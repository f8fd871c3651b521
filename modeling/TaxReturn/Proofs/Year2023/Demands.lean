import TaxReturn.Proofs.Carries
import TaxReturn.Proofs.Year2023.Reads

/-! What the fields of 2023 stop at. A field waits for fields of a lower rank, of its own form
instance, of a form with one instance or of an instance that the inputs have a section for, and it
lacks inputs of its own form instance. -/
namespace TaxReturn.Year2023

variable {f d q base : String} {form : Form} {inputs inputs' : InputStore}
  {values values' : ValueStore} {c : Compute Value} {r : Reads} {fixed : List String}
  {outcome : Except Signal Value}

/-- A field with its form and with what its evaluations read. -/
structure Located (f q base : String) (form : Form) (c : Compute Value) (r : Reads) : Prop where
  split : Name.split f = some (q, base)
  instantiate : ∃ name, library.instantiate q = .ok (name, form)
  heeds : c.Heeds r
  allowed : Allowed form base r
  evaluates : ∀ inputs values outcome, library.Evaluates inputs values f outcome ↔
    c ⟨⟨q, values⟩, inputs⟩ = outcome

theorem exists_located (h : library.Evaluates inputs values f outcome) :
    ∃ q base form c r, Located f q base form c r := by
  obtain ⟨q, base, name, form, field, hs, hi, hb, he⟩ := h
  have hform := Library.mem_forms_of_instantiate hi
  obtain ⟨r, hr, ha⟩ := wellRead_library form hform field (List.mem_of_find?_eq_some hb)
  have hname : field.name = base := by simpa using List.find?_some hb
  exact ⟨q, base, form, field.evaluate f, r, hs, ⟨name, hi⟩, Field.heeds_evaluate hr, hname ▸ ha,
    fun _ _ _ => Library.evaluates_iff hs hi hb⟩

/-- Where the line of a field stands in the order of the lines. -/
def fieldRank (f : String) : Nat :=
  match Name.split f with
  | none => 0
  | some (q, base) =>
    match FormName.parse q with
    | .ok name => lineRank (name.name, base)
    | .error _ => 0

theorem name_of_form? {library : Library} {name : String} (h : library.form? name = some form) :
    form.name = name := by
  simpa using List.find?_some h

/-- The line of a form that a field is, in whatever instance. -/
def fieldLine (f : String) : Option (String × String) :=
  (Name.split f).bind fun p => (FormName.parse p.1).toOption.map fun name => (name.name, p.2)

theorem fieldRank_eq (f : String) : fieldRank f = (fieldLine f).elim 0 lineRank := by
  unfold fieldRank fieldLine
  cases Name.split f with
  | none => rfl
  | some p =>
    simp only [Option.bind_some]
    cases FormName.parse p.1 <;> rfl

theorem fieldLine_scoped {name : FormName} (hp : FormName.parse q = .ok name) :
    fieldLine (q ++ "." ++ base) = some (name.name, base) := by
  simp [fieldLine, FormName.split_of_parse hp, hp, Except.toOption]

theorem fieldLine_instance {tag other : String} (ht : tag ∈ inputs.instances other) :
    fieldLine (other ++ ":" ++ tag ++ "." ++ base) = some (other, base) := by
  obtain ⟨q', -, hq'⟩ := InputStore.mem_instances.mp ht
  obtain ⟨rfl, hp⟩ := InputStore.tagOf?_eq_some hq'
  exact fieldLine_scoped hp

/-- A key leads to the line that it means, as far as its form has one instance or is the own one. -/
theorem fieldLine_scopeTo {name : FormName} {key : String} {line : String × String}
    (hi : library.instantiate q = .ok (name, form)) (hc : ':' ∉ (lineOf form.name key).1.toList)
    (h : fieldLine (Name.scopeTo q key) = some line) : line = lineOf form.name key := by
  obtain ⟨hp, hf, -⟩ := Library.instantiate_eq_ok hi
  cases hs : Name.split key with
  | none =>
    rw [Name.scopeTo_of_split_none hs, fieldLine_scoped hp, ← name_of_form? hf] at h
    cases h
    simp [lineOf, hs]
  | some p =>
    obtain ⟨q', key'⟩ := p
    simp only [lineOf, hs, Option.getD_some] at hc ⊢
    rw [Name.scopeTo_of_split_some hs, fieldLine, hs, Option.bind_some] at h
    cases hp' : FormName.parse q' with
    | error e =>
      rw [hp'] at h
      cases h
    | ok name' =>
      rw [hp'] at h
      cases h
      rw [FormName.eq_of_parse_untagged hc hp']

namespace Located

variable (hl : Located f q base form c r)

include hl

theorem rank : fieldRank f = lineRank (form.name, base) := by
  obtain ⟨name, hi⟩ := hl.instantiate
  obtain ⟨hp, hf, -⟩ := Library.instantiate_eq_ok hi
  simp [fieldRank, hl.split, hp, name_of_form? hf]

theorem point_notMem : '.' ∉ q.toList := (Name.split_eq_some_iff.mp hl.split).2

/-- The inputs that are read are those of the form instance. -/
theorem exists_inputSpec {key : String} (hk : key ∈ r.inputs) :
    Name.split (Name.scopeTo q key) = some (q, key) ∧
      ∃ spec, library.inputSpec? (Name.scopeTo q key) = some spec := by
  obtain ⟨hkey, hin⟩ := hl.allowed.1 key hk
  obtain ⟨name, hi⟩ := hl.instantiate
  have hs : Name.split (q ++ "." ++ key) = some (q, key) := Name.split_scoped hl.point_notMem
  rw [Name.scopeTo_of_split_none hkey]
  refine ⟨hs, ?_⟩
  rw [Solver.inputSpec?_of_split hi hs, ← Library.text_of_instantiate hi]
  exact Form.exists_inputAs? hin

theorem carries (ha : inputs.Knows library q) (hb : inputs'.Knows library q)
    (hc : inputs.Carries fixed inputs') (ht : ∀ t ∈ r.totals, t.1 ∈ fixed)
    (hv : values ≤ values') (he : library.Evaluates inputs values f outcome) :
    library.Evaluates inputs' values' f outcome ∨ Overtaken inputs' values' outcome := by
  rw [hl.evaluates] at he ⊢
  subst he
  refine hl.heeds.carries rfl (fun key hk => ?_) hc ht hv
  obtain ⟨hs, spec, hspec⟩ := hl.exists_inputSpec hk
  exact ⟨spec, ha _ _ _ hs hspec, hb _ _ _ hs hspec⟩

theorem names_of_unmet (he : library.Evaluates inputs values f (.error (.unmet d))) :
    values.get? d = none ∧ r.Names ⟨⟨q, values⟩, inputs⟩ d :=
  hl.heeds.unmet _ d ((hl.evaluates _ _ _).mp he)

end Located

/-- A field waits for fields of a lower rank only. -/
theorem rank_of_unmet (he : library.Evaluates inputs values f (.error (.unmet d))) :
    fieldRank d < fieldRank f := by
  obtain ⟨q, base, form, c, r, hl⟩ := exists_located he
  obtain ⟨-, hlines, htotals, -⟩ := hl.allowed
  rw [hl.rank]
  obtain ⟨-, hn⟩ := hl.names_of_unmet he
  cases hn with
  | @line key hk =>
    obtain ⟨hcolon, hlt⟩ := hlines key hk
    obtain ⟨name, hi⟩ := hl.instantiate
    rw [fieldRank_eq]
    cases hd : fieldLine (Name.scopeTo q key) with
    | none =>
      rw [ValueView.qualify, hd]
      exact Nat.zero_lt_of_lt hlt
    | some line =>
      rw [ValueView.qualify, hd, fieldLine_scopeTo hi hcolon hd]
      exact hlt
  | @total form' field tag ht htag =>
    rw [fieldRank_eq, fieldLine_instance htag]
    exact (htotals _ ht).1

/-- What a field waits for belongs to its own form instance, to a form with one instance, or to an
instance that the inputs have a section for. -/
theorem section_of_unmet (he : library.Evaluates inputs values f (.error (.unmet d)))
    (hf : Name.split f = some (q, base)) {q' base' : String}
    (hd : Name.split d = some (q', base')) :
    q' = q ∨ (∀ form, InputStore.tagOf? form q' = none) ∨ q' ∈ inputs.given.names := by
  obtain ⟨q₁, base₁, form, c, r, hl⟩ := exists_located he
  obtain ⟨rfl, rfl⟩ : q₁ = q ∧ base₁ = base := by simpa [hl.split] using hf
  obtain ⟨-, hn⟩ := hl.names_of_unmet he
  cases hn with
  | @line key hk =>
    cases hs : Name.split key with
    | none =>
      left
      rw [ValueView.qualify, Name.scopeTo_of_split_none hs, Name.split_scoped hl.point_notMem] at hd
      cases hd
      rfl
    | some p =>
      right
      left
      obtain ⟨hcolon, -⟩ := hl.allowed.2.1 key hk
      rw [ValueView.qualify, Name.scopeTo_of_split_some hs] at hd
      simp only [lineOf, hd, Option.getD_some] at hcolon
      intro form'
      unfold InputStore.tagOf?
      split
      · rename_i name hp
        obtain rfl := FormName.eq_of_parse_untagged hcolon hp
        simp
      · rfl
  | @total form' field tag ht htag =>
    right
    right
    obtain ⟨q'', hq'', htag⟩ := InputStore.mem_instances.mp htag
    obtain ⟨rfl, hp⟩ := InputStore.tagOf?_eq_some htag
    rw [FormName.split_of_parse hp] at hd
    cases hd
    exact hq''

/-- What a field lacks is an input of its own form instance that is not given. -/
theorem split_of_missingInput {n : String}
    (he : library.Evaluates inputs values f (.error (.missingInput n))) :
    ∃ q base key, Name.split f = some (q, base) ∧ Name.split n = some (q, key) ∧
      inputs.raw? n = none := by
  obtain ⟨q, base, form, c, r, hl⟩ := exists_located he
  obtain ⟨key, hk, rfl, hp⟩ := hl.heeds.missing _ n ((hl.evaluates _ _ _).mp he)
  exact ⟨q, base, key, hl.split, (hl.exists_inputSpec hk).1,
    (InputStore.parse_eq_missingInput hp).2.2⟩

/-- The line of Schedule 1 that takes the total over the forms 8889. -/
def deductionTotal : String := "1040_s1.13"

theorem split_deductionTotal : Name.split deductionTotal = some ("1040_s1", "13") := by decide

/-- The deduction of a form 8889. -/
def deductionOf (tag : String) : String := "8889" ++ ":" ++ tag ++ "." ++ "13"

theorem located_deductionTotal (hl : Located deductionTotal q base form c r) :
    r = { totals := [("8889", "13")] } := by
  obtain ⟨rfl, rfl⟩ : q = "1040_s1" ∧ base = "13" := by
    simpa [hl.split] using split_deductionTotal
  obtain ⟨name, hi⟩ := hl.instantiate
  have hform : form.name = "1040_s1" := by
    obtain ⟨hp, hf, -⟩ := Library.instantiate_eq_ok hi
    have hname : FormName.parse "1040_s1" = .ok ⟨"1040_s1", none⟩ := by decide
    rw [hname] at hp
    cases hp
    exact name_of_form? hf
  exact hl.allowed.2.2.2.2.1 hform rfl

/-- A form with one instance has its name for it. -/
theorem eq_of_single {n : String} {single : Form} {name : FormName}
    (hi : library.instantiate q = .ok (name, form)) (hn : library.form? n = some single)
    (hs : single.instancing = .single) (hform : form.name = n) : q = n := by
  obtain ⟨-, hf, htag⟩ := Library.instantiate_eq_ok hi
  have hname := name_of_form? hf
  rw [← hname, hform, hn] at hf
  cases hf
  have hnone : name.tag = none := by
    cases h : name.tag with
    | none => rfl
    | some t =>
      simp [Form.checkTag, hs, h] at htag
  rw [← Library.text_of_instantiate hi, FormName.text, hnone, ← hname, hform]

/-- That line is the only one that takes the total over them. -/
theorem totals_of_ne (hl : Located f q base form c r) (hf : f ≠ deductionTotal) :
    ∀ t ∈ r.totals, t.1 ∈ statements := by
  intro t ht
  rcases (hl.allowed.2.2.1 t ht).2 with hs | ⟨hform, rfl⟩
  · exact hs
  · obtain ⟨name, hi⟩ := hl.instantiate
    have hone : library.form? "1040_s1" = some scheduleOne := rfl
    obtain rfl := eq_of_single hi hone rfl hform
    exact absurd (Name.split_eq_some_iff.mp hl.split).1 hf

/-- Who waits for a line of Schedule B stands on it too, or is line 2b of the return. -/
theorem reader_of_scheduleB (he : library.Evaluates inputs values f (.error (.unmet d)))
    {line : String} (hd : Name.split d = some ("1040_sb", line)) :
    (∃ base, Name.split f = some ("1040_sb", base)) ∨ f = "1040.2b" := by
  obtain ⟨q, base, form, c, r, hl⟩ := exists_located he
  obtain ⟨-, hn⟩ := hl.names_of_unmet he
  cases hn with
  | @line key hk =>
    cases hs : Name.split key with
    | none =>
      rw [ValueView.qualify, Name.scopeTo_of_split_none hs, Name.split_scoped hl.point_notMem] at hd
      cases hd
      exact .inl ⟨base, hl.split⟩
    | some p =>
      rw [ValueView.qualify, Name.scopeTo_of_split_some hs, hs] at hd
      cases hd
      obtain ⟨hform, rfl⟩ := hl.allowed.2.2.2.2.2 key hk _ hs rfl
      obtain ⟨name, hi⟩ := hl.instantiate
      have hone : library.form? "1040" = some individualReturn := rfl
      obtain rfl := eq_of_single hi hone rfl hform
      exact .inr (Name.split_eq_some_iff.mp hl.split).1
  | @total form' field tag ht htag =>
    obtain ⟨q', -, htag⟩ := InputStore.mem_instances.mp htag
    obtain ⟨rfl, hp⟩ := InputStore.tagOf?_eq_some htag
    rw [FormName.split_of_parse hp] at hd
    obtain ⟨hq, -⟩ : form' ++ ":" ++ tag = "1040_sb" ∧ field = line := by simpa using hd
    have hplain : FormName.parse "1040_sb" = .ok ⟨"1040_sb", none⟩ := rfl
    rw [hq, hplain] at hp
    cases hp

/-- An evaluation comes to the same outcome when more is given and committed, or what it stopped at
is there by now, as far as the instances that it counts are the same. -/
theorem carries_of_evaluates (he : library.Evaluates inputs values f outcome)
    (hknown : ∀ q base, Name.split f = some (q, base) →
      inputs.Knows library q ∧ inputs'.Knows library q)
    (hfixed : ∀ form ∈ statements, form ∈ fixed) (hf : f ≠ deductionTotal ∨ "8889" ∈ fixed)
    (hc : inputs.Carries fixed inputs') (hv : values ≤ values') :
    library.Evaluates inputs' values' f outcome ∨ Overtaken inputs' values' outcome := by
  obtain ⟨q, base, form, c, r, hl⟩ := exists_located he
  obtain ⟨ha, hb⟩ := hknown q base hl.split
  refine hl.carries ha hb hc (fun t ht => ?_) hv he
  by_cases hd : f = deductionTotal
  · subst hd
    have hr := located_deductionTotal hl
    subst hr
    obtain rfl : t = ("8889", "13") := by simpa using ht
    exact hf.resolve_left (by simp)
  · exact hfixed _ (totals_of_ne hl hd t ht)

/-- The fields that lead to the deductions: the total over them and the lines of a form 8889 but
for the distributions. -/
inductive Deducts : String → Prop
  | total : Deducts deductionTotal
  | line {f q base : String} {name : FormName} (hs : Name.split f = some (q, base))
      (hp : FormName.parse q = .ok name) (hn : name.name = "8889") (hb : base ≠ "14a") : Deducts f

theorem Deducts.allowed (h : Deducts f) (hl : Located f q base form c r) : r.leaves = false ∧
    (∀ key ∈ r.lines, ∃ name, Name.split key = none ∧ key ≠ "14a" ∧ FormName.parse q = .ok name ∧
      name.name = "8889") ∧ ∀ t ∈ r.totals, t = ("8889", "13") := by
  cases h with
  | total =>
    obtain rfl := located_deductionTotal hl
    simp
  | @line f q' base' name hs hp hn hb =>
    obtain ⟨rfl, rfl⟩ : q' = q ∧ base' = base := by simpa [hl.split, eq_comm] using hs
    obtain ⟨name', hi⟩ := hl.instantiate
    obtain ⟨hp', hf, -⟩ := Library.instantiate_eq_ok hi
    rw [hp] at hp'
    cases hp'
    have hform : form.name = "8889" := (name_of_form? hf).trans hn
    obtain ⟨hleaves, htotals, hlines⟩ := hl.allowed.2.2.2.1 hform hb
    refine ⟨hleaves, fun key hk => ?_, by simp [htotals]⟩
    exact ⟨name, (hlines key hk).1, (hlines key hk).2, hp, hn⟩

theorem Deducts.of_unmet (h : Deducts f)
    (he : library.Evaluates inputs values f (.error (.unmet d))) : Deducts d := by
  obtain ⟨q, base, form, c, r, hl⟩ := exists_located he
  obtain ⟨-, hlines, htotals⟩ := h.allowed hl
  obtain ⟨-, hn⟩ := hl.names_of_unmet he
  cases hn with
  | @line key hk =>
    obtain ⟨name, hs, hb, hp, hname⟩ := hlines key hk
    refine .line ?_ hp hname hb
    rw [ValueView.qualify, Name.scopeTo_of_split_none hs]
    exact Name.split_scoped hl.point_notMem
  | @total form' field tag ht htag =>
    cases htotals _ ht
    obtain ⟨q', -, htag⟩ := InputStore.mem_instances.mp htag
    obtain ⟨rfl, hp⟩ := InputStore.tagOf?_eq_some htag
    exact .line (FormName.split_of_parse hp) hp rfl (by decide)

/-- They are never left out. -/
theorem Deducts.not_notImplemented (h : Deducts f) {m : Option String} :
    ¬ library.Evaluates inputs values f (.error (.notImplemented m)) := by
  intro he
  obtain ⟨q, base, form, c, r, hl⟩ := exists_located he
  have hleaves := hl.heeds.left _ m ((hl.evaluates _ _ _).mp he)
  rw [(h.allowed hl).1] at hleaves
  cases hleaves

/-- The total waits for the deductions of the instances that the inputs have sections for. -/
theorem exists_deductionOf
    (he : library.Evaluates inputs values deductionTotal (.error (.unmet d))) :
    ∃ tag ∈ inputs.instances "8889", d = deductionOf tag := by
  obtain ⟨q, base, form, c, r, hl⟩ := exists_located he
  obtain rfl := located_deductionTotal hl
  obtain ⟨-, hn⟩ := hl.names_of_unmet he
  cases hn with
  | line hk => cases hk
  | @total form' field tag ht htag =>
    obtain ⟨rfl, rfl⟩ : form' = "8889" ∧ field = "13" := by simpa using ht
    exact ⟨tag, htag, rfl⟩

/-- The total is taken when all these deductions are committed. -/
theorem has_deductionOf {v : Value} (he : library.Evaluates inputs values deductionTotal (.ok v))
    {tag : String} (ht : tag ∈ inputs.instances "8889") : values.has (deductionOf tag) := by
  have hi : library.instantiate "1040_s1" = .ok (⟨"1040_s1", none⟩, scheduleOne) := rfl
  have hb : scheduleOne.field? "13" = some (Line.totalOf "13" "8889" "13") := rfl
  obtain ⟨w, hw, -⟩ := Field.evaluate_eq_ok.mp
    ((Library.evaluates_iff split_deductionTotal hi hb).mp he)
  obtain ⟨amount, hsum, -⟩ := Compute.bind_eq_ok.mp hw
  exact Compute.has_of_sumInstances hsum ht

end TaxReturn.Year2023
