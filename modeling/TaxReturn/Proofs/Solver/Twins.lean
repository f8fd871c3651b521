import TaxReturn.Proofs.Correspondence
import TaxReturn.Proofs.Solver.Soundness

/-! A solve over sections some of which go by other tags. It takes up twins of the forms, and
evaluates twins of the fields, of a solve over the original sections in which every field was
computed. So it computes corresponding values, leaves nothing out, and lacks nothing. -/
namespace TaxReturn

/-- What an input of an instance is read by depends on the form alone. -/
theorem Form.inputAs?_qualify {form : Form} {name : FormName} {key : String} :
    form.inputAs? name (name.qualify key) =
      form.inputs.findSomeRev? fun input => if input.name = key then some input else none := by
  have hnone : (∅ : Name.Table InputSpec)[name.qualify key]? = none := by simp
  have hiff : ∀ input : InputSpec, name.qualify input.name = name.qualify key ↔ input.name = key :=
    fun input => ⟨qualify_injective, congrArg _⟩
  rw [inputAs?, Std.ExtTreeMap.getElem?_insertMany_list, hnone, Option.or_none, inputsAs]
  simp only [List.findSomeRev?_eq_findSome?_reverse, ← List.map_reverse, List.findSome?_map,
    Std.LawfulEqCmp.compare_eq_iff_eq, Function.comp_def, hiff]

namespace InputStore

variable {a b : InputStore} {form : String}

theorem instances_of_given (h : b.given = a.given) : b.instances form = a.instances form := by
  simp only [instances, h]

/-- A section holds an instance of one form. -/
theorem tagOf?_other {other q tag : String} (h : tagOf? form q = some tag) (hne : other ≠ form) :
    tagOf? other q = none := by
  obtain ⟨-, hp⟩ := tagOf?_eq_some h
  simp [tagOf?, hp, hne.symm]

end InputStore

namespace Correspondence

open InputStore

variable {C : Correspondence} {library : Library} {given given' : Sections} {q q' : String}
  {form : Form} {name : FormName}

/-- The sections of two returns are each other's twins and say the same. They differ only in the
tags of forms of which there can be any number. -/
structure Matches (C : Correspondence) (library : Library) (given given' : Sections) : Prop where
  free : ∀ form ∈ C.forms, ∃ other, library.form? form = some other ∧ other.instancing = .free
  plain : ∀ q, (∀ form ∈ C.forms, tagOf? form q = none) → C.twins q q
  tagged : ∀ q q', C.twins q q' → ∀ form ∈ C.forms,
    (tagOf? form q).isSome = (tagOf? form q').isSome
  left_unique : ∀ q r q', C.twins q q' → C.twins r q' → q = r
  right_unique : ∀ q q' r', C.twins q q' → C.twins q r' → q' = r'
  left_total : ∀ q' ∈ given'.names, ∃ q ∈ given.names, C.twins q q'
  right_total : ∀ q ∈ given.names, ∃ q' ∈ given'.names, C.twins q q'
  entries : ∀ q q' key, C.twins q q' → given'.get? q' key = given.get? q key

/-- The correspondence seen from the other return. -/
def flip (C : Correspondence) : Correspondence :=
  { C with twins := fun q q' => C.twins q' q, signed := True }

namespace Matches

variable (h : C.Matches library given given')

include h

theorem flip : C.flip.Matches library given' given where
  free := h.free
  plain := h.plain
  tagged q q' ht form hf := (h.tagged q' q ht form hf).symm
  left_unique q r q' := h.right_unique q' q r
  right_unique q q' r' := h.left_unique q' r' q
  left_total := h.right_total
  right_total := h.left_total
  entries q q' key ht := (h.entries q' q key ht).symm

/-- The twin of an instance is one of the same form. -/
theorem instantiate (ht : C.twins q q') (hi : library.instantiate q = .ok (name, form)) :
    ∃ name', library.instantiate q' = .ok (name', form) := by
  by_cases hplain : ∀ other ∈ C.forms, tagOf? other q = none
  · obtain rfl := h.right_unique q q q' (h.plain q hplain) ht
    exact ⟨name, hi⟩
  · push Not at hplain
    obtain ⟨other, ho, hq⟩ := hplain
    obtain ⟨tag, htag⟩ := Option.ne_none_iff_exists'.mp hq
    have hsome := h.tagged q q' ht other ho
    rw [htag, Option.isSome_some, eq_comm, Option.isSome_iff_exists] at hsome
    obtain ⟨tag', htag'⟩ := hsome
    -- A form of which there can be any number takes every tag.
    obtain ⟨form', hf, hfree⟩ := h.free other ho
    obtain ⟨hp, hf', -⟩ := Library.instantiate_eq_ok hi
    rw [(tagOf?_eq_some htag).2] at hp
    cases hp
    rw [hf] at hf'
    cases hf'
    exact ⟨_, Library.instantiate_tagged htag' hf hfree⟩

/-- The instances of a form that go by other tags are as many, and their twins are those of the
original. -/
theorem exists_back {other : String} (ho : other ∈ C.forms) : ∃ back : String → String,
    (∀ tag ∈ (ofSections given').instances other,
      C.twins (other ++ ":" ++ back tag) (other ++ ":" ++ tag)) ∧
    (((ofSections given').instances other).map back).Perm ((ofSections given).instances other) := by
  have hback : ∀ tag' ∈ (ofSections given').instances other,
      ∃ tag ∈ (ofSections given).instances other,
        C.twins (other ++ ":" ++ tag) (other ++ ":" ++ tag') := by
    intro tag' ht'
    obtain ⟨hm, htag'⟩ := tagOf?_of_mem_instances ht'
    obtain ⟨q, hq, htwins⟩ := h.left_total _ hm
    have hsome := h.tagged _ _ htwins other ho
    rw [htag', Option.isSome_some, Option.isSome_iff_exists] at hsome
    obtain ⟨tag, htag⟩ := hsome
    obtain ⟨rfl, -⟩ := tagOf?_eq_some htag
    exact ⟨tag, mem_instances.mpr ⟨_, hq, htag⟩, htwins⟩
  choose! back hmem htwins using hback
  refine ⟨back, htwins, ?_⟩
  have hinj : ∀ tag ∈ (ofSections given').instances other,
      ∀ tag' ∈ (ofSections given').instances other, back tag = back tag' → tag = tag' := by
    intro tag ht tag' ht' he
    have h1 := htwins tag ht
    rw [he] at h1
    have hname := h.right_unique _ _ _ h1 (htwins tag' ht')
    apply String.toList_injective
    simpa using congrArg String.toList hname
  rw [List.perm_ext_iff_of_nodup ((nodup_instances _ _).map_on hinj) (nodup_instances _ _)]
  intro tag
  constructor
  · intro hm
    obtain ⟨tag', ht', rfl⟩ := List.mem_map.mp hm
    exact hmem tag' ht'
  · intro ht
    obtain ⟨hm, htag⟩ := tagOf?_of_mem_instances ht
    obtain ⟨q', hq', htw⟩ := h.right_total _ hm
    have hsome := h.tagged _ _ htw other ho
    rw [htag, Option.isSome_some, eq_comm, Option.isSome_iff_exists] at hsome
    obtain ⟨tag', htag'⟩ := hsome
    obtain ⟨rfl, -⟩ := tagOf?_eq_some htag'
    have ht' : tag' ∈ (ofSections given').instances other := mem_instances.mpr ⟨_, hq', htag'⟩
    refine List.mem_map.mpr ⟨tag', ht', ?_⟩
    have hname := h.left_unique _ _ _ (htwins tag' ht') htw
    apply String.toList_injective
    simpa using congrArg String.toList hname

/-- An instance of another form is its own twin. -/
theorem twins_self {other tag : String} (ho : other ∉ C.forms) (ht : tagOf? other q = some tag) :
    C.twins q q := by
  refine h.plain q fun form hf => tagOf?_other ht ?_
  rintro rfl
  exact ho hf

/-- The instances of other forms keep their tags. -/
theorem instances_eq {other : String} (ho : other ∉ C.forms) :
    (ofSections given').instances other = (ofSections given).instances other := by
  have hmem : ∀ {g g' : Sections}, (∀ q ∈ g.names, (tagOf? other q).isSome → q ∈ g'.names) →
      ∀ tag, tag ∈ g.names.filterMap (tagOf? other) → tag ∈ g'.names.filterMap (tagOf? other) := by
    intro g g' hsub tag ht
    obtain ⟨q, hq, htag⟩ := List.mem_filterMap.mp ht
    exact List.mem_filterMap.mpr ⟨q, hsub q hq (by simp [htag]), htag⟩
  have hnodup : ∀ g : Sections, (g.names.filterMap (tagOf? other)).Nodup := fun g =>
    (Name.sort_perm _).nodup_iff.mp ((ofSections g).nodup_instances _)
  apply Name.sort_eq_of_perm
  rw [List.perm_ext_iff_of_nodup (hnodup _) (hnodup _)]
  intro tag
  constructor
  · refine hmem (fun q hq ht => ?_) tag
    obtain ⟨tag, ht⟩ := Option.isSome_iff_exists.mp ht
    obtain ⟨r, hr, htw⟩ := h.left_total q hq
    exact h.left_unique _ _ _ htw (h.twins_self ho ht) ▸ hr
  · refine hmem (fun q hq ht => ?_) tag
    obtain ⟨tag, ht⟩ := Option.isSome_iff_exists.mp ht
    obtain ⟨r, hr, htw⟩ := h.right_total q hq
    exact h.right_unique _ _ _ htw (h.twins_self ho ht) ▸ hr

end Matches

end Correspondence

namespace Solver

variable {s t : Solver} {p p' : Point} {f f' : String} {C : Correspondence} {library : Library}
  {given given' : Sections} {requests : List String} {rank : String → ℕ}
  {outcome : Except Signal Value}

/-- A solve over the original sections in which every field was computed. -/
structure Original (C : Correspondence) (library : Library) (rank : String → ℕ)
    (given given' : Sections) (requests : List String) (s : Solver) : Prop where
  stable : library.Stable
  sound : library.Sound rank
  reflected : ∀ form ∈ library.forms, ∀ field ∈ form.fields, C.Reflected form field
  matched : C.Matches library given given'
  /-- A form that takes totals has one instance. -/
  untagged : ∀ q ∈ C.singles, ∀ other, InputStore.tagOf? other q = none
  own : ∀ q name form, library.instantiate q = .ok (name, form) → form.name ∈ C.singles →
    q ∈ C.singles
  requested : ∀ q ∈ requests, C.twins q q
  few : ∀ other ∈ C.forms,
    ((InputStore.ofSections given).instances other).length ≤ Correspondence.mostInstances
  counts : ∀ other ∈ C.forms, ∀ tag ∈ (InputStore.ofSections given).instances other, ∀ base v d,
    s.values.get? (other ++ ":" ++ tag ++ "." ++ base) = some v → v.asDecimal? = some d → C.Counts d
  final : Final library (.ofSections given) requests s
  complete : ∀ f ∈ s.attempted, s.values.has f

/-- Where a solve over the other sections stands: all that it works at and all that it has computed
corresponds to what the original came to. -/
structure Original.Shadows (o : Original C library rank given given' requests s) (p : Point) :
    Prop where
  unprompted : Unprompted library (.ofSections given') requests p
  ranked : Ranked rank p.solver
  attempted : ∀ f' ∈ p.solver.attempted, ∃ f ∈ s.attempted, C.OnTwins f f'
  values : ∀ {n n' q q' base v'}, C.twins q q' → Name.split n = some (q, base) →
    Name.split n' = some (q', base) → p.solver.values.get? n' = some v' →
    ∃ v, s.values.get? n = some v ∧ v.Alike (C.Loose q) v'

theorem Registered.get?_inputSpec {q : String} {name : FormName} {form : Form}
    (h : Registered library ∅ s) (key : String) (hq : q ∈ s.forms)
    (hi : library.instantiate q = .ok (name, form)) :
    s.inputs.spec? (q ++ "." ++ key) =
      form.inputs.findSomeRev? fun input => if input.name = key then some input else none := by
  have hn : q ++ "." ++ key = name.qualify key := by
    rw [FormName.qualify, Library.text_of_instantiate hi]
  have hs : Name.split (name.qualify key) = some (q, key) := Library.split_of_instantiate hi
  rw [InputStore.spec?, h.spec, ← Form.inputAs?_qualify, hn]
  have hempty : (∅ : Name.Table InputSpec)[name.qualify key]? = none := by simp
  rw [hempty, Option.or_none, ← inputSpec?_of_split hi hs]
  apply Option.ext
  intro spec
  rw [h.inputSpec]
  exact and_iff_right ⟨q, key, hs, hq⟩

namespace Original

variable (o : Original C library rank given given' requests s)

include o

theorem given_eq : s.inputs.given = given := o.final.unprompted.given

theorem evaluates (hf : f ∈ s.attempted) :
    ∃ v, s.values.get? f = some v ∧ library.Evaluates s.inputs s.values f (.ok v) := by
  obtain ⟨v, hv⟩ := Option.isSome_iff_exists.mp (o.complete f hf)
  exact ⟨v, hv, (o.final.unprompted.recorded o.stable).committed f v hv⟩

end Original

namespace Original.Shadows

variable {o : Original C library rank given given' requests s}

/-- The evaluation of a field and that of its twin read corresponding inputs and values. -/
theorem mirrors {q q' base : String} {name : FormName} {form : Form} (h : o.Shadows p)
    (hf : f ∈ s.attempted) (hf' : f' ∈ p.solver.attempted) (ht : C.twins q q')
    (hs : Name.split f = some (q, base)) (hs' : Name.split f' = some (q', base))
    (hi : library.instantiate q = .ok (name, form)) :
    C.Mirrors form ⟨⟨q, s.values⟩, s.inputs⟩ ⟨⟨q', p.solver.values⟩, p.solver.inputs⟩ := by
  have hgiven : s.inputs.given = given := o.given_eq
  have hgiven' : p.solver.inputs.given = given' := h.unprompted.given
  have hregs := o.final.unprompted.registered
  have hregp := h.unprompted.registered
  have hinst : ∀ other, s.inputs.instances other = (InputStore.ofSections given).instances other :=
    fun _ => InputStore.instances_of_given hgiven
  have hinst' : ∀ other,
      p.solver.inputs.instances other = (InputStore.ofSections given').instances other :=
    fun _ => InputStore.instances_of_given hgiven'
  obtain ⟨name', hi'⟩ := o.matched.instantiate ht hi
  constructor
  case twins => exact ht
  case points => exact ⟨(Name.split_eq_some_iff.mp hs).2, (Name.split_eq_some_iff.mp hs').2⟩
  case own => exact o.own q name form hi
  case singles =>
    exact fun r hr => ⟨o.matched.plain r fun other _ => o.untagged r hr other, o.untagged r hr⟩
  case inputs =>
    intro key v hk hv
    rw [ValueView.qualify, Name.scopeTo_of_split_none hk] at hv ⊢
    have hspec := hregs.get?_inputSpec key (hregs.mem_forms hf hs) hi
    have hspec' := hregp.get?_inputSpec key (hregp.mem_forms hf' hs') hi'
    have hraw : p.solver.inputs.raw? (q' ++ "." ++ key) = s.inputs.raw? (q ++ "." ++ key) := by
      rw [InputStore.raw?, InputStore.raw?, Name.split_scoped (Name.split_eq_some_iff.mp hs).2,
        Name.split_scoped (Name.split_eq_some_iff.mp hs').2, hgiven, hgiven']
      exact o.matched.entries q q' key ht
    obtain ⟨spec, raw, hknown, hgave, hparse⟩ := InputStore.parse_eq_ok.mp hv
    exact InputStore.parse_eq_ok.mpr
      ⟨spec, raw, hspec'.trans (hspec.symm.trans hknown), hraw.trans hgave, hparse⟩
  case values => exact fun ht hn hn' hv => h.values ht hn hn' hv
  case renamed =>
    intro other ho
    simp only [hinst, hinst']
    exact o.matched.exists_back ho
  case kept =>
    intro other ho
    simp only [hinst, hinst']
    refine ⟨o.matched.instances_eq ho, fun tag htag => ?_⟩
    exact o.matched.twins_self ho (InputStore.tagOf?_of_mem_instances htag).2
  case few =>
    intro other ho
    simpa only [hinst] using o.few other ho
  case amounts =>
    intro other ho tag htag
    simp only [hinst] at htag
    exact o.counts other ho tag htag

end Original.Shadows

end Solver

end TaxReturn
