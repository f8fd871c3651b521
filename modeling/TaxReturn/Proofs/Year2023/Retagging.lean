import TaxReturn.Proofs.Solver.Shadow
import TaxReturn.Proofs.Year2023.Closed
import TaxReturn.Proofs.Year2023.Correspondence
import TaxReturn.Proofs.Year2023.Statements

/-! The tags of statements are names and nothing else. A return that is solved is solved in the same
way when its statements go by other tags, and its lines are the same. The one thing that the order
of the tags can show in is the sign of a zero. -/
namespace TaxReturn

/-- A form and a tag can be put together and come apart again. -/
theorem FormName.parse_tagged {form tag : String} (hf : checkPart .form form = .ok ())
    (ht : checkPart .tag tag = .ok ()) :
    parse (form ++ ":" ++ tag) = .ok ⟨form, some tag⟩ := by
  have hcut : Text.cut ':' (form ++ ":" ++ tag) = some (form, tag) := by
    have hc := Text.cutChars_append (b := tag.toList) (checkPart_separators hf).2
    simp [Text.cut, hc]
  simp [parse, hcut, make, hf, ht, bind, Except.bind, pure, Except.pure]

theorem Sections.get?_eq_none {sections : Sections} {q key : String} (h : q ∉ sections.names) :
    sections.get? q key = none := by
  have hq : sections.table[q]? = none := by
    rw [names, Std.ExtTreeMap.mem_keys] at h
    exact Std.ExtTreeMap.getElem?_eq_none h
  simp [get?, hq]

namespace Year2023

open Solver InputStore Correspondence

variable {ρ : String → String → String} {given given' : Sections} {s t : Solver}
  {C : Correspondence} {requests : List String} {q q' r other tag base : String}

/-- A section under its new name, if it is one of a statement. -/
def retag (ρ : String → String → String) (q : String) : String :=
  match FormName.parse q with
  | .ok ⟨form, some tag⟩ => if form ∈ statements then form ++ ":" ++ ρ form tag else q
  | _ => q

/-- The statements of a return get other tags, which are valid and tell them apart as well, and
nothing else is changed. -/
structure Retags (ρ : String → String → String) (given given' : Sections) : Prop where
  valid : ∀ form ∈ statements, ∀ tag ∈ (ofSections given).instances form,
    FormName.checkPart .tag (ρ form tag) = .ok ()
  injective : ∀ form ∈ statements, ∀ tag ∈ (ofSections given).instances form,
    ∀ tag' ∈ (ofSections given).instances form, ρ form tag = ρ form tag' → tag = tag'
  names : ∀ q', q' ∈ given'.names ↔ ∃ q ∈ given.names, q' = retag ρ q
  entries : ∀ q ∈ given.names, ∀ key, given'.get? (retag ρ q) key = given.get? q key

/-- Whether an amount on a statement is a zero with a minus. -/
def StatesNegativeZero (s : Solver) : Prop :=
  ∃ form ∈ statements, ∃ tag base v d, s.values.get? (form ++ ":" ++ tag ++ "." ++ base) = some v ∧
    v.asDecimal? = some d ∧ d.IsNegativeZero

/-- The zeros of a solution. -/
def printedZeros : List (Option String) := [some "0.00", some "-0.00"]

/-- A solution is the other one with the sections of statements renamed. Only if there are signed
zeros can a zero on the return and its schedules have another sign. -/
structure Relabelled (ρ : String → String → String) (signed : Prop)
    (solution solution' : Solution) : Prop where
  names : ∀ q', q' ∈ solution'.forms.names ↔ ∃ q ∈ solution.forms.names, q' = retag ρ q
  entries : ∀ q ∈ solution.forms.names, ∀ key,
    solution'.get? (retag ρ q) key = solution.get? q key ∨
      signed ∧ q ∈ returnForms ∧ solution.get? q key ∈ printedZeros ∧
        solution'.get? (retag ρ q) key ∈ printedZeros

/-- A section is none of a statement. -/
def Plain (q : String) : Prop := ∀ form ∈ statements, tagOf? form q = none

theorem retag_of_plain (h : Plain q) : retag ρ q = q := by
  unfold retag
  split
  · rename_i form tag hp
    split
    · rename_i hf
      have hnone := h form hf
      simp [tagOf?, hp] at hnone
    · rfl
  · rfl

theorem retag_of_tagOf? (ho : other ∈ statements) (h : tagOf? other q = some tag) :
    retag ρ q = other ++ ":" ++ ρ other tag := by
  obtain ⟨-, hp⟩ := tagOf?_eq_some h
  simp [retag, hp, ho]

theorem plain_or (q : String) : Plain q ∨ ∃ form ∈ statements, ∃ tag, tagOf? form q = some tag := by
  by_cases h : Plain q
  · exact .inl h
  · unfold Plain at h
    push Not at h
    obtain ⟨form, hf, hq⟩ := h
    exact .inr ⟨form, hf, Option.ne_none_iff_exists'.mp hq⟩

namespace Retags

variable (h : Retags ρ given given')

include h

/-- A section of a statement stays one of the same form. -/
theorem tagOf?_retag (ho : other ∈ statements) (hq : q ∈ given.names)
    (ht : tagOf? other q = some tag) : tagOf? other (retag ρ q) = some (ρ other tag) := by
  have hform : FormName.checkPart .form other = .ok () := by
    simp only [statements, List.mem_cons, List.not_mem_nil, or_false] at ho
    rcases ho with rfl | rfl | rfl <;> decide
  have htag := h.valid other ho tag (mem_instances.mpr ⟨q, hq, ht⟩)
  simp [retag_of_tagOf? ho ht, tagOf?, FormName.parse_tagged hform htag]

theorem plain_retag_iff (hq : q ∈ given.names) : Plain (retag ρ q) ↔ Plain q := by
  rcases plain_or q with hp | ⟨form, hf, tag, ht⟩
  · rw [retag_of_plain hp]
  · constructor <;> intro hp
    · have hnone := hp form hf
      rw [h.tagOf?_retag hf hq ht] at hnone
      cases hnone
    · have hnone := hp form hf
      rw [ht] at hnone
      cases hnone

theorem eq_of_retag_eq (hq : q ∈ given.names) (hr : r ∈ given.names)
    (he : retag ρ q = retag ρ r) : q = r := by
  rcases plain_or q with hp | ⟨form, hf, tag, ht⟩
  · have hpr : Plain r := (h.plain_retag_iff hr).mp (he ▸ (h.plain_retag_iff hq).mpr hp)
    rwa [retag_of_plain hp, retag_of_plain hpr] at he
  · rcases plain_or r with hp | ⟨form', hf', tag', ht'⟩
    · have hpq : Plain q := (h.plain_retag_iff hq).mp (he ▸ (h.plain_retag_iff hr).mpr hp)
      have hnone := hpq form hf
      rw [ht] at hnone
      cases hnone
    · have hqt := h.tagOf?_retag hf hq ht
      by_cases hform : form' = form
      · subst hform
        rw [he, h.tagOf?_retag hf' hr ht', Option.some.injEq] at hqt
        have htag := h.injective form' hf' tag' (mem_instances.mpr ⟨r, hr, ht'⟩) tag
          (mem_instances.mpr ⟨q, hq, ht⟩) hqt
        rw [(tagOf?_eq_some ht).1, (tagOf?_eq_some ht').1, htag]
      · have hrt := h.tagOf?_retag hf' hr ht'
        rw [← he, tagOf?_other hqt hform] at hrt
        cases hrt

end Retags

/-- The sections of a return and those with other tags. -/
def retagging (ρ : String → String → String) (given : Sections) (signed : Prop) :
    Correspondence where
  forms := statements
  singles := returnForms
  twins q q' := q' = retag ρ q ∧ (q ∈ given.names ∨ Plain q)
  signed := signed

theorem free_statements : ∀ form ∈ statements,
    ∃ other, library.form? form = some other ∧ other.instancing = .free := by
  simp only [statements, List.forall_mem_cons]
  exact ⟨⟨wageStatement, rfl, rfl⟩, ⟨interestStatement, rfl, rfl⟩, ⟨governmentStatement, rfl, rfl⟩,
    by simp⟩

theorem Retags.matches {signed : Prop} (h : Retags ρ given given') :
    (retagging ρ given signed).Matches library given given' where
  free := free_statements
  plain q hq := ⟨(retag_of_plain hq).symm, .inr hq⟩
  tagged := by
    rintro q q' ⟨rfl, hq⟩ form hf
    by_cases hp : Plain q
    · rw [retag_of_plain hp]
    · have hm := hq.resolve_right hp
      cases ht : tagOf? form q with
      | some tag => rw [h.tagOf?_retag hf hm ht, Option.isSome_some, Option.isSome_some]
      | none =>
        obtain ⟨form', hf', tag', ht'⟩ := (plain_or q).resolve_left hp
        have hne : form ≠ form' := by
          rintro rfl
          rw [ht] at ht'
          cases ht'
        rw [tagOf?_other (h.tagOf?_retag hf' hm ht') hne]
  left_unique := by
    rintro q r q' ⟨rfl, hq⟩ ⟨he, hr⟩
    rcases hq with hq | hq
    · rcases hr with hr | hr
      · exact h.eq_of_retag_eq hq hr he
      · rw [retag_of_plain hr] at he
        have hp : Plain q := (h.plain_retag_iff hq).mp (he ▸ hr)
        rwa [retag_of_plain hp] at he
    · rw [retag_of_plain hq] at he
      rcases hr with hr | hr
      · have hp : Plain r := (h.plain_retag_iff hr).mp (he ▸ hq)
        rwa [retag_of_plain hp] at he
      · rwa [retag_of_plain hr] at he
  right_unique := by
    rintro q q' r' ⟨rfl, -⟩ ⟨rfl, -⟩
    rfl
  left_total q' hq' := by
    obtain ⟨q, hq, rfl⟩ := (h.names q').mp hq'
    exact ⟨q, hq, rfl, .inl hq⟩
  right_total q hq := ⟨_, (h.names _).mpr ⟨q, hq, rfl⟩, rfl, .inl hq⟩
  entries := by
    rintro q q' key ⟨rfl, hq⟩
    by_cases hm : q ∈ given.names
    · exact h.entries q hm key
    · have hp := hq.resolve_left hm
      have hm' : q ∉ given'.names := by
        intro hm'
        obtain ⟨r, hr, he⟩ := (h.names q).mp hm'
        have hpr : Plain r := (h.plain_retag_iff hr).mp (he ▸ hp)
        rw [retag_of_plain hpr] at he
        exact hm (he ▸ hr)
      rw [retag_of_plain hp, Sections.get?_eq_none hm, Sections.get?_eq_none hm']

theorem untagged_returnForms : ∀ q ∈ returnForms, ∀ other, tagOf? other q = none := by
  intro q hq other
  have hparse : FormName.parse q = .ok ⟨q, none⟩ := by
    simp only [returnForms, List.mem_cons, List.not_mem_nil, or_false] at hq
    rcases hq with rfl | rfl | rfl <;> rfl
  simp [tagOf?, hparse]

/-- The return and its schedules have one instance each. -/
theorem mem_returnForms {name : FormName} {form : Form}
    (hi : library.instantiate q = .ok (name, form)) (hf : form.name ∈ returnForms) :
    q ∈ returnForms := by
  obtain ⟨hp, hform, hc⟩ := Library.instantiate_eq_ok hi
  have hname : form.name = name.name := name_of_form? hform
  have hsingle : form.instancing = .single := by
    have hm := Library.mem_forms_of_instantiate hi
    simp only [library, List.mem_cons, List.not_mem_nil, or_false] at hm
    rcases hm with rfl | rfl | rfl | rfl | rfl | rfl | rfl
    case inl | inr.inl | inr.inr.inl => rfl
    all_goals exact absurd hf (by decide)
  have htag : name.tag = none := by
    cases ht : name.tag with
    | none => rfl
    | some tag => simp [Form.checkTag, hsingle, ht] at hc
  have htext := FormName.text_of_parse hp
  rw [FormName.text, htag] at htext
  simp only at htext
  rwa [← htext, ← hname]

/-- Amounts in dollars and cents are all that there are. -/
theorem kind_of_number {form : Form} {field : Field} {d : Decimal} (hf : form ∈ library.forms)
    (hm : field ∈ form.fields) (h : field.kind.holds (.number d)) : field.kind = .decimal 2 := by
  have hall : ∀ form ∈ library.forms, ∀ field ∈ form.fields,
      field.kind.isAmount → field.kind = .decimal 2 ∨ field.kind = .integer := by decide
  have hamount : field.kind.isAmount := by
    cases hk : field.kind <;> rw [hk] at h <;> first | rfl | cases h
  rcases hall form hf field hm hamount with hk | hk
  · exact hk
  · rw [hk] at h
    cases h

section returned

variable (hforms : C.forms = statements) (hsingles : C.singles = returnForms)
  (hm : C.Matches library given given') (hreq : ∀ q ∈ requests, Plain q)
  (hfew : ∀ form ∈ statements, ((ofSections given).instances form).length ≤ mostInstances)
  (h : Session (initial library (.ofSections given) false)
    (adding requests ++ [(.solve, .returned true)]) s)

include h in
theorem final_of_returned : Final library (.ofSections given) requests s := by
  have hfinal := h.final stable_library agreesWith_ofSections errorFree_adding
  rwa [requested_adding] at hfinal

include h in
theorem complete_of_returned : ∀ f ∈ s.attempted, s.values.has f := by
  obtain ⟨u, -, hr⟩ := h.last
  exact (final_of_returned h).solved.mp (hasWork_of_returned hr).2

include hforms hsingles hm hreq hfew h in
/-- A solve of the original return in which every field was computed. -/
theorem original_of_returned (hsigned : StatesNegativeZero s → C.signed) :
    Original C library fieldRank given given' requests s where
  stable := stable_library
  sound := sound_library
  reflected := reflected_library hsingles
  matched := hm
  untagged := hsingles ▸ untagged_returnForms
  own q name form hi hf := hsingles ▸ mem_returnForms hi (hsingles ▸ hf)
  requested q hq := hm.plain q (hforms ▸ hreq q hq)
  few := hforms ▸ hfew
  final := final_of_returned h
  complete := complete_of_returned h
  counts := by
    intro other ho tag ht base v d hv hd
    rw [hforms] at ho
    have hf := final_of_returned h
    have hreg := hf.unprompted.registered
    obtain ⟨hq, htag⟩ := tagOf?_of_mem_instances ht
    obtain ⟨-, hp⟩ := tagOf?_eq_some htag
    have hatt := hf.unprompted.balanced.attempted_of_has (Option.isSome_of_eq_some hv)
    have htaken := hreg.mem_forms hatt (FormName.split_of_parse hp)
    obtain ⟨form, hform⟩ := Name.mem_iff_getElem?.mp htaken
    obtain ⟨name, hi⟩ := hreg.instantiated _ form hform
    have hname : form.name = other := by
      obtain ⟨hp', hf', -⟩ := Library.instantiate_eq_ok hi
      rw [hp] at hp'
      cases hp'
      exact name_of_form? hf'
    have hin := h.inOrder sound_library
    have hcommitted := (hf.unprompted.recorded stable_library).committed
    obtain ⟨hs, hmag⟩ := stated_of_committed hin hcommitted htaken hi (hname ▸ ho) hv hd
    exact ⟨hs, hmag, fun hz => hsigned ⟨other, ho, tag, base, v, d, hv, hd, hz⟩⟩

end returned

/-- The solution of the shadow is that of the original with other names. -/
theorem relabelled_of_shadows {signed : Prop}
    {o : Original (retagging ρ given signed) library fieldRank given given' requests s}
    {o' : Original (retagging ρ given signed).flip library fieldRank given' given requests t}
    (ht : o.Shadows ⟨t, [], none⟩) (hs : o'.Shadows ⟨s, [], none⟩)
    {solution solution' : Solution} (hes : Encodes s solution) (het : Encodes t solution') :
    Relabelled ρ signed solution solution' where
  names := by
    intro q'
    rw [het.sections]
    constructor
    · intro hq'
      obtain ⟨q, hq, rfl, -⟩ := ht.exists_form o'.final hq'
      exact ⟨q, (hes.sections q).mpr hq, rfl⟩
    · rintro ⟨q, hq, rfl⟩
      obtain ⟨q', hq', rfl, -⟩ := hs.exists_form o.final ((hes.sections q).mp hq)
      exact hq'
  entries := by
    intro q hq key
    have hq := (hes.sections q).mp hq
    obtain ⟨q', hq', htwins⟩ := hs.exists_form o.final hq
    obtain rfl : q' = retag ρ q := htwins.1
    -- The one shadow shows that the other solution has no more lines, and the other one that it
    -- has no fewer.
    cases htext : solution'.get? (retag ρ q) key with
    | none =>
      left
      cases htext' : solution.get? q key with
      | none => rfl
      | some text =>
        obtain ⟨_, _, _, _, _, _, _, _, hsome, -⟩ := hs.exists_text het hes htwins hq' htext'
        rw [htext] at hsome
        cases hsome
    | some text' =>
      obtain ⟨form, hf, field, hm, v, v', hholds, halike, hsome, rfl⟩ :=
        ht.exists_text hes het htwins hq htext
      rw [hsome]
      cases halike with
      | same => exact .inl rfl
      | @number d e hv hde =>
        subst hv
        have hkind := kind_of_number hf hm hholds
        have hencode := (Value.Alike.number rfl hde).encode
        simp only [Field.encode, hkind]
        rcases hencode with he | ⟨hloose, hz, hz'⟩
        · exact .inl (by rw [he])
        · have hzeros : ∀ {text}, text ∈ ["0.00", "-0.00"] → some text ∈ printedZeros := by
            intro text hz
            simpa [printedZeros] using hz
          exact .inr ⟨hloose.1, hloose.2, hzeros hz, hzeros hz'⟩

/-- What was computed for a statement goes with it under its new name. -/
theorem get?_retag {signed : Prop} {v : Value} (q r base : String)
    {o' : Original (retagging ρ given signed).flip library fieldRank given' given requests t}
    (hs : o'.Shadows ⟨s, [], none⟩) (hq : q ∈ given.names) (hr : r = retag ρ q)
    (hret : r ∉ returnForms) (hsplit : Name.split (q ++ "." ++ base) = some (q, base))
    (hsplit' : Name.split (r ++ "." ++ base) = some (r, base))
    (hv : s.values.get? (q ++ "." ++ base) = some v) :
    t.values.get? (r ++ "." ++ base) = some v := by
  obtain ⟨w, hw, hwv⟩ := hs.values ⟨hr, .inl hq⟩ hsplit' hsplit hv
  rw [hw, hwv.eq fun hl => hret hl.2]

/-- The lines that hold the wages, in the order of the tags. -/
def wageLines (given : Sections) : List String :=
  ((ofSections given).instances "w-2").map fun tag => "w-2" ++ ":" ++ tag ++ "." ++ "wages"

/-- Line 1a of a return that is solved is the sum of the wages. -/
theorem wages_of_returned (amount : String → Decimal) (total : Decimal)
    (h : Session (initial library (.ofSections given) false)
      (adding requests ++ [(.solve, .returned true)]) s) (hreq : "1040" ∈ requests)
    (hwages : ∀ f ∈ wageLines given, s.values.get? f = some (.number (amount f)))
    (htotal : Decimal.sum? 0 ((wageLines given).map amount) = some total) :
    ∃ solution, s.solution = .ok solution ∧ solution.get? "1040" "1a" =
      some ((Line.totalOf "1a" "w-2" "wages").encode (.number (total.fixPlaces 2))) := by
  have hf := final_of_returned h
  have hreg := hf.unprompted.registered
  have hi : library.instantiate "1040" = .ok (⟨"1040", none⟩, individualReturn) := rfl
  have hsplit : Name.split "1040.1a" = some ("1040", "1a") := by decide
  have hfield : individualReturn.field? "1a" = some (Line.totalOf "1a" "w-2" "wages") := rfl
  have htaken := hf.requested "1040" hreq
  have hatt : "1040.1a" ∈ s.attempted := hreg.attempted_of_required hi htaken (by decide)
  obtain ⟨v, hv⟩ := Option.isSome_iff_exists.mp (complete_of_returned h _ hatt)
  have he := (hf.unprompted.recorded stable_library).committed _ v hv
  rw [Library.evaluates_iff hsplit hi hfield] at he
  obtain ⟨w, hw, hk⟩ := Field.evaluate_eq_ok.mp he
  obtain ⟨d, hsum, hw⟩ := Compute.bind_eq_ok.mp hw
  cases hw
  cases hk
  have hlines : ∀ f ∈ wageLines given,
      Compute.line f ⟨⟨"1040", s.values⟩, s.inputs⟩ = .ok (amount f) := by
    intro f hf
    obtain ⟨tag, -, rfl⟩ := List.mem_map.mp hf
    refine Compute.bind_eq_ok.mpr ⟨.number _, ValueStore.get_eq_ok.mpr ?_, rfl⟩
    rw [Compute.qualify_instance]
    exact hwages _ hf
  have hsum : Compute.sumLines ("w-2" ++ "." ++ "wages" ++ " total") 0 (wageLines given)
      ⟨⟨"1040", s.values⟩, s.inputs⟩ = .ok d := by
    rw [wageLines, ← instances_of_given (a := ofSections given) (b := s.inputs) hf.unprompted.given]
    exact hsum
  rw [Compute.sumLines_eq_ok hlines, htotal] at hsum
  cases hsum
  obtain ⟨solution, hsolution, hes⟩ := hf.exists_solution
  refine ⟨solution, hsolution, (hes.entries _ _ _).mpr ⟨_, _, hv, ?_, rfl⟩⟩
  exact hreg.field?_eq_some_iff.mpr
    ⟨"1a", _, hsplit, hreg.getElem?_forms.mpr ⟨htaken, _, hi⟩, hfield⟩

/-- A return that is solved and the one with other tags stay in each other's shadow. -/
theorem exists_shadows (hρ : Retags ρ given given') (hlen : given.names.length ≤ mostInstances)
    (hreq : ∀ q ∈ requests, Plain q)
    (h : Session (initial library (.ofSections given) false)
      (adding requests ++ [(.solve, .returned true)]) s) :
    (∃ t, Session (initial library (.ofSections given') false)
      (adding requests ++ [(.solve, .returned true)]) t) ∧
    ∀ reply t, Session (initial library (.ofSections given') false)
        (adding requests ++ [(.solve, reply)]) t →
      reply = .returned true ∧
      ∃ (o : Original (retagging ρ given (StatesNegativeZero s)) library fieldRank given given'
          requests s)
        (o' : Original (retagging ρ given (StatesNegativeZero s)).flip library fieldRank given'
          given requests t), o.Shadows ⟨t, [], none⟩ ∧ o'.Shadows ⟨s, [], none⟩ := by
  have hm : (retagging ρ given (StatesNegativeZero s)).Matches library given given' := hρ.matches
  have hfew : ∀ form ∈ statements, ((ofSections given).instances form).length ≤ mostInstances :=
    fun _ _ => ((ofSections given).length_instances_le _).trans hlen
  have hfew' : ∀ form ∈ statements,
      ((ofSections given').instances form).length ≤ mostInstances := by
    intro form hf
    obtain ⟨back, -, hperm⟩ := hm.exists_back hf
    rw [← List.length_map (f := back), hperm.length_eq]
    exact hfew form hf
  -- The other return is solved as well, and so it can be the original in its turn.
  have o := original_of_returned rfl rfl hm hreq hfew h id
  refine ⟨o.exists_session, fun reply t ht => ?_⟩
  obtain ⟨rfl, hshadow, -⟩ := o.shadows_session ht
  have o' := original_of_returned rfl rfl hm.flip hreq hfew' ht fun _ => trivial
  obtain ⟨-, hshadow', -⟩ := o'.shadows_session h
  exact ⟨rfl, o, o', hshadow, hshadow'⟩

/-- If a return is solved that nobody is asked about, then it is also solved when its statements go
by other tags, and the solution is the same but for their names. If an amount on a statement is a
negative zero, however, a zero on the return and its schedules may come out with either sign. -/
theorem solve_retagged (hρ : Retags ρ given given') (hlen : given.names.length ≤ 1000000000)
    (hreq : ∀ q ∈ requests, ∀ form ∈ statements, tagOf? form q = none)
    (h : Session (initial library (.ofSections given) false)
      (adding requests ++ [(.solve, .returned true)]) s) :
    (∃ t, Session (initial library (.ofSections given') false)
      (adding requests ++ [(.solve, .returned true)]) t) ∧
    ∀ reply t, Session (initial library (.ofSections given') false)
        (adding requests ++ [(.solve, reply)]) t →
      reply = .returned true ∧ ∃ solution solution', s.solution = .ok solution ∧
        t.solution = .ok solution' ∧ Relabelled ρ (StatesNegativeZero s) solution solution' := by
  obtain ⟨hex, hall⟩ := exists_shadows hρ hlen hreq h
  refine ⟨hex, fun reply t ht => ?_⟩
  obtain ⟨rfl, o, o', hshadow, hshadow'⟩ := hall reply t ht
  obtain ⟨solution, hsol, hes⟩ := o.final.exists_solution
  obtain ⟨solution', hsol', het⟩ := o'.final.exists_solution
  exact ⟨rfl, solution, solution', hsol, hsol', relabelled_of_shadows hshadow hshadow' hes het⟩

/-- A return with two W-2s that state zeros, of which one has a minus. Its tag is open. -/
def voided (tag : String) : Sections :=
  [("1040", "first_name", "A"), ("1040", "last_name", "B"), ("1040", "ssn", "123-45-6789"),
    ("1040", "filing_status", "single"), ("1040", "virtual_currency", "no"),
    ("1040", "itemize", "no"), ("1040", "dependents", "0"),
    ("1040_s1", "mortgage_interest_refund", "0"), ("1040_s1", "alimony_paid", "0"),
    ("1040_s1", "other_adjustments", "0"), ("w-2:" ++ tag, "box_1", "-0"),
    ("w-2:" ++ tag, "box_2", "0"), ("w-2:b", "box_1", "0"), ("w-2:b", "box_2", "0")].foldl
    (fun given entry => given.set entry.1 entry.2.1 entry.2.2) .empty

/-- The statement that stood first comes to stand last. -/
def moveBack (_form tag : String) : String := if tag = "a" then "c" else tag

theorem names_voided : (voided "a").names = ["1040", "1040_s1", "w-2:a", "w-2:b"] ∧
    (voided "c").names = ["1040", "1040_s1", "w-2:b", "w-2:c"] := by
  decide +kernel

theorem retag_voided :
    retag moveBack "w-2:a" = "w-2:c" ∧ retag moveBack "w-2:b" = "w-2:b" := by
  decide +kernel

theorem retags_voided : Retags moveBack (voided "a") (voided "c") := by
  obtain ⟨hnames, hnames'⟩ := names_voided
  have hplain : retag moveBack "1040" = "1040" ∧ retag moveBack "1040_s1" = "1040_s1" := by
    decide +kernel
  constructor
  case valid => decide +kernel
  case injective => decide +kernel
  case names =>
    intro q'
    simp only [hnames, hnames', List.mem_cons, List.not_mem_nil, or_false, or_and_right, exists_or,
      exists_eq_left, hplain, retag_voided]
    tauto
  case entries =>
    intro q hq key
    simp only [hnames, List.mem_cons, List.not_mem_nil, or_false] at hq
    have hempty : ∀ q, Sections.empty.get? q key = none := by simp [Sections.empty, Sections.get?]
    rcases hq with rfl | rfl | rfl | rfl <;>
      simp [hplain, retag_voided, voided, Sections.get?_set, hempty]

/-- No amount, with a minus or without. -/
def zeroOf (negative : Bool) : Decimal := ⟨negative, 0, 2, Decimal.limit_pos⟩

set_option maxRecDepth 100000 in
theorem exists_solved_voided : ∃ s, Session (initial library (.ofSections (voided "a")) false)
    (adding ["1040"] ++ [(.solve, .returned true)]) s ∧
    [s.values.get? "w-2:a.wages", s.values.get? "w-2:b.wages"] =
      [some (.number (zeroOf true)), some (.number (zeroOf false))] :=
  exists_session _ (fun _ => none) 400 _
    (fun s => [s.values.get? "w-2:a.wages", s.values.get? "w-2:b.wages"]) _ (by decide +kernel)

/-- The total of the wages has the minus if the statement that states it is added last. -/
theorem zero_retagged : Retags moveBack (voided "a") (voided "c") ∧
    (voided "a").names.length ≤ 1000000000 ∧ ∃ s t solution solution',
      Session (initial library (.ofSections (voided "a")) false)
        (adding ["1040"] ++ [(.solve, .returned true)]) s ∧
      Session (initial library (.ofSections (voided "c")) false)
        (adding ["1040"] ++ [(.solve, .returned true)]) t ∧
      s.solution = .ok solution ∧ t.solution = .ok solution' ∧
      solution.get? "1040" "1a" = some "0.00" ∧ solution'.get? "1040" "1a" = some "-0.00" := by
  obtain ⟨hnames, -⟩ := names_voided
  obtain ⟨hlast, hfirst⟩ := retag_voided
  have hlen : (voided "a").names.length ≤ 1000000000 := by simp [hnames]
  have hplain : ∀ q ∈ ["1040"], ∀ form ∈ statements, tagOf? form q = none := by decide +kernel
  have hlines : wageLines (voided "a") = ["w-2:a.wages", "w-2:b.wages"] := by decide +kernel
  have hlines' : wageLines (voided "c") = ["w-2:b.wages", "w-2:c.wages"] := by decide +kernel
  obtain ⟨s, hs, hlook⟩ := exists_solved_voided
  obtain ⟨⟨t, ht⟩, hall⟩ := exists_shadows retags_voided hlen hplain hs
  obtain ⟨-, o, o', -, hshadow⟩ := hall _ t ht
  simp only [List.cons.injEq, and_true] at hlook
  obtain ⟨ha, hb⟩ := hlook
  have hb' : t.values.get? "w-2:b.wages" = some (.number (zeroOf false)) :=
    get?_retag "w-2:b" "w-2:b" "wages" hshadow (by simp [hnames]) hfirst.symm (by decide)
      (by decide) (by decide) hb
  have hc' : t.values.get? "w-2:c.wages" = some (.number (zeroOf true)) :=
    get?_retag "w-2:a" "w-2:c" "wages" hshadow (by simp [hnames]) hlast.symm (by decide)
      (by decide) (by decide) ha
  obtain ⟨solution, hsolution, htext⟩ := wages_of_returned (fun f => zeroOf (f = "w-2:a.wages"))
    (zeroOf false) hs (by simp) (by simp [hlines, ha, hb]) (by simp only [hlines]; decide)
  obtain ⟨solution', hsolution', htext'⟩ := wages_of_returned
    (fun f => zeroOf (f = "w-2:c.wages")) (zeroOf true) ht (by simp) (by simp [hlines', hb', hc'])
    (by simp only [hlines']; decide)
  exact ⟨retags_voided, hlen, s, t, solution, solution', hs, ht, hsolution, hsolution',
    htext.trans (by decide), htext'.trans (by decide)⟩

/-- Both returns are solved, and their solutions differ in names and the sign of zeros alone. -/
theorem solve_retagged_voided : ∃ s t solution solution',
    Session (initial library (.ofSections (voided "a")) false)
      (adding ["1040"] ++ [(.solve, .returned true)]) s ∧
    Session (initial library (.ofSections (voided "c")) false)
      (adding ["1040"] ++ [(.solve, .returned true)]) t ∧
    s.solution = .ok solution ∧ t.solution = .ok solution' ∧
    Relabelled moveBack (StatesNegativeZero s) solution solution' := by
  obtain ⟨s, hs, -⟩ := exists_solved_voided
  have hlen : (voided "a").names.length ≤ 1000000000 := by simp [names_voided]
  obtain ⟨⟨t, ht⟩, hall⟩ := solve_retagged retags_voided hlen (by decide +kernel) hs
  obtain ⟨-, solution, solution', hsolution, hsolution', hr⟩ := hall _ t ht
  exact ⟨s, t, solution, solution', hs, ht, hsolution, hsolution', hr⟩

end Year2023

end TaxReturn
