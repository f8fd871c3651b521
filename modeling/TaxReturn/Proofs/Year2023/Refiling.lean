import TaxReturn.Proofs.Solver.Passable
import TaxReturn.Proofs.Year2023.Answers

/-! Filing what was given and answered. A session that is answered ends as one does that has all
these inputs from the start, if the total over the forms 8889 is up to date when it ends. It is the
only value that need not be, and it is where the forms that are asked for have their sections. -/
namespace TaxReturn

namespace Solver

variable {s t : Solver} {library : Library} {f q : String}

/-- What is committed for a field is what its value function returns over what is given and
committed. -/
def UpToDate (s : Solver) (f : String) : Prop :=
  ∀ v, s.values.get? f = some v → s.Yields f (.ok v)

/-- What its value function returns for a field over what is given and committed. -/
def value? (s : Solver) (f : String) : Option Value := do
  let (q, field) ← s.field? f
  (field.evaluate f ⟨⟨q, s.values⟩, s.inputs⟩).toOption

theorem yields_ok_iff {v : Value} : s.Yields f (.ok v) ↔ s.value? f = some v := by
  simp [Yields, value?, Option.bind_eq_some_iff, toOption_eq_some_iff]

theorem upToDate_iff :
    s.UpToDate f ↔ s.values.get? f = none ∨ s.values.get? f = s.value? f := by
  unfold UpToDate
  cases s.values.get? f with
  | none => simp
  | some v => simp [yields_ok_iff, eq_comm]

instance : Decidable (s.UpToDate f) := decidable_of_iff _ upToDate_iff.symm

/-- What a solver knows is known by one that starts with its inputs. -/
theorem Registered.again (h : Registered library ∅ s) : Registered library s.inputs.specs s where
  source := h.source
  instantiated := h.instantiated
  required := h.required
  attempted := h.attempted
  entry := h.entry
  inputSpec := h.inputSpec
  spec n := by
    have hspec := h.spec n
    simp only [Std.ExtTreeMap.getElem?_empty, Option.or_none] at hspec
    rw [hspec]
    simp

theorem encodeInto_congr (hf : t.fields = s.fields) {values : List (String × Value)}
    {solution : Solution} : t.encodeInto solution values = s.encodeInto solution values := by
  have hfield : ∀ name, t.field? name = s.field? name := by
    intro name
    simp only [field?, hf]
  induction values generalizing solution with
  | nil => rfl
  | cons p rest ih => simp only [encodeInto, hfield, ih]

/-- Of two solvers over one library the forms and values make the solution. -/
theorem Registered.solution_eq {known known' : Name.Table InputSpec}
    (hs : Registered library known s) (ht : Registered library known' t)
    (hf : t.forms = s.forms) (hv : t.values = s.values) : t.solution = s.solution := by
  have hd : t.fields = s.fields := hs.fields_eq ht fun q => by rw [hf]
  simp only [solution, encodeInto_congr hd, hf, hv]

end Solver

namespace Year2023

open Solver

variable {s t : Solver} {p p' : Point} {f d q name : String} {given : Sections}
  {requests fixed : List String} {calls : List (Call × Reply)} {b b' : Bool}

theorem prepared_statements : Prepared given requests statements := fun _ _ _ hf _ => .inr hf

/-- An answered session at the end of a solve, with nothing refused. -/
structure Settled (given : Sections) (requests : List String) (s : Solver) : Prop where
  answered : Answered given requests statements ⟨s, [], none⟩
  hasWork : s.hasWork = false
  refused : s.refused = false
  requested : ∀ q ∈ requests, q ∈ s.forms

theorem settled_session
    (h : Session (initial library (.ofSections given) true) (calls ++ [(.solve, .returned b)]) s)
    (hok : ErrorFree calls) (hr : s.refused = false) : Settled given (requested calls) s := by
  have hall := errorFree_concat_returned (b := b) hok
  have hreq : requested (calls ++ [(.solve, .returned b)]) = requested calls :=
    requested_concat_solve
  have ha := answered_session prepared_statements h hall
  obtain ⟨u, -, hu⟩ := h.last
  rw [hreq] at ha
  exact ⟨ha, (hasWork_of_returned hu).1, hr, fun q hq => h.mem_forms hall (hreq ▸ hq)⟩

namespace Settled

variable (h : Settled given requests s)

include h

theorem agreesWith : s.inputs.AgreesWith library := by
  have hreg : Registered library (InputStore.ofSections given).specs s := h.answered.registered
  exact hreg.agreesWith InputStore.agreesWith_ofSections

/-- All values but the one total are up to date. -/
theorem upToDate (hf : f ≠ deductionTotal) : UpToDate s f := by
  intro v hv
  have hatt : f ∈ s.attempted := h.answered.balanced.attempted_of_has (by simp [ValueStore.has, hv])
  refine h.answered.registered.yields hatt ?_
  exact h.answered.lasting.evaluates (fun _ hs => hs) hatt (.inl hf)
    (h.answered.traces.committed f v hv) (by rintro ⟨⟩)

variable (hu : UpToDate s deductionTotal)

include hu

theorem evaluates {v : Value} (hv : s.values.get? f = some v) :
    library.Evaluates s.inputs s.values f (.ok v) := by
  apply h.answered.registered.evaluates
  by_cases hf : f = deductionTotal
  · subst hf
    exact hu v hv
  · exact h.upToDate hf v hv

theorem outcomes : ∀ f ∈ s.attempted, ∃ outcome, Outcome s f outcome ∧
    library.Evaluates s.inputs s.values f outcome :=
  h.answered.outcomes (fun _ hs => hs) h.hasWork h.refused fun _ hv => h.evaluates hu hv

theorem closed : Closed library requests s.inputs (· ∈ s.attempted) s.values :=
  closed_of_outcomes stable_library h.answered.registered h.answered.balanced
    (fun f d hw => (h.answered.traces.waiting f d hw).1) (h.outcomes hu) h.requested

/-- A session over the inputs in the end can be carried through. -/
theorem passable : Passable library s.inputs requests s s.values fieldRank where
  registered := h.answered.registered.again
  given := rfl
  requested := h.requested
  closed := h.closed hu
  rank _ _ _ _ := rank_of_unmet
  fatal := by
    intro p hp hg hb f hf e he
    have hfs : f ∈ s.attempted := hb.attempted f hf
    have hc : p.inputs.Carries ("8889" :: statements) s.inputs :=
      InputStore.carries_of_given hg.symm
    rcases carries_of_evaluates he (fun q base hs => ⟨hp.knows (hp.mem_forms hf hs),
        h.answered.registered.knows (h.answered.registered.mem_forms hfs hs)⟩)
        (fun form hm => List.mem_cons_of_mem _ hm) (.inr List.mem_cons_self) hc hb.values
      with he | ho
    · obtain ⟨outcome, ho, he'⟩ := h.outcomes hu f hfs
      obtain rfl := he'.unique he
      cases ho
    · cases ho

omit hu

variable
  (ht : Session (initial library s.inputs false) (adding requests ++ [(.solve, .returned b)]) t)

include ht

theorem final : Final library s.inputs requests t := by
  have hfin := ht.final stable_library h.agreesWith errorFree_adding
  rwa [requested_adding] at hfin

theorem given_eq : t.inputs.given = s.inputs.given := (h.final ht).unprompted.given

include hu

/-- The session attempts and commits no more than was attempted and committed. -/
theorem below : Below (· ∈ s.attempted) s.values t := by
  have hreg := h.answered.registered
  have hreq : Solver.requested (adding requests ++ [(.solve, .returned b)]) = requests := by
    rw [requested_concat_solve, requested_adding]
  refine ht.stays_below stable_library h.agreesWith (errorFree_concat_returned errorFree_adding)
    hreg.again rfl (hreq.symm ▸ h.closed hu) fun p hp hb _ q hq => ?_
  rcases hp.reasoned q hq with hr | ⟨f, hf, base, hs⟩
  · exact h.requested q (hreq ▸ hr)
  · exact hreg.mem_forms (hb.attempted f hf) hs

theorem within : t.inputs.Within s.inputs := by
  have hreg := h.answered.registered
  refine (h.final ht).unprompted.registered.within hreg.again h.agreesWith
    (h.given_eq ht).symm fun q hq => ?_
  rcases (h.final ht).mem_forms_iff.mp hq with hr | ⟨f, hf, base, hs⟩
  · exact h.requested q hr
  · exact hreg.mem_forms ((h.below hu ht).attempted f hf) hs

/-- It commits what was committed for the fields that it attempts. Where it stopped at one of these,
it stopped at one of a lower rank. -/
theorem get?_eq_some {v : Value} (hf : f ∈ t.attempted) (hv : s.values.get? f = some v) :
    t.values.get? f = some v := by
  have hbelow := h.below hu ht
  have hin := h.within hu ht
  induction hn : fieldRank f using Nat.strong_induction_on generalizing f v with
  | h n ih =>
    have hes := h.evaluates hu hv
    obtain ⟨outcome, ho, he⟩ :=
      (h.final ht).unprompted.exists_outcome stable_library (h.final ht).hasWork hf
    cases ho with
    | committed hw =>
      have hes' := he.value stable_library hin hbelow.values
      cases hes.unique hes'
      exact hw
    | lacking hw =>
      exact absurd (hes.unique (he.missingInput stable_library hin hbelow.values)) (by simp)
    | left hw =>
      exact absurd (hes.unique (he.notImplemented stable_library hin hbelow.values)) (by simp)
    | @waiting d hw =>
      cases hd : s.values.get? d with
      | none => exact absurd (hes.unique (he.unmet stable_library hin hbelow.values hd)) (by simp)
      | some w =>
        have hatt := ((h.final ht).unprompted.traces.waiting f d hw).1
        have hdt := ih _ (hn ▸ rank_of_unmet he) hatt hd rfl
        rw [he.absent stable_library] at hdt
        cases hdt

/-- What a field needed on the way is attempted by the session, if the field is. -/
theorem attempted_of_unmet (hp : Answered given requests statements p)
    (hc : p.solver.inputs.Carries statements s.inputs) (hv : p.solver.values ≤ s.values)
    (hD : ∀ f ∈ p.solver.attempted, f ∈ t.attempted) (hn : name ∈ p.solver.attempted)
    (he : library.Evaluates p.solver.inputs p.solver.values name (.error (.unmet d))) :
    d ∈ t.attempted := by
  have hfin := h.final ht
  have hreg := hfin.unprompted.registered
  have hle : p.solver.values ≤ t.values := fun f v hf => by
    have hfp : f ∈ p.solver.attempted := hp.balanced.attempted_of_has (by simp [ValueStore.has, hf])
    exact h.get?_eq_some hu ht (hD f hfp) (hv f v hf)
  have hct : ∀ fixed, s.inputs.Carries fixed t.inputs := fun _ =>
    InputStore.carries_of_given (h.given_eq ht)
  by_cases hname : name = deductionTotal
  · -- The total is committed in the end, so all that it might have stopped at is.
    subst hname
    obtain ⟨tag, htag, rfl⟩ := exists_deductionOf he
    have hns : deductionTotal ∈ s.attempted := (h.below hu ht).attempted _ (hD _ hn)
    obtain ⟨v, hvs⟩ := Option.isSome_iff_exists.mp
      (h.answered.has_of_deducts h.hasWork h.refused hns .total)
    have hvt := h.get?_eq_some hu ht (hD _ hn) hvs
    have htag' := (hct statements).mem_instances (hc.mem_instances htag)
    exact hfin.unprompted.balanced.attempted_of_has
      (has_deductionOf ((hfin.unprompted.recorded stable_library).committed _ v hvt) htag')
  · have hcarried : library.Evaluates t.inputs p.solver.values name (.error (.unmet d)) ∨
        Overtaken t.inputs p.solver.values (.error (.unmet d) : Except Signal Value) :=
      carries_of_evaluates he
        (fun q base hs => ⟨hp.registered.knows (hp.registered.mem_forms hn hs),
          hreg.knows (hreg.mem_forms (hD name hn) hs)⟩)
        (fun _ hs => hs) (.inl hname) (hc.trans (hct statements)) (ValueStore.le_refl _)
    rcases hcarried with he' | ho
    · exact ((hfin.closed stable_library).demanded name _ d (hD name hn) hle he').1
    · have habsent := he.absent stable_library
      cases ho with
      | value hd => simp [ValueStore.has, habsent] at hd

theorem attempted_step (hp : Answered given requests statements p) (hs : Step p p')
    (hD : p.solver.inputs.Carries statements s.inputs → p.solver.values ≤ s.values →
      ∀ f ∈ p.solver.attempted, f ∈ t.attempted)
    (hc : p'.solver.inputs.Carries statements s.inputs) (hv : p'.solver.values ≤ s.values) :
    ∀ f ∈ p'.solver.attempted, f ∈ t.attempted := by
  have hcp := (hp.lasting.carries_step hs).trans hc
  have hvp := ValueStore.le_trans (values_step hs) hv
  have hDp := hD hcp hvp
  have hreg := (h.final ht).unprompted.registered
  cases hs with
  | @wait s' t' hand name dep hv hy hd hw =>
    have hn : name ∈ s'.attempted := hp.balanced.attempted_current
    have hdep := h.attempted_of_unmet hu ht hp hcp hvp hDp hn (hp.registered.evaluates hy)
    have hl : (s'.log name).library = library := hp.registered.source
    exact hd.within hDp hdep fun q base name form hs hi f hf =>
      hreg.attempted_of_required (hl ▸ hi) (hreg.mem_forms hdep hs) hf
  | _ => exact hDp

/-- The session attempts everything that was attempted. -/
theorem attempted_of_session (hok : ErrorFree calls) (hreq : Solver.requested calls = requests)
    (hs : Session (initial library (.ofSections given) true) calls s) :
    ∀ f ∈ s.attempted, f ∈ t.attempted := by
  subst hreq
  have hreg := (h.final ht).unprompted.registered
  obtain ⟨lost, ⟨-, hD⟩, -⟩ := hs.induction
    (I := fun p => Answered given (Solver.requested calls) statements p ∧
      (p.solver.inputs.Carries statements s.inputs → p.solver.values ≤ s.values →
        ∀ f ∈ p.solver.attempted, f ∈ t.attempted))
    ⟨answered_initial, fun _ _ => by simp [initial]⟩
    (fun u u' q lost hq hp ha => ⟨answered_addForm prepared_statements hp.1 ha hq, by
      obtain ⟨name, form, hi, ⟨-, rfl⟩ | ⟨-, rfl⟩⟩ := addForm_eq_ok ha
      · exact hp.2
      · have hg := takeUp_grows u name form
        intro hc hv f hf
        rcases (hg.attempted f).mp hf with hf | hf
        · exact hp.2 ((InputStore.carries_of_given hg.given).trans hc)
            (fun f v hfv => hv f v (hg.values ▸ hfv)) f hf
        · have hl : u.library = library := hp.1.registered.source
          exact hreg.attempted_of_required (hl ▸ hi) ((h.final ht).requested q hq) hf⟩)
    (fun p p' hp hs => ⟨answered_step hp.1 hs, h.attempted_step hu ht hp.1 hs hp.2⟩)
    (fun _ _ hp _ => ⟨hp.1.finish, hp.2⟩) (.inl hok)
  exact hD .refl (ValueStore.le_refl _)

end Settled

/-- A session over the inputs that a solver has in the end, without questions, returns the same from
a solve of the same forms and ends with the same solution; there is such a session, and none of them
ends in another way. -/
def Refiles (s : Solver) (requests : List String) (b : Bool) : Prop :=
  (∃ t, Session (initial library s.inputs false) (adding requests ++ [(.solve, .returned b)]) t) ∧
  ∀ reply t, Session (initial library s.inputs false) (adding requests ++ [(.solve, reply)]) t →
    reply = .returned b ∧ t.values = s.values ∧ t.forms = s.forms ∧ t.solution = s.solution

theorem refiles_of_upToDate
    (h : Session (initial library (.ofSections given) true) (calls ++ [(.solve, .returned b)]) s)
    (hok : ErrorFree calls) (hr : s.refused = false) (hu : UpToDate s deductionTotal) :
    Refiles s (requested calls) b := by
  have hs := settled_session h hok hr
  have hsolved : b = true ↔ ∀ f ∈ s.attempted, s.values.has f := by
    obtain ⟨u, hu, hreply⟩ := h.last
    exact solved_iff_of_returned (answered_session prepared_statements hu hok).balanced hreply
  have hsame : ∀ b' t, Session (initial library s.inputs false)
      (adding (requested calls) ++ [(.solve, .returned b')]) t →
      b' = b ∧ t.values = s.values ∧ t.forms = s.forms := by
    intro b' t ht
    have hfin := hs.final ht
    have hbelow := hs.below hu ht
    have hatt := hs.attempted_of_session hu ht (errorFree_concat_returned hok)
      requested_concat_solve h
    have hattempted : t.attempted = s.attempted :=
      Std.ExtTreeSet.ext_mem fun f => ⟨hbelow.attempted f, hatt f⟩
    have hvalues : t.values = s.values := ValueStore.le_antisymm hbelow.values fun f v hv =>
      hs.get?_eq_some hu ht
        (hatt f (hs.answered.balanced.attempted_of_has (by simp [ValueStore.has, hv]))) hv
    refine ⟨?_, hvalues, ?_⟩
    · obtain ⟨u, -, hreply⟩ := ht.last
      rw [Bool.eq_iff_iff, ← (hasWork_of_returned hreply).2, hfin.solved, hsolved, hattempted,
        hvalues]
    · have hreg := hs.answered.registered
      refine hreg.forms_eq hfin.unprompted.registered fun q => ?_
      rw [hfin.mem_forms_iff, hattempted]
      constructor
      · rintro (hq | ⟨f, hf, base, hsplit⟩)
        · exact hs.requested q hq
        · exact hreg.mem_forms hf hsplit
      · exact hs.answered.reasoned q
  have hpass := hs.passable hu
  have hagree := hs.agreesWith
  constructor
  · obtain ⟨b', t, ht⟩ := hpass.exists_session stable_library hagree
    obtain ⟨rfl, -⟩ := hsame b' t ht
    exact ⟨t, ht⟩
  · intro reply t ht
    obtain ⟨b', rfl⟩ := hpass.exists_eq_returned stable_library hagree ht
    obtain ⟨rfl, hvalues, hforms⟩ := hsame b' t ht
    exact ⟨rfl, hvalues, hforms,
      hs.answered.registered.solution_eq ht.registered hforms hvalues⟩

theorem upToDate_of_refiles (hs : Settled given requests s) (h : Refiles s requests b) :
    UpToDate s deductionTotal := by
  obtain ⟨⟨t, ht⟩, hsame⟩ := h
  obtain ⟨-, hvalues, hforms, -⟩ := hsame _ t ht
  have hfin := hs.final ht
  have hregs := hs.answered.registered
  have hregt := hfin.unprompted.registered
  intro v hv
  have hatts : deductionTotal ∈ s.attempted :=
    hs.answered.balanced.attempted_of_has (by simp [ValueStore.has, hv])
  have hvt : t.values.get? deductionTotal = some v := hvalues ▸ hv
  have hattt : deductionTotal ∈ t.attempted :=
    hfin.unprompted.balanced.attempted_of_has (by simp [ValueStore.has, hvt])
  refine hregs.yields hatts ?_
  have hc : t.inputs.Carries ("8889" :: statements) s.inputs :=
    InputStore.carries_of_given (hs.given_eq ht).symm
  refine (carries_of_evaluates ((hfin.unprompted.recorded stable_library).committed _ v hvt)
    (fun q base hsplit => ⟨hregt.knows (hregt.mem_forms hattt hsplit),
      hregs.knows (hregs.mem_forms hatts hsplit)⟩) (fun form hm => List.mem_cons_of_mem _ hm)
    (.inr List.mem_cons_self) hc (hvalues ▸ ValueStore.le_refl _)).resolve_right ?_
  rintro ⟨⟩

/-- Where the forms 8889 that are asked for have their sections from the start, no answer opens
one. -/
theorem upToDate_of_sections
    (h : Session (initial library (.ofSections given) true) (calls ++ [(.solve, .returned b)]) s)
    (hok : ErrorFree calls)
    (hsec : ∀ tag, "8889:" ++ tag ∈ requested calls → "8889:" ++ tag ∈ given.names) :
    UpToDate s deductionTotal := by
  have hall := errorFree_concat_returned (b := b) hok
  have hprep : Prepared given (requested (calls ++ [(.solve, .returned b)]))
      ("8889" :: statements) := by
    rw [requested_concat_solve]
    intro q hq form hform ht
    rcases List.mem_cons.mp hform with rfl | hst
    · left
      obtain ⟨tag, htag⟩ := Option.ne_none_iff_exists'.mp ht
      obtain ⟨rfl, -⟩ := InputStore.tagOf?_eq_some htag
      exact hsec tag hq
    · exact .inr hst
  have ha := answered_session hprep h hall
  intro v hv
  have hatt : deductionTotal ∈ s.attempted :=
    ha.balanced.attempted_of_has (by simp [ValueStore.has, hv])
  refine ha.registered.yields hatt (ha.lasting.evaluates (fun _ hs => List.mem_cons_of_mem _ hs)
    hatt (.inr List.mem_cons_self) (ha.traces.committed _ v hv) ?_)
  rintro ⟨⟩

/-- A solve that is answered and refused nothing leaves all values up to date except for one, the
total over the forms 8889. What was given and answered can be filed with the same result exactly
when that one is up to date too, as it is where the forms 8889 that are asked for have their
sections from the start. -/
theorem refiles_iff_upToDate
    (h : Session (initial library (.ofSections given) true) (calls ++ [(.solve, .returned b)]) s)
    (hok : ErrorFree calls) (hr : s.refused = false) :
    (∀ f, f ≠ deductionTotal → UpToDate s f) ∧
    (Refiles s (requested calls) b ↔ UpToDate s deductionTotal) ∧
    ((∀ tag, "8889:" ++ tag ∈ requested calls → "8889:" ++ tag ∈ given.names) →
      UpToDate s deductionTotal) := by
  have hs := settled_session h hok hr
  exact ⟨fun f hf => hs.upToDate hf,
    ⟨upToDate_of_refiles hs, refiles_of_upToDate h hok hr⟩, upToDate_of_sections h hok⟩

/-- A Schedule 1 without adjustments. -/
def unadjusted : Sections :=
  ((Sections.empty.set "1040_s1" "mortgage_interest_refund" "0").set
    "1040_s1" "alimony_paid" "0").set "1040_s1" "other_adjustments" "0"

/-- The answers of somebody who has contributed to an account. -/
def contributed (question : Question) : Option String :=
  match Name.split question.name with
  | some (_, "coverage") => some "self_only"
  | some (_, "age_55") => some "no"
  | some (_, "contributions") => some "1000"
  | _ => some "0"

set_option maxRecDepth 100000 in
/-- Schedule 1 takes the total before the answers open the section of the form 8889. -/
theorem not_refiles_contributed : ∃ s,
    Session (initial library (.ofSections unadjusted) true)
      ([(.addForm "1040_s1", .added), (.addForm "8889:taxpayer", .added)] ++
        [(.solve, .returned true)]) s ∧
    s.refused = false ∧ ¬ UpToDate s deductionTotal ∧
    ¬ Refiles s ["1040_s1", "8889:taxpayer"] true := by
  obtain ⟨s, hs, hlook⟩ := exists_session (initial library (.ofSections unadjusted) true)
    contributed 200
    ([(.addForm "1040_s1", .added), (.addForm "8889:taxpayer", .added)] ++
      [(.solve, .returned true)])
    (fun s => (s.refused, decide (UpToDate s deductionTotal))) (false, false) (by decide +kernel)
  simp only [Prod.mk.injEq, decide_eq_false_iff_not] at hlook
  have hok : ErrorFree [(.addForm "1040_s1", .added), (.addForm "8889:taxpayer", .added)] := by
    simp [ErrorFree]
  exact ⟨s, hs, hlook.1, hlook.2, fun h =>
    hlook.2 (upToDate_of_refiles (settled_session hs hok hlook.1) h)⟩

set_option maxRecDepth 100000 in
/-- Schedule B is answered, and can be filed with what was answered. -/
theorem refiles_scheduleB : ∃ s,
    Session (initial library (.ofSections .empty) true)
      ([(.addForm "1040_sb", .added)] ++ [(.solve, .returned true)]) s ∧
    ErrorFree [(.addForm "1040_sb", .added)] ∧ s.refused = false ∧
    (∀ f, UpToDate s f) ∧ Refiles s ["1040_sb"] true := by
  obtain ⟨s, hs, hr⟩ := exists_session (initial library (.ofSections .empty) true)
    (fun _ => some "no") 100 ([(.addForm "1040_sb", .added)] ++ [(.solve, .returned true)])
    Solver.refused false (by decide +kernel)
  have hok : ErrorFree [(.addForm "1040_sb", .added)] := by simp [ErrorFree]
  obtain ⟨hvalues, hfile, hsections⟩ := refiles_iff_upToDate hs hok hr
  have htotal : UpToDate s deductionTotal := hsections fun tag htag => by
    have hq : "8889:" ++ tag = "1040_sb" := List.mem_singleton.mp htag
    have hhead := congrArg (fun q : String => q.toList.head?) hq
    simp at hhead
  refine ⟨s, hs, hok, hr, fun f => ?_, hfile.mpr htotal⟩
  by_cases hf : f = deductionTotal
  · exact hf ▸ htotal
  · exact hvalues f hf

end Year2023
end TaxReturn
