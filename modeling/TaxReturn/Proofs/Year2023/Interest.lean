import TaxReturn.Proofs.Decimal.Exact
import TaxReturn.Proofs.Year2023.Balance

/-! The taxable interest comes to the return in two ways, from the statements or from Schedule B,
which is taken up once there is more of it than the threshold. Both ways lead to the same amount,
and the schedule is there exactly if it is called for. -/
namespace TaxReturn.Year2023

open Compute Line Solver

variable {s t : Solver} {p p' : Point} {q d line reader : String} {inputs : InputStore}
  {values values' : ValueStore} {total : Decimal} {v : Value} {outcome : Except Signal Value}
  {calls : List (Call × Reply)} {canAsk : Bool} {requests lost : List String}

/-- The line of a statement with its taxable interest. -/
def taxableLine (q : String) : String := q ++ "." ++ "taxable"

/-- The name of a line of Schedule B. -/
def scheduleLine (line : String) : String := "1040_sb" ++ "." ++ line

/-- The taxable interest of all statements is committed. -/
def AllTaxable (inputs : InputStore) (values : ValueStore) : Prop :=
  ∀ q ∈ inputs.sectionsOf "1099-int", values.Shows (taxableLine q)

/-- The taxable interest of all statements. -/
def totalInterest (inputs : InputStore) (values : ValueStore) : ℚ :=
  ((inputs.sectionsOf "1099-int").map fun q => values.amount (taxableLine q)).sum

/-- Schedule B is called for. -/
def AboveThreshold (inputs : InputStore) (values : ValueStore) : Prop :=
  AllTaxable inputs values ∧ 1500 < totalInterest inputs values

/-- What a line shows once it is committed: the taxable interest of all statements. -/
def ShowsInterest (inputs : InputStore) (values : ValueStore) (f : String) : Prop :=
  values.has f →
    AllTaxable inputs values ∧ values.Shows f ∧ values.amount f = totalInterest inputs values

/-- The total that both ways begin with. -/
def directInterest : Compute Decimal := sumInstances "1099-int" "taxable"

/-- What Schedule B sees. -/
def scheduleScope (s : Solver) : Scope := ⟨⟨"1040_sb", s.values⟩, s.inputs⟩

theorem instantiate_scheduleB :
    library.instantiate "1040_sb" = .ok (⟨"1040_sb", none⟩, scheduleB) := rfl

theorem split_scheduleLine : Name.split (scheduleLine line) = some ("1040_sb", line) :=
  Name.split_scoped (by decide)

theorem split_returnLine : Name.split (returnLine line) = some ("1040", line) :=
  Name.split_scoped (by decide)

theorem fieldCap_scheduleLine : fieldCap (scheduleLine line) = dollarCap ("1040_sb", line) :=
  @fieldCap_scoped _ _ ⟨"1040_sb", none⟩ rfl

theorem qualify_scheduleScope (h : Name.split line = none) :
    (scheduleScope s).qualify line = scheduleLine line := Name.scopeTo_of_split_none h

theorem AboveThreshold.mono (h : AboveThreshold inputs values) (hle : values ≤ values') :
    AboveThreshold inputs values' := by
  obtain ⟨hall, hsum⟩ := h
  have hsame : ∀ q ∈ inputs.sectionsOf "1099-int",
      values'.amount (taxableLine q) = values.amount (taxableLine q) := by
    intro q hq
    obtain ⟨d, hd⟩ := hall q hq
    rw [ValueStore.amount_of_get? hd, ValueStore.amount_of_get? (hle _ _ hd)]
  refine ⟨fun q hq => (hall q hq).imp fun d hd => hle _ _ hd, ?_⟩
  rwa [totalInterest, List.map_congr_left hsame]

theorem toRat_interestThreshold : interestThreshold.toRat = 1500 := by
  rw [interestThreshold, Decimal.toRat_ofNat]
  norm_num

/-- Line 2b is the total, or line 4 of Schedule B where the total is above the threshold. -/
theorem exists_directInterest (h : taxableInterest ⟨⟨"1040", values⟩, inputs⟩ = outcome) :
    (∃ total, directInterest ⟨⟨"1040", values⟩, inputs⟩ = .ok total ∧
      (if interestThreshold < total then values.get (scheduleLine "4")
        else .ok (.number total)) = outcome) ∨
    ∃ e, directInterest ⟨⟨"1040", values⟩, inputs⟩ = .error e ∧ outcome = .error e := by
  have hq : Name.scopeTo "1040" "1040_sb.4" = scheduleLine "4" := by decide
  rw [taxableInterest, bind_apply, ← directInterest] at h
  cases hsum : directInterest ⟨⟨"1040", values⟩, inputs⟩ with
  | error e =>
    rw [hsum] at h
    exact .inr ⟨e, rfl, h.symm⟩
  | ok total =>
    rw [hsum] at h
    refine .inl ⟨total, rfl, ?_⟩
    by_cases ht : interestThreshold < total
    · simp only [if_pos ht, ← hq] at h ⊢
      exact h
    · simp only [if_neg ht] at h ⊢
      exact h

/-- What line 2b comes to. -/
theorem evaluates_interest_iff :
    library.Evaluates inputs values (returnLine "2b") outcome ↔
      (⟨"2b", .decimal 2, taxableInterest⟩ : Field).evaluate (returnLine "2b")
        ⟨⟨"1040", values⟩, inputs⟩ = outcome :=
  Library.evaluates_iff split_returnLine instantiate_return rfl

/-- The total waits for a statement whose taxable interest is not committed. -/
theorem exists_statement_of_unmet
    (h : directInterest ⟨⟨reader, values⟩, inputs⟩ = .error (.unmet d)) :
    ∃ q ∈ inputs.sectionsOf "1099-int", d = taxableLine q ∧ values.get? d = none := by
  obtain ⟨hnone, hn⟩ := heeds_sumInstances.unmet _ d h
  cases hn with
  | line hk => cases hk
  | @total form field tag ht htag =>
    obtain ⟨rfl, rfl⟩ : form = "1099-int" ∧ field = "taxable" := by simpa using ht
    obtain ⟨q, hq, htag⟩ := InputStore.mem_instances.mp htag
    obtain ⟨rfl, -⟩ := InputStore.tagOf?_eq_some htag
    exact ⟨_, List.mem_filter.mpr ⟨hq, by rw [htag]; rfl⟩, rfl, hnone⟩

section ranged

variable (h : Ranged inputs p)

include h

/-- The statements whose taxable interest is committed are those that the inputs had at first. -/
theorem Ranged.mem_sectionsOf_interest (ht : InputStore.tagOf? "1099-int" q ≠ none)
    (hhas : p.solver.values.has (taxableLine q)) : q ∈ inputs.sectionsOf "1099-int" := by
  obtain ⟨tag, htag⟩ := Option.ne_none_iff_exists'.mp ht
  have hp := (InputStore.tagOf?_eq_some htag).2
  have hsplit : Name.split (taxableLine q) = some (q, "taxable") :=
    FormName.split_of_parse hp
  have hm := h.sectioned _ (h.balanced.attempted_of_has hhas) q _ hsplit "1099-int" (by decide) ht
  exact (h.sectionsOf_perm (by decide)).mem_iff.mp
    (List.mem_filter.mpr ⟨hm, Option.isSome_iff_ne_none.mpr ht⟩)

/-- A line of Schedule B that is committed is what is kept of its amount. -/
theorem Ranged.exists_scheduled {amount : Compute Decimal}
    (hhas : p.solver.values.has (scheduleLine line))
    (hb : scheduleB.field? line = some (money line amount)) :
    ∃ d, amount (scheduleScope p.solver) = .ok d ∧
      p.solver.values.get? (scheduleLine line) = some (.number (d.fixPlaces 2)) :=
  h.exists_money instantiate_scheduleB (by decide) hb hhas

/-- Line 3 is always zero. -/
theorem Ranged.amount_excluded (hhas : p.solver.values.has (scheduleLine "3")) :
    p.solver.values.amount (scheduleLine "3") = 0 := by
  obtain ⟨d, hd, hv⟩ := h.exists_scheduled hhas rfl
  cases hd
  rw [ValueStore.amount_of_get? hv]
  exact Decimal.toRat_eq_zero rfl

/-- The total does not wait once the taxable interest of all statements is committed. -/
theorem Ranged.directInterest_ne_unmet (hall : AllTaxable inputs p.solver.values) :
    directInterest ⟨⟨reader, p.solver.values⟩, p.solver.inputs⟩ ≠ .error (.unmet d) := by
  intro he
  obtain ⟨q, hq, rfl, hnone⟩ := exists_statement_of_unmet he
  obtain ⟨d, hd⟩ := hall q ((h.sectionsOf_perm (by decide)).mem_iff.mp hq)
  rw [hd] at hnone
  cases hnone

variable (hlen : inputs.given.names.length ≤ Correspondence.mostInstances)

include hlen

theorem Ranged.toRat_directInterest
    (hsum : directInterest ⟨⟨reader, p.solver.values⟩, p.solver.inputs⟩ = .ok total) :
    AllTaxable inputs p.solver.values ∧ total.toRat = totalInterest inputs p.solver.values ∧
      total.KeptAs (totalInterest inputs p.solver.values) :=
  h.toRat_of_sumInstances hlen (by decide) (by decide) hsum

/-- The total is compared with the threshold as the number that it is. -/
theorem Ranged.threshold_lt_iff
    (hsum : directInterest ⟨⟨reader, p.solver.values⟩, p.solver.inputs⟩ = .ok total) :
    interestThreshold < total ↔ AboveThreshold inputs p.solver.values := by
  obtain ⟨hall, htotal, -⟩ := h.toRat_directInterest hlen hsum
  rw [Decimal.lt_iff_toRat, toRat_interestThreshold, htotal]
  exact (and_iff_right hall).symm

/-- Line 1 of Schedule B. -/
theorem Ranged.showsInterest_total :
    ShowsInterest inputs p.solver.values (scheduleLine "1") := by
  intro hhas
  obtain ⟨total, hsum, hv⟩ := h.exists_scheduled hhas rfl
  obtain ⟨hall, -, hkept⟩ := h.toRat_directInterest hlen hsum
  exact ⟨hall, ⟨_, hv⟩, (ValueStore.amount_of_get? hv).trans hkept⟩

/-- Line 2 has line 1 only to add up. -/
theorem Ranged.showsInterest_sum :
    ShowsInterest inputs p.solver.values (scheduleLine "2") := by
  intro hhas
  obtain ⟨d, hd, hv⟩ := h.exists_scheduled hhas rfl
  have hone : (scheduleScope p.solver).qualify "1" = scheduleLine "1" :=
    qualify_scheduleScope (by decide)
  have hroom : (["1"].map fun key => fieldCap ((scheduleScope p.solver).qualify key)).sum * 100 <
      Decimal.limit := by
    simp only [List.map_cons, List.map_nil, hone, fieldCap_scheduleLine]
    decide
  obtain ⟨hshown, -, hkept⟩ := keptAs_sumLines h.capped hroom hd
  simp only [List.forall_mem_cons, List.map_cons, List.map_nil, List.sum_cons, List.sum_nil,
    add_zero, hone] at hshown hkept
  obtain ⟨e, he⟩ := hshown.1
  obtain ⟨hall, -, hamount⟩ := h.showsInterest_total hlen (Option.isSome_of_eq_some he)
  exact ⟨hall, ⟨_, hv⟩, (ValueStore.amount_of_get? hv).trans (hkept.trans hamount)⟩

/-- With nothing on line 3, line 4 passes line 2 on. -/
theorem Ranged.showsInterest_schedule :
    ShowsInterest inputs p.solver.values (scheduleLine "4") := by
  intro hhas
  obtain ⟨d, hd, hv⟩ := h.exists_scheduled hhas rfl
  have htwo : (scheduleScope p.solver).qualify "2" = scheduleLine "2" :=
    qualify_scheduleScope (by decide)
  have hthree : (scheduleScope p.solver).qualify "3" = scheduleLine "3" :=
    qualify_scheduleScope (by decide)
  have hroom : (fieldCap ((scheduleScope p.solver).qualify "2") +
      fieldCap ((scheduleScope p.solver).qualify "3")) * 100 < Decimal.limit := by
    rw [htwo, hthree, fieldCap_scheduleLine, fieldCap_scheduleLine]
    decide
  obtain ⟨⟨⟨x, hx⟩, ⟨y, hy⟩⟩, hscale, hdiff⟩ := Compute.toRat_of_difference h.capped hroom hd
  rw [htwo] at hx hdiff
  rw [hthree] at hy hdiff
  obtain ⟨hall, -, htwo⟩ := h.showsInterest_sum hlen (Option.isSome_of_eq_some hx)
  refine ⟨hall, ⟨_, hv⟩, ?_⟩
  calc p.solver.values.amount (scheduleLine "4")
      = d.toRat := by rw [ValueStore.amount_of_get? hv, Decimal.fixPlaces_of_scale hscale]
    _ = p.solver.values.amount (scheduleLine "2") - p.solver.values.amount (scheduleLine "3") :=
        hdiff
    _ = totalInterest inputs p.solver.values := by
        rw [htwo, h.amount_excluded (Option.isSome_of_eq_some hy), sub_zero]

/-- Line 2b of the return. -/
theorem Ranged.showsInterest_return :
    ShowsInterest inputs p.solver.values (returnLine "2b") := by
  intro hhas
  obtain ⟨w, v, hw, hk, hv⟩ := h.exists_computed instantiate_return (by decide) rfl hhas
  obtain ⟨total, hsum, hw⟩ | ⟨e, -, he⟩ := exists_directInterest hw
  case inr => cases he
  obtain ⟨hall, -, hkept⟩ := h.toRat_directInterest hlen hsum
  refine ⟨hall, ?_⟩
  split at hw
  · have hget := ValueStore.get_eq_ok.mp hw
    obtain ⟨-, ⟨d, hd⟩, hamount⟩ := h.showsInterest_schedule hlen (Option.isSome_of_eq_some hget)
    cases hget.symm.trans hd
    cases hk
    have hscale : d.scale = 2 := (h.capped _ _ _ hd rfl).scale
    rw [Decimal.fixPlaces_of_scale hscale] at hv
    rw [ValueStore.amount_of_get? hd] at hamount
    exact ⟨⟨d, hv⟩, (ValueStore.amount_of_get? hv).trans hamount⟩
  · cases hw
    cases hk
    exact ⟨⟨_, hv⟩, (ValueStore.amount_of_get? hv).trans hkept⟩

/-- Line 2b waits for Schedule B only where it is called for. -/
theorem Ranged.aboveThreshold_of_unmet
    (he : library.Evaluates p.solver.inputs p.solver.values (returnLine "2b") (.error (.unmet d)))
    (hd : Name.split d = some ("1040_sb", line)) : AboveThreshold inputs p.solver.values := by
  rw [evaluates_interest_iff, Field.evaluate_eq_error (by simp)] at he
  obtain ⟨total, hsum, hv⟩ | ⟨e, hsum, heq⟩ := exists_directInterest he
  · refine (h.threshold_lt_iff hlen hsum).mp ?_
    by_contra hle
    rw [if_neg hle] at hv
    cases hv
  · cases heq
    obtain ⟨q, hq, rfl, -⟩ := exists_statement_of_unmet hsum
    obtain ⟨tag, htag⟩ := Option.isSome_iff_exists.mp (List.mem_filter.mp hq).2
    have hp := (InputStore.tagOf?_eq_some htag).2
    rw [taxableLine, FormName.split_of_parse hp] at hd
    cases hd
    cases htag

/-- Once Schedule B is called for, line 2b comes to what line 4 of it does, or the total fails. -/
theorem Ranged.interest_of_aboveThreshold (ha : AboveThreshold inputs p.solver.values)
    (he : taxableInterest ⟨⟨"1040", p.solver.values⟩, p.solver.inputs⟩ = outcome) :
    p.solver.values.get (scheduleLine "4") = outcome ∨
      ∃ e, outcome = .error e ∧ ∀ d, e ≠ .unmet d := by
  obtain ⟨total, hsum, hv⟩ | ⟨e, hsum, rfl⟩ := exists_directInterest he
  · rw [if_pos ((h.threshold_lt_iff hlen hsum).mpr ha)] at hv
    exact .inl hv
  · refine .inr ⟨e, rfl, ?_⟩
    rintro d rfl
    exact h.directInterest_ne_unmet ha.1 hsum

end ranged

/-- What is in range, with Schedule B on hand only where it was asked for or is called for. -/
structure Scheduled (inputs : InputStore) (requests : List String) (p : Point) : Prop
    extends Ranged inputs p where
  onHand : "1040_sb" ∈ p.solver.forms →
    "1040_sb" ∈ requests ∨ AboveThreshold inputs p.solver.values

/-- Only a field that needs a line of Schedule B brings it in, and this is line 2b if the schedule
is not there yet. -/
theorem Scheduled.onHand_step (h : Scheduled inputs requests p)
    (hlen : inputs.given.names.length ≤ Correspondence.mostInstances) (hs : Step p p')
    (hm : "1040_sb" ∈ p'.solver.forms) :
    "1040_sb" ∈ requests ∨ AboveThreshold inputs p'.solver.values := by
  by_cases hold : "1040_sb" ∈ p.solver.forms
  · exact (h.onHand hold).imp_right fun ha => ha.mono (values_step hs)
  refine .inr (AboveThreshold.mono ?_ (values_step hs))
  cases hs with
  | @wait s t hand name dep hv hy hd hp =>
    obtain hm | ⟨line, hline, -⟩ := hd.mem_forms.mp hm
    · exact absurd hm hold
    have he := h.registered.evaluates hy
    obtain ⟨base, hbase⟩ | rfl := reader_of_scheduleB he hline
    · exact absurd (h.registered.mem_forms h.balanced.attempted_current hbase) hold
    · exact h.aboveThreshold_of_unmet hlen he hline
  | _ => exact absurd hm hold

theorem scheduled_step (h : Scheduled inputs requests p)
    (hlen : inputs.given.names.length ≤ Correspondence.mostInstances) (hs : Step p p') :
    Scheduled inputs requests p' :=
  ⟨ranged_step hlen h.toRanged hs, h.onHand_step hlen hs⟩

theorem scheduled_addForm (h : Scheduled inputs requests ⟨s, lost, none⟩)
    (ha : s.addForm q = .ok t) (hq : q ∈ requests) : Scheduled inputs requests ⟨t, lost, none⟩ := by
  refine ⟨ranged_addForm h.toRanged ha, fun hm => ?_⟩
  obtain ⟨new, hg⟩ := addForm_grows ha
  obtain ⟨name, form, hi, ⟨-, rfl⟩ | ⟨-, rfl⟩⟩ := addForm_eq_ok ha
  · exact h.onHand hm
  · obtain rfl | hm := (mem_forms_takeUp hi).mp hm
    · exact .inl hq
    · exact hg.values ▸ h.onHand hm

theorem scheduled_session (h : Session (initial library inputs canAsk) calls s)
    (hlen : inputs.given.names.length ≤ Correspondence.mostInstances) (hok : ErrorFree calls) :
    Scheduled inputs (requested calls) ⟨s, [], none⟩ := by
  have hstart : Scheduled inputs (requested calls) ⟨initial library inputs canAsk, [], none⟩ :=
    ⟨ranged_initial, by simp [initial]⟩
  obtain ⟨lost, hs, hlost⟩ := h.induction hstart
    (fun _ _ _ _ hq hs ha => scheduled_addForm hs ha hq) (fun _ _ hp => scheduled_step hp hlen)
    (fun _ _ hs _ => ⟨hs.toRanged.finish, hs.onHand⟩) (.inl hok)
  exact hlost hok ▸ hs

/-- Where nothing is left to do, the schedule that is called for is on hand. -/
theorem Ranged.mem_forms_of_aboveThreshold (h : Ranged inputs ⟨s, [], none⟩)
    (hlen : inputs.given.names.length ≤ Correspondence.mostInstances) (hw : s.hasWork = false)
    (hreturn : "1040" ∈ s.forms) (ha : AboveThreshold inputs s.values) : "1040_sb" ∈ s.forms := by
  have hrequired : returnLine "2b" ∈ individualReturn.requiredAs ⟨"1040", none⟩ := by decide
  have hatt := h.registered.attempted_of_required instantiate_return hreturn hrequired
  obtain ⟨outcome, ho, he⟩ := h.exists_outcome (fun _ hs => hs) hw hatt (.inl (by decide))
  rw [evaluates_interest_iff] at he
  suffices hline : scheduleLine "4" ∈ s.attempted from
    h.registered.mem_forms hline split_scheduleLine
  cases ho with
  | committed hv =>
    obtain ⟨w, hw, -⟩ := Field.evaluate_eq_ok.mp he
    obtain hget | ⟨e, he, -⟩ := h.interest_of_aboveThreshold hlen ha hw
    · exact h.balanced.attempted_of_has (Option.isSome_of_eq_some (ValueStore.get_eq_ok.mp hget))
    · cases he
  | @waiting d hd =>
    have he := (Field.evaluate_eq_error (by simp)).mp he
    obtain hget | ⟨e, he, hne⟩ := h.interest_of_aboveThreshold hlen ha he
    · obtain ⟨rfl, -⟩ := ValueStore.get_eq_unmet.mp hget
      exact (h.traces.waiting _ _ hd).1
    · cases he
      exact absurd rfl (hne d)
  | lacking hi =>
    obtain ⟨key, hk, -⟩ := heeds_taxableInterest.missing _ _
      ((Field.evaluate_eq_error (by simp)).mp he)
    cases hk
  | left hu =>
    cases heeds_taxableInterest.left _ _ ((Field.evaluate_eq_error (by simp)).mp he)

/-- Both ways to the taxable interest agree, and Schedule B is on hand where it is called for. -/
structure InterestAgrees (inputs : InputStore) (requests : List String) (s : Solver) : Prop where
  onReturn : ShowsInterest inputs s.values (returnLine "2b")
  onSchedule : ShowsInterest inputs s.values (scheduleLine "4")
  agree : s.values.has (returnLine "2b") → s.values.has (scheduleLine "4") →
    s.values.amount (scheduleLine "4") = s.values.amount (returnLine "2b")
  statements : ∀ q, InputStore.tagOf? "1099-int" q ≠ none → s.values.has (taxableLine q) →
    q ∈ inputs.sectionsOf "1099-int"
  onDemand : "1040_sb" ∉ requests → ("1040_sb" ∈ s.forms ↔ AboveThreshold inputs s.values)

/-- Whatever is given in no more sections than are counted, whatever is asked for beside the return
and whoever answers, a solve that returns leaves the taxable interest of the statements on line 2b,
whichever way it took. -/
theorem solve_interest_agrees {b : Bool}
    (h : Session (initial library inputs canAsk) (calls ++ [(.solve, .returned b)]) s)
    (hlen : inputs.given.names.length ≤ Correspondence.mostInstances) (hok : ErrorFree calls)
    (hreturn : "1040" ∈ requested calls) : InterestAgrees inputs (requested calls) s := by
  have hall := errorFree_concat_returned (b := b) hok
  have hreq : requested (calls ++ [(.solve, .returned b)]) = requested calls :=
    requested_concat_solve
  have hs := scheduled_session h hlen hall
  rw [hreq] at hs
  obtain ⟨u, -, hu⟩ := h.last
  obtain ⟨hw, -⟩ := hasWork_of_returned hu
  have hinterest := hs.showsInterest_return hlen
  have hschedule := hs.showsInterest_schedule hlen
  constructor
  case onReturn => exact hinterest
  case onSchedule => exact hschedule
  case agree =>
    intro hr hb
    rw [(hschedule hb).2.2, (hinterest hr).2.2]
  case statements => exact fun q => hs.mem_sectionsOf_interest
  case onDemand =>
    intro hnot
    refine ⟨fun hm => (hs.onHand hm).resolve_left hnot, ?_⟩
    exact hs.mem_forms_of_aboveThreshold hlen hw (h.mem_forms hall (hreq ▸ hreturn))

/-- Two statements, which call for Schedule B together. -/
def twoStatements : Sections :=
  [("1099-int:a", "box_1", "1000"), ("1099-int:a", "box_3", "0"), ("1099-int:b", "box_1", "0"),
    ("1099-int:b", "box_3", "600.50")].foldl
    (fun given entry => given.set entry.1 entry.2.1 entry.2.2) .empty

set_option maxRecDepth 100000 in
theorem exists_solved_twoStatements : ∃ s,
    Session (initial library (.ofSections twoStatements) false)
      [(.addForm "1040", .added), (.solve, .returned false)] s ∧
    [returnLine "2b", scheduleLine "4"].map s.values.get? =
      [some (.number (.cents 160050)), some (.number (.cents 160050))] :=
  exists_session _ (fun _ => none) 400 _
    (fun s => [returnLine "2b", scheduleLine "4"].map s.values.get?) _ (by decide +kernel)

/-- Above the threshold line 2b is read off Schedule B. -/
theorem solve_interest_agrees_twoStatements : ∃ s,
    Session (initial library (.ofSections twoStatements) false)
      ([(.addForm "1040", .added)] ++ [(.solve, .returned false)]) s ∧
    twoStatements.names.length ≤ Correspondence.mostInstances ∧
    ErrorFree [(.addForm "1040", .added)] ∧ "1040" ∈ requested [(.addForm "1040", .added)] ∧
    [returnLine "2b", scheduleLine "4"].map s.values.get? =
      [some (.number (.cents 160050)), some (.number (.cents 160050))] ∧
    InterestAgrees (.ofSections twoStatements) (requested [(.addForm "1040", .added)]) s := by
  obtain ⟨s, hs, hseen⟩ := exists_solved_twoStatements
  have hsession : Session (initial library (.ofSections twoStatements) false)
      ([(.addForm "1040", .added)] ++ [(.solve, .returned false)]) s := hs
  have hlen : twoStatements.names.length ≤ Correspondence.mostInstances := by decide +kernel
  have hok : ErrorFree [(.addForm "1040", .added)] := by simp [ErrorFree]
  have hreturn : "1040" ∈ requested [(.addForm "1040", .added)] := by simp [requested]
  exact ⟨s, hsession, hlen, hok, hreturn, hseen, solve_interest_agrees hsession hlen hok hreturn⟩

end TaxReturn.Year2023
