import TaxReturn.Proofs.Decimal.Rational
import TaxReturn.Proofs.Encoding
import TaxReturn.Proofs.Year2023.Ranges
import TaxReturn.Proofs.Year2023.Standing

/-! No amount of a return of 2023 leaves the range of decimals, as long as the inputs have no more
sections than are counted. An amount that is read is at most 10^15, a total at most as many times
that as there are instances, and no line adds up more than a few of them. -/
namespace TaxReturn.Year2023

open Solver

variable {s t : Solver} {p p' : Point} {f q base name what : String} {outcome : Except Signal Value}
  {inputs : InputStore} {calls : List (Call × Reply)} {canAsk : Bool}

/-- The values are those of fields, and of their kinds. -/
theorem Standing.typed (h : Standing inputs p) : p.solver.values.Typed library := by
  intro f v hv
  obtain ⟨inputs', values', he, -⟩ := h.traces.committed f v hv
  obtain ⟨q, base, name, form, field, hs, hi, hb, he⟩ := he
  obtain ⟨w, -, hk⟩ := Field.evaluate_eq_ok.mp he
  obtain ⟨rfl, -⟩ := Name.split_eq_some_iff.mp hs
  refine ⟨field, ?_, ValueKind.holds_of_canonicalize hk⟩
  rw [Library.field?_of_instantiate hi, hb]

/-- Only two instances can be taken up of the form that lists them. -/
theorem tag_of_instantiate {tag : String} {form : Form}
    (hi : library.instantiate ("8889" ++ ":" ++ tag) = .ok (⟨"8889", some tag⟩, form)) :
    tag ∈ ["taxpayer", "spouse"] := by
  obtain ⟨-, hf, hc⟩ := Library.instantiate_eq_ok hi
  have hform : library.form? "8889" = some healthSavings := rfl
  cases hform.symm.trans hf
  have hcheck : healthSavings.checkTag (some tag) = if tag ∈ ["taxpayer", "spouse"] then .ok ()
      else .error (.invalidInstance "8889" (some tag) (.unlisted ["taxpayer", "spouse"])) := rfl
  by_contra hne
  rw [hcheck, if_neg hne] at hc
  cases hc

/-- Of every form that is counted there are no more instances than are counted. -/
theorem Standing.few (h : Standing inputs p)
    (hlen : inputs.given.names.length ≤ Correspondence.mostInstances) :
    ∀ q ∈ counted, (p.solver.inputs.instances q).length ≤ mostCounted := by
  intro q hq
  rcases List.mem_cons.mp hq with rfl | hq
  -- An answer may open the section of an account, but only of one that is taken up.
  · have hsub : p.solver.inputs.instances "8889" ⊆
        inputs.instances "8889" ++ ["taxpayer", "spouse"] := by
      intro tag ht
      obtain ⟨hm, htag⟩ := InputStore.tagOf?_of_mem_instances ht
      rcases h.opened _ hm with hm | hm
      · exact List.mem_append_left _ (InputStore.mem_instances.mpr ⟨_, hm, htag⟩)
      · obtain ⟨form, hf⟩ := Name.mem_iff_getElem?.mp hm
        obtain ⟨name, hi⟩ := h.registered.instantiated _ form hf
        have hp := (Library.instantiate_eq_ok hi).1
        rw [(InputStore.tagOf?_eq_some htag).2] at hp
        cases hp
        exact List.mem_append_right _ (tag_of_instantiate hi)
    have hle := ((p.solver.inputs.nodup_instances "8889").subperm hsub).length_le
    have hgiven := inputs.length_instances_le "8889"
    rw [List.length_append, List.length_cons, List.length_singleton] at hle
    unfold mostCounted
    omega
  · have hgiven := inputs.length_instances_le q
    rw [← h.carries.instances q hq] at hgiven
    unfold mostCounted
    omega

/-- What stands, with all amounts within the bounds of their lines. -/
structure Ranged (inputs : InputStore) (p : Point) : Prop extends Standing inputs p where
  capped : p.solver.values.Capped fieldCap

theorem ranged_fails {e : TaxError} (h : Ranged inputs p) (hf : Fails p e t) :
    Ranged inputs ⟨t, p.held, none⟩ := by
  obtain ⟨-, evaluated, asked, new, hg⟩ := exists_grows_of_fails hf
  exact ⟨standing_fails h.toStanding hf, hg.values.symm ▸ h.capped⟩

theorem ranged_initial : Ranged inputs ⟨initial library inputs canAsk, [], none⟩ :=
  ⟨standing_initial, by simp [initial, ValueStore.Capped, ValueStore.empty, ValueStore.get?]⟩

theorem ranged_addForm {lost : List String} (h : Ranged inputs ⟨s, lost, none⟩)
    (ha : s.addForm q = .ok t) : Ranged inputs ⟨t, lost, none⟩ := by
  obtain ⟨new, hg⟩ := addForm_grows ha
  exact ⟨standing_addForm h.toStanding ha, hg.values.symm ▸ h.capped⟩

theorem Ranged.finish {lost : List String} (h : Ranged inputs ⟨s, lost, none⟩) :
    Ranged inputs ⟨s.finish, lost, none⟩ :=
  ⟨h.toStanding.finish, h.capped⟩

section ranged

variable (hlen : inputs.given.names.length ≤ Correspondence.mostInstances)

include hlen

/-- Whatever an evaluation comes to is in range. -/
theorem Ranged.inRange (h : Ranged inputs p) (hn : name ∈ p.solver.attempted)
    (hy : p.solver.Yields name outcome) : InRange (Value.Kept (fieldCap name)) outcome := by
  obtain ⟨q, base, form', form, field, hs, hi, hb, rfl⟩ := h.registered.evaluates hy
  have hq := h.registered.mem_forms hn hs
  have hbounded : Bounded form ⟨⟨q, p.solver.values⟩, p.solver.inputs⟩ :=
    ⟨⟨⟨form', hi⟩, h.registered.knows hq, h.typed⟩, h.capped, h.few hlen⟩
  have hmem := Library.mem_forms_of_instantiate hi
  have hstays := capped_library form hmem field (List.mem_of_find?_eq_some hb) _ name hbounded
  obtain ⟨hp, hf, -⟩ := Library.instantiate_eq_ok hi
  have hbase : field.name = base := by simpa using List.find?_some hb
  have hcap : fieldCap name = dollarCap (form.name, field.name) := by
    rw [(Name.split_eq_some_iff.mp hs).1, fieldCap_scoped hp, ← name_of_form? hf, hbase]
  rw [hcap]
  exact hstays

theorem ranged_step (h : Ranged inputs p) (hs : Step p p') : Ranged inputs p' where
  toStanding := standing_step h.toStanding hs
  capped f v d hv hd := by
    rcases get?_step hs hv with hv | ⟨hc, hy⟩
    · exact h.capped f v d hv hd
    · exact h.inRange hlen (h.balanced.attempted_held (by simp [Point.held, hc])) hy d hd

/-- Nothing fails because an amount is out of range. -/
theorem Ranged.not_overflow (h : Ranged inputs p) : ¬ Fails p (.overflow what) t := by
  intro hf
  generalize he : TaxError.overflow what = e at hf
  cases hf with
  | fatal hv hy => exact h.inRange hlen h.balanced.attempted_current hy what (by rw [he])
  | missed hv hy hd =>
    subst he
    cases aboutNames_of_discover hd
  | ungiven hc hw hg =>
    subst he
    cases aboutNames_of_give hg
  | _ => cases he

theorem ranged_session (h : Session (initial library inputs canAsk) calls s) :
    ∃ lost, Ranged inputs ⟨s, lost, none⟩ := by
  obtain ⟨lost, hs, -⟩ := h.induction ranged_initial (fun _ _ _ _ _ => ranged_addForm)
    (fun _ _ => ranged_step hlen) (fun _ _ hs _ => hs.finish) (.inr fun _ _ _ => ranged_fails)
  exact ⟨lost, hs⟩

/-- However a solve ends, the amounts that it leaves are in range, and it has not failed because of
one that is not. -/
theorem Ranged.exists_ending {σ : Type} {lost : List String} (h : Ranged inputs ⟨s, lost, none⟩)
    (ask : Question → StateM σ (Option String)) (n : ℕ) (w : σ) :
    ∃ p, Ranged inputs p ∧ ((s.solve ask n).run w).1.solver.values = p.solver.values ∧
      ((s.solve ask n).run w).1.solver.inputs = p.solver.inputs ∧
      ∀ what t, ((s.solve ask n).run w).1 ≠ .failed (.overflow what) t := by
  obtain ⟨p, hp, hvalues, hinputs, hfailed⟩ := exists_point_of_solve h
    (fun _ _ => ranged_step hlen) (fun _ _ _ => ranged_fails) ask n w
  refine ⟨p, hp, hvalues, hinputs, fun what t he => ?_⟩
  obtain ⟨p', hp', hf⟩ := hfailed _ _ he
  exact hp'.not_overflow hlen hf

end ranged

/-- A sum or a difference of two lines of a form. -/
structure Operation where
  form : String
  first : String
  second : String
  apply : Decimal → Decimal → Option Decimal

/-- The sums and differences of lines that are taken as they come, with no look at the range. -/
def uncheckedOperations : List Operation :=
  [⟨"1099-int", "interest", "treasury_interest", Decimal.add?⟩,
    ⟨"1040", "9", "10", Decimal.sub?⟩, ⟨"1040", "11", "14", Decimal.sub?⟩,
    ⟨"1040", "18", "21", Decimal.sub?⟩, ⟨"1040", "33", "24", Decimal.sub?⟩,
    ⟨"1040", "24", "33", Decimal.sub?⟩, ⟨"1040_sb", "2", "3", Decimal.sub?⟩,
    ⟨"8889", "8", "11", Decimal.sub?⟩]

/-- An amount of whole cents, and its text with two digits behind the point. -/
structure InCents (amount : Decimal) (text : String) : Prop where
  cents : ∃ n : ℤ, amount.toRat = n / 100
  digits : ∃ (whole : List Char) (tens ones : Char), whole ≠ [] ∧
    (∀ c ∈ whole ++ [tens, ones], c.isDigit) ∧
    text.toList = (if amount.negative then ['-'] else []) ++ whole ++ ['.', tens, ones]

theorem inCents_text {d : Decimal} (h : d.scale = 2) : InCents d d.text := by
  refine ⟨⟨d.units, Decimal.toRat_of_cents h⟩, ?_⟩
  obtain ⟨whole, fraction, hne, hlen, hdigits, -, he⟩ := d.exists_digits
  rw [h] at hlen
  obtain ⟨tens, ones, rfl⟩ := List.length_eq_two.mp hlen
  exact ⟨whole, tens, ones, hne, hdigits, by simpa [Decimal.text] using he⟩

/-- All amounts of a solver: those that are kept are of whole cents, and none of the operations on
them leaves the range. -/
structure KeepsCents (s : Solver) : Prop where
  operations : ∀ op ∈ uncheckedOperations, ∀ q name x y, FormName.parse q = .ok name →
    name.name = op.form → s.values.get? (q ++ "." ++ op.first) = some (.number x) →
    s.values.get? (q ++ "." ++ op.second) = some (.number y) → ∃ z, op.apply x y = some z
  money : ∀ f v field, s.values.get? f = some v → library.field? f = some field →
    field.kind = .decimal 2 → ∃ d, v = .number d ∧ InCents d (field.encode v)

theorem Ranged.keepsCents (h : Ranged inputs p) : KeepsCents p.solver where
  operations := by
    have hroom : ∀ op ∈ uncheckedOperations,
        dollarCap (op.form, op.first) + dollarCap (op.form, op.second) < Decimal.limit := by decide
    have happly : ∀ op ∈ uncheckedOperations,
        op.apply = Decimal.add? ∨ op.apply = Decimal.sub? := by simp [uncheckedOperations]
    intro op hop q name x y hp hname hx hy
    have hbound : ∀ {key d}, p.solver.values.get? (q ++ "." ++ key) = some (.number d) →
        d.AtMost (dollarCap (op.form, key)) := by
      intro key d hd
      have hcents := h.capped _ _ d hd rfl
      rw [fieldCap_scoped hp, hname] at hcents
      exact hcents.atMost
    rcases happly op hop with he | he
    · obtain ⟨z, hz, -⟩ := (hbound hx).exists_add? (hbound hy) (hroom op hop)
      exact ⟨z, he ▸ hz⟩
    · obtain ⟨z, hz, -⟩ := (hbound hx).exists_sub? (hbound hy) (hroom op hop)
      exact ⟨z, he ▸ hz⟩
  money f v field hv hf hk := by
    obtain ⟨field', hf', hholds⟩ := h.typed f v hv
    cases hf.symm.trans hf'
    rw [hk] at hholds
    cases v with
    | number d =>
      have hscale := (h.capped f _ d hv rfl).scale
      refine ⟨d, rfl, ?_⟩
      rw [Field.encode, hk]
      change InCents d (d.fixPlaces 2).text
      rw [Decimal.fixPlaces_of_scale hscale]
      exact inCents_text hscale
    | _ => cases hholds

/-- Whatever is given in no more sections than are counted, whatever was asked for before and
whoever answers, no solve over the library of 2023 fails because an amount is out of range, none of
the operations that are not checked leaves the range, and all the money that is kept, also where a
solve fails or has not ended, is in whole cents and is written with two digits behind the point. -/
theorem solve_stays_in_range {σ : Type} (h : Session (initial library inputs canAsk) calls s)
    (hlen : inputs.given.names.length ≤ Correspondence.mostInstances)
    (ask : Question → StateM σ (Option String)) (n : ℕ) (w : σ) :
    (∀ what t, ((s.solve ask n).run w).1 ≠ .failed (.overflow what) t) ∧
      KeepsCents ((s.solve ask n).run w).1.solver := by
  obtain ⟨lost, hs⟩ := ranged_session hlen h
  obtain ⟨p, hp, hvalues, -, hrange⟩ := hs.exists_ending hlen ask n w
  obtain ⟨operations, money⟩ := hp.keepsCents
  rw [← hvalues] at operations money
  exact ⟨hrange, operations, money⟩

/-- A statement with the largest amounts that are read. -/
def largestInterest : Sections :=
  (Sections.empty.set "1099-int:a" "box_1" "1000000000000000").set "1099-int:a" "box_3"
    "1000000000000000"

/-- Where a solve without an answer comes to. -/
def unanswered (moves : ℕ) (s : Solver) : Solver.Ending :=
  ((s.solve (m := StateM Unit) (fun _ => pure none) moves).run ()).1

/-- Schedule B takes the sum of both amounts and their total. -/
theorem solve_stays_in_range_largest : ∃ s,
    Session (initial library (.ofSections largestInterest) false) [(.addForm "1040_sb", .added)] s ∧
    largestInterest.names.length ≤ Correspondence.mostInstances ∧
    (unanswered 40 s).solver.values.get? "1040_sb.4" =
      some (.number (.cents 200000000000000000)) ∧
    (∀ what t, unanswered 40 s ≠ .failed (.overflow what) t) ∧
      KeepsCents (unanswered 40 s).solver := by
  obtain ⟨s, hs, hseen⟩ := exists_session (initial library (.ofSections largestInterest) false)
    (fun _ => none) 40 [(.addForm "1040_sb", .added)]
    (fun s => (unanswered 40 s).solver.values.get? "1040_sb.4")
    (some (.number (.cents 200000000000000000))) (by decide +kernel)
  have hlen : largestInterest.names.length ≤ Correspondence.mostInstances := by decide +kernel
  exact ⟨s, hs, hlen, hseen, solve_stays_in_range hs hlen (fun _ => pure none) 40 ()⟩

end TaxReturn.Year2023
