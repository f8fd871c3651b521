import TaxReturn.Proofs.Amounts
import TaxReturn.Proofs.Year2023.Overflow

/-! The return balances. Its lines are in cents and far from the limit, so that sums and differences
of them are exact as numbers, and what is withheld and owed comes from the boxes of the statements,
each rounded to cents once. -/
namespace TaxReturn.Year2023

open Compute Line Solver

variable {s : Solver} {p : Point} {q base line box what minuend subtrahend : String}
  {inputs : InputStore} {calls : List (Call × Reply)} {canAsk : Bool} {lines : List String}
  {sources : List String} {x : ℚ} {amount : Compute Decimal}

/-- The name of a line of the return. -/
def returnLine (line : String) : String := "1040" ++ "." ++ line

/-- What the return sees. -/
def returnScope (s : Solver) : Scope := ⟨⟨"1040", s.values⟩, s.inputs⟩

/-- The amount on a line of the return, as a number. -/
def amountOn (values : ValueStore) (line : String) : ℚ := values.amount (returnLine line)

/-- A line of the return, once it is committed, shows `x`, and the lines that it comes of are
committed. -/
def Computed (values : ValueStore) (line : String) (sources : List String) (x : ℚ) : Prop :=
  values.has (returnLine line) →
    (∀ key ∈ line :: sources, values.Shows (returnLine key)) ∧ amountOn values line = x

/-- A number of dollars rounded to cents, where a tie goes to even cents. -/
def roundedToCents (x : ℚ) : ℚ := halfEven (x * 100) / 100

/-- A line of the return, once it is committed, shows the total of a box, rounded to cents on each
statement of wages. The statements are those that the inputs had at first, `known` what is known
of the boxes now. -/
def TotalsBox (inputs known : InputStore) (values : ValueStore) (line box : String) : Prop :=
  values.has (returnLine line) → ∃ amount : String → Decimal,
    (∀ q ∈ inputs.sectionsOf "w-2", known.parse (q ++ "." ++ box) = .ok (.number (amount q))) ∧
    values.Shows (returnLine line) ∧
    amountOn values line =
      ((inputs.sectionsOf "w-2").map fun q => roundedToCents (amount q).toRat).sum

/-- The equations of the return. -/
structure Balances (inputs known : InputStore) (values : ValueStore) : Prop where
  wages : TotalsBox inputs known values "1a" "box_1"
  withheld : TotalsBox inputs known values "25a" "box_2"
  totalIncome : Computed values "9" ["1z", "2b", "8"]
    (amountOn values "1z" + amountOn values "2b" + amountOn values "8")
  adjustedIncome : Computed values "11" ["9", "10"] (amountOn values "9" - amountOn values "10")
  taxableIncome : Computed values "15" ["11", "14"]
    (max 0 (amountOn values "11" - amountOn values "14"))
  taxAfterCredits : Computed values "22" ["18", "21"]
    (max 0 (amountOn values "18" - amountOn values "21"))
  totalTax : Computed values "24" ["22", "23"] (amountOn values "22" + amountOn values "23")
  payments : Computed values "33" ["25d", "32"] (amountOn values "25d" + amountOn values "32")
  overpaid : Computed values "34" ["33", "24"]
    (max 0 (amountOn values "33" - amountOn values "24"))
  refunded : Computed values "35a" ["34"] (amountOn values "34")
  owed : Computed values "37" ["24", "33"] (max 0 (amountOn values "24" - amountOn values "33"))
  oneSided : values.has (returnLine "34") → values.has (returnLine "37") →
    (amountOn values "34" = 0 ∨ amountOn values "37" = 0) ∧
      amountOn values "34" - amountOn values "37" = amountOn values "33" - amountOn values "24"

theorem qualify_returnScope (h : Name.split line = none) :
    (returnScope s).qualify line = returnLine line := Name.scopeTo_of_split_none h

theorem fieldCap_returnLine : fieldCap (returnLine line) = dollarCap ("1040", line) :=
  @fieldCap_scoped _ _ ⟨"1040", none⟩ rfl

/-- Lines that the return reads as its own, and far enough from the limit for a sum of them. -/
def LeavesRoom (lines : List String) : Prop :=
  (∀ key ∈ lines, Name.split key = none) ∧
    (lines.map fun key => dollarCap ("1040", key)).sum * 100 < Decimal.limit

instance : Decidable (LeavesRoom lines) := by
  unfold LeavesRoom
  infer_instance

theorem instantiate_return : library.instantiate "1040" = .ok (⟨"1040", none⟩, individualReturn) :=
  rfl

/-- The form of a field that is committed can be evaluated. -/
theorem Standing.fits {name : FormName} {form : Form} (h : Standing inputs p)
    (hi : library.instantiate q = .ok (name, form))
    (hhas : p.solver.values.has (q ++ "." ++ base)) :
    Scope.Fits library form ⟨⟨q, p.solver.values⟩, p.solver.inputs⟩ := by
  have hsplit : Name.split (q ++ "." ++ base) = some (q, base) :=
    FormName.split_of_parse (Library.instantiate_eq_ok hi).1
  have hmem := h.registered.mem_forms (h.balanced.attempted_of_has hhas) hsplit
  exact ⟨⟨_, hi⟩, h.registered.knows hmem, h.typed⟩

/-- A copy of an amount that is entered is the amount, rounded to cents. -/
theorem Standing.exists_copied {name : FormName} {form : Form} (h : Standing inputs p)
    (hi : library.instantiate q = .ok (name, form)) (hne : name.name ≠ "1040_s1")
    (hb : form.field? base = some (echoMoney base box)) (hasks : form.asks (· == .float) box)
    (hhas : p.solver.values.has (q ++ "." ++ base)) :
    ∃ d c, p.solver.inputs.parse (q ++ "." ++ box) = .ok (.number d) ∧
      p.solver.values.get? (q ++ "." ++ base) = some (.number c) ∧
      c.IsCents Decimal.maxAmount ∧ c.toRat = roundedToCents d.toRat := by
  obtain ⟨w, v, hw, hk, hv⟩ := h.exists_computed hi hne hb hhas
  obtain ⟨d, rfl, hd⟩ := exists_amount_of_input (h.fits hi hhas) hasks hw
  cases hk
  have hsplit : Name.split box = none := by
    simp only [Form.asks, Bool.and_eq_true, Option.isNone_iff_eq_none] at hasks
    exact hasks.1.1
  refine ⟨d, d.fixPlaces 2, ?_, hv, hd.atMost.isCents (by decide), ?_⟩
  · rw [← Name.scopeTo_of_split_none hsplit]
    exact hw
  · rw [Decimal.toRat_fixPlaces, roundedToCents, Decimal.tenTo_two]
    norm_num

section ranged

variable (h : Ranged inputs p)

include h

/-- A copy of a box is the amount in the box, rounded to cents. -/
theorem Ranged.exists_box (hq : (InputStore.tagOf? "w-2" q).isSome)
    (hb : wageStatement.field? base = some (echoMoney base box))
    (hasks : wageStatement.asks (· == .float) box) (hhas : p.solver.values.has (q ++ "." ++ base)) :
    ∃ d, p.solver.inputs.parse (q ++ "." ++ box) = .ok (.number d) ∧
      p.solver.values.amount (q ++ "." ++ base) = roundedToCents d.toRat := by
  obtain ⟨tag, htag⟩ := Option.isSome_iff_exists.mp hq
  have hi := @Library.instantiate_tagged library _ _ _ _ htag rfl rfl
  obtain ⟨d, c, hd, hget, -, hc⟩ := h.exists_copied hi (by simp) hb hasks hhas
  exact ⟨d, hd, (ValueStore.amount_of_get? hget).trans hc⟩

/-- A total over the statements of a form is taken over the sections that the inputs had at first,
and it is exact. -/
theorem Ranged.toRat_of_sumInstances
    (hlen : inputs.given.names.length ≤ Correspondence.mostInstances) {form reader : String}
    {total : Decimal} (hform : form ∈ statements)
    (hroom : mostCounted * dollarCap (form, base) * 100 < Decimal.limit)
    (hsum : sumInstances form base ⟨⟨reader, p.solver.values⟩, p.solver.inputs⟩ = .ok total) :
    (∀ q ∈ inputs.sectionsOf form, p.solver.values.Shows (q ++ "." ++ base)) ∧
      total.toRat =
        ((inputs.sectionsOf form).map fun q => p.solver.values.amount (q ++ "." ++ base)).sum ∧
      total.KeptAs
        ((inputs.sectionsOf form).map fun q => p.solver.values.amount (q ++ "." ++ base)).sum := by
  have hcap : ∀ tag ∈ p.solver.inputs.instances form,
      fieldCap (form ++ ":" ++ tag ++ "." ++ base) ≤ dollarCap (form, base) :=
    fun tag ht => (fieldCap_instance ht).le
  obtain ⟨hshown, htotal, hkept⟩ := keptAs_sumInstances h.capped
    (h.few hlen form (List.mem_cons_of_mem _ hform)) hcap hroom hsum
  have hsections := h.sectionsOf_perm hform
  rw [(hsections.map _).sum_eq] at htotal hkept
  exact ⟨fun q hq => hshown q (hsections.mem_iff.mpr hq), htotal, hkept⟩

/-- A line over the statements of wages totals their boxes. -/
theorem Ranged.totalsBox (hlen : inputs.given.names.length ≤ Correspondence.mostInstances)
    (hfield : individualReturn.field? line = some (totalOf line "w-2" base))
    (hb : wageStatement.field? base = some (echoMoney base box))
    (hasks : wageStatement.asks (· == .float) box)
    (hroom : mostCounted * dollarCap ("w-2", base) * 100 < Decimal.limit) :
    TotalsBox inputs p.solver.inputs p.solver.values line box := by
  intro hhas
  obtain ⟨total, hsum, hv⟩ := h.exists_money instantiate_return (by decide) hfield hhas
  obtain ⟨hshown, -, htotal⟩ := h.toRat_of_sumInstances hlen (by decide) hroom hsum
  have hboxes : ∀ q ∈ inputs.sectionsOf "w-2", ∃ d,
      p.solver.inputs.parse (q ++ "." ++ box) = .ok (.number d) ∧
        p.solver.values.amount (q ++ "." ++ base) = roundedToCents d.toRat := by
    intro q hq
    obtain ⟨d, hd⟩ := hshown q hq
    exact h.exists_box (List.mem_filter.mp hq).2 hb hasks (Option.isSome_iff_exists.mpr ⟨_, hd⟩)
  choose! amount hparse hamount using hboxes
  refine ⟨amount, hparse, ⟨_, hv⟩, ?_⟩
  calc amountOn p.solver.values line
      = ((inputs.sectionsOf "w-2").map fun q => p.solver.values.amount (q ++ "." ++ base)).sum :=
        (ValueStore.amount_of_get? hv).trans htotal
    _ = ((inputs.sectionsOf "w-2").map fun q => roundedToCents (amount q).toRat).sum := by
        rw [List.map_congr_left hamount]

/-- An amount is computed as `x` if that is what is kept of it. -/
theorem Ranged.computed (hfield : individualReturn.field? line = some (money line amount))
    (hexact : ∀ d, amount (returnScope p.solver) = .ok d →
      (∀ key ∈ sources, p.solver.values.Shows (returnLine key)) ∧ d.KeptAs x) :
    Computed p.solver.values line sources x := by
  intro hhas
  obtain ⟨d, hd, hv⟩ := h.exists_money instantiate_return (by decide) hfield hhas
  obtain ⟨hshown, hkept⟩ := hexact d hd
  exact ⟨List.forall_mem_cons.mpr ⟨⟨_, hv⟩, hshown⟩, (ValueStore.amount_of_get? hv).trans hkept⟩

theorem Ranged.computed_sumOf (hfield : individualReturn.field? line = some (sumOf line lines))
    (hroom : LeavesRoom lines) :
    Computed p.solver.values line lines (lines.map (amountOn p.solver.values)).sum := by
  refine h.computed hfield fun d hd => ?_
  have hq : ∀ key ∈ lines, (returnScope p.solver).qualify key = returnLine key :=
    fun key hk => qualify_returnScope (hroom.1 key hk)
  have hcaps : lines.map (fun key => fieldCap ((returnScope p.solver).qualify key)) =
      lines.map fun key => dollarCap ("1040", key) :=
    List.map_congr_left fun key hk => by rw [hq key hk, fieldCap_returnLine]
  have hamounts : lines.map (fun key =>
      (returnScope p.solver).values.amount ((returnScope p.solver).qualify key)) =
        lines.map (amountOn p.solver.values) :=
    List.map_congr_left fun key hk => by rw [hq key hk]; rfl
  obtain ⟨hshown, -, hkept⟩ := keptAs_sumLines h.capped (hcaps.symm ▸ hroom.2) hd
  rw [hamounts] at hkept
  exact ⟨fun key hk => hq key hk ▸ hshown key hk, hkept⟩

theorem Ranged.toRat_of_difference (hroom : LeavesRoom [minuend, subtrahend]) {d : Decimal}
    (hd : difference what minuend subtrahend (returnScope p.solver) = .ok d) :
    (∀ key ∈ [minuend, subtrahend], p.solver.values.Shows (returnLine key)) ∧ d.scale = 2 ∧
      d.toRat = amountOn p.solver.values minuend - amountOn p.solver.values subtrahend := by
  obtain ⟨hbare, hsum⟩ := hroom
  simp only [List.forall_mem_cons, List.map_cons, List.map_nil, List.sum_cons, List.sum_nil,
    add_zero] at hbare hsum
  have hm := @qualify_returnScope p.solver _ hbare.1
  have hs := @qualify_returnScope p.solver _ hbare.2.1
  rw [← fieldCap_returnLine, ← fieldCap_returnLine, ← hm, ← hs] at hsum
  obtain ⟨⟨hsm, hss⟩, hscale, hx⟩ := Compute.toRat_of_difference h.capped hsum hd
  rw [hm] at hsm hx
  rw [hs] at hss hx
  exact ⟨by simpa using ⟨hsm, hss⟩, hscale, hx⟩

theorem Ranged.computed_difference
    (hfield : individualReturn.field? line = some (money line (difference what minuend subtrahend)))
    (hroom : LeavesRoom [minuend, subtrahend]) :
    Computed p.solver.values line [minuend, subtrahend]
      (amountOn p.solver.values minuend - amountOn p.solver.values subtrahend) := by
  refine h.computed hfield fun d hd => ?_
  obtain ⟨hshown, hscale, hx⟩ := h.toRat_of_difference hroom hd
  exact ⟨hshown, hx ▸ Decimal.keptAs_toRat hscale⟩

theorem Ranged.computed_remainder
    (hfield : individualReturn.field? line = some (money line (remainder what minuend subtrahend)))
    (hroom : LeavesRoom [minuend, subtrahend]) :
    Computed p.solver.values line [minuend, subtrahend]
      (max 0 (amountOn p.solver.values minuend - amountOn p.solver.values subtrahend)) := by
  refine h.computed hfield fun d hd => ?_
  obtain ⟨e, he, hd⟩ := bind_eq_ok.mp hd
  cases hd
  obtain ⟨hshown, hscale, hx⟩ := h.toRat_of_difference hroom he
  exact ⟨hshown, hx ▸ Decimal.keptAs_nonNegative hscale⟩

theorem Ranged.balances (hlen : inputs.given.names.length ≤ Correspondence.mostInstances) :
    Balances inputs p.solver.inputs p.solver.values := by
  have hoverpaid : Computed p.solver.values "34" ["33", "24"]
      (max 0 (amountOn p.solver.values "33" - amountOn p.solver.values "24")) :=
    h.computed_remainder rfl (by decide)
  have howed : Computed p.solver.values "37" ["24", "33"]
      (max 0 (amountOn p.solver.values "24" - amountOn p.solver.values "33")) :=
    h.computed_remainder rfl (by decide)
  constructor
  case wages => exact h.totalsBox hlen rfl rfl (by decide) (by decide)
  case withheld => exact h.totalsBox hlen rfl rfl (by decide) (by decide)
  case totalIncome =>
    have hsum := @Ranged.computed_sumOf p "9" _ _ h rfl (by decide)
    simpa [add_assoc] using hsum
  case adjustedIncome => exact h.computed_difference rfl (by decide)
  case taxableIncome => exact h.computed_remainder rfl (by decide)
  case taxAfterCredits => exact h.computed_remainder rfl (by decide)
  case totalTax => simpa using @Ranged.computed_sumOf p "24" _ _ h rfl (by decide)
  case payments => simpa using @Ranged.computed_sumOf p "33" _ _ h rfl (by decide)
  case refunded => simpa using @Ranged.computed_sumOf p "35a" _ _ h rfl (by decide)
  case overpaid => exact hoverpaid
  case owed => exact howed
  case oneSided =>
    intro h34 h37
    rw [(hoverpaid h34).2, (howed h37).2]
    rcases le_total (amountOn p.solver.values "33") (amountOn p.solver.values "24") with hle | hle
    · rw [max_eq_left (sub_nonpos.mpr hle), max_eq_right (sub_nonneg.mpr hle)]
      exact ⟨.inl rfl, by ring⟩
    · rw [max_eq_right (sub_nonneg.mpr hle), max_eq_left (sub_nonpos.mpr hle)]
      exact ⟨.inr rfl, by ring⟩

end ranged

/-- Whatever is given in no more sections than are counted, whatever was asked for before, whoever
answers and however a solve ends, the lines of the return that are committed satisfy its equations
exactly. -/
theorem solve_balances {σ : Type} (h : Session (initial library inputs canAsk) calls s)
    (hlen : inputs.given.names.length ≤ Correspondence.mostInstances)
    (ask : Question → StateM σ (Option String)) (n : ℕ) (w : σ) :
    Balances inputs ((s.solve ask n).run w).1.solver.inputs
      ((s.solve ask n).run w).1.solver.values := by
  obtain ⟨lost, hs⟩ := ranged_session hlen h
  obtain ⟨p, hp, hvalues, hinputs, -⟩ := hs.exists_ending hlen ask n w
  rw [hvalues, hinputs]
  exact hp.balances hlen

/-- A return with two statements of wages, one of them with half a cent in each box. -/
def halfCents : Sections :=
  [("1040", "first_name", "A"), ("1040", "last_name", "B"), ("1040", "ssn", "123-45-6789"),
    ("1040", "filing_status", "single"), ("1040", "virtual_currency", "no"),
    ("1040", "itemize", "no"), ("1040", "dependents", "0"),
    ("1040_s1", "mortgage_interest_refund", "0"), ("1040_s1", "alimony_paid", "0"),
    ("1040_s1", "other_adjustments", "0"), ("w-2:a", "box_1", "20000"), ("w-2:a", "box_2", "500"),
    ("w-2:b", "box_1", "0.015"), ("w-2:b", "box_2", "0.005")].foldl
    (fun given entry => given.set entry.1 entry.2.1 entry.2.2) .empty

set_option maxRecDepth 100000 in
theorem exists_solved_halfCents : ∃ s, Session (initial library (.ofSections halfCents) false)
    [(.addForm "1040", .added), (.solve, .returned true)] s ∧
    ["1a", "25a", "34"].map (fun line => s.values.get? (returnLine line)) =
      [some (.number (.cents 2000002)), some (.number (.cents 50000)), some (.number (.cents 0))] :=
  exists_session _ (fun _ => none) 400 _
    (fun s => ["1a", "25a", "34"].map fun line => s.values.get? (returnLine line)) _
    (by decide +kernel)

/-- Half a cent is dropped or becomes a whole one, whichever is even. -/
theorem solve_balances_halfCents : ∃ s,
    Session (initial library (.ofSections halfCents) false)
      [(.addForm "1040", .added), (.solve, .returned true)] s ∧
    halfCents.names.length ≤ Correspondence.mostInstances ∧
    ["1a", "25a", "34"].map (fun line => s.values.get? (returnLine line)) =
      [some (.number (.cents 2000002)), some (.number (.cents 50000)), some (.number (.cents 0))] ∧
    Balances (.ofSections halfCents) s.inputs s.values := by
  obtain ⟨s, hs, hseen⟩ := exists_solved_halfCents
  have hlen : halfCents.names.length ≤ Correspondence.mostInstances := by decide +kernel
  exact ⟨s, hs, hlen, hseen,
    solve_balances hs hlen (fun _ => (pure none : StateM Unit _)) 0 ()⟩

end TaxReturn.Year2023
