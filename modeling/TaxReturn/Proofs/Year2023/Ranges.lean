import TaxReturn.Proofs.Ranges
import TaxReturn.Proofs.Year2023.Demands

/-! How large the amounts on the lines of 2023 get. -/
namespace TaxReturn.Year2023

open Compute Line FilingStatus

variable {form : Form} {a : Scope} {name key what minuend subtrahend q base n : String}
  {kind : ValueKind} {income lower tax start width : Decimal} {i j k t u w : ℕ}
  {status : FilingStatus}

section figureTax

open Decimal

/-- In each bracket the tax grows by no more than the income in it. -/
theorem exists_taxFrom {brackets : List Bracket}
    (hb : ∀ bracket ∈ brackets, bracket.upper.AtMost u ∧ bracket.rate.AtMost 1)
    (hi : income.AtMost i) (hl : lower.AtMost u) (ht : tax.AtMost t)
    (hlimit : t + brackets.length * (i + u + u) < limit) :
    ∃ c, taxFrom income lower tax brackets = some c ∧
      c.AtMost (t + brackets.length * (i + u + u)) := by
  induction brackets generalizing lower tax t with
  | nil => exact ⟨tax, rfl, ht.mono (Nat.le_add_right _ _)⟩
  | cons bracket rest ih =>
    rw [taxFrom]
    split
    · exact ⟨tax, rfl, ht.mono (Nat.le_add_right _ _)⟩
    · obtain ⟨hupper, hrate⟩ := hb bracket List.mem_cons_self
      rw [List.length_cons, Nat.add_one_mul] at hlimit ⊢
      have hmin : (min income bracket.upper).AtMost (i + u) :=
        (hi.mono (Nat.le_add_right i u)).min (hupper.mono (Nat.le_add_left u i))
      obtain ⟨slice, hslice, hs⟩ := hmin.exists_sub? hl (by omega)
      obtain ⟨part, hpart, hp⟩ := hs.exists_mul? hrate (by omega)
      rw [mul_one] at hp
      obtain ⟨next, hnext, hn⟩ := ht.exists_add? hp (by omega)
      obtain ⟨c, hc, hbound⟩ := ih (fun other ho => hb other (List.mem_cons_of_mem _ ho)) hupper hn
        (by omega)
      refine ⟨c, ?_, hbound.mono (by omega)⟩
      simp only [hslice, hpart, hnext, Option.bind_eq_bind, Option.bind_some, hc]

instance {k : ℕ} {d : Decimal} : Decidable (d.AtMost k) := by
  unfold AtMost
  infer_instance

/-- Where the last bracket ends. -/
def topOfBrackets : ℕ := 4294967295

theorem exists_bracketTax (hi : income.AtMost i)
    (hlimit : 7 * (i + topOfBrackets + topOfBrackets) < limit) :
    ∃ c, bracketTax income status = some c ∧
      c.AtMost (7 * (i + topOfBrackets + topOfBrackets)) := by
  have hb : ∀ bracket ∈ brackets status,
      bracket.upper.AtMost topOfBrackets ∧ bracket.rate.AtMost 1 := by
    cases status <;> decide
  have hlength : (brackets status).length = 7 := by cases status <;> rfl
  obtain ⟨c, hc, hbound⟩ := exists_taxFrom hb hi (atMost_zero.mono (Nat.zero_le _)) atMost_zero
    (by rwa [hlength, zero_add])
  exact ⟨c, hc, by rwa [hlength, zero_add] at hbound⟩

theorem exists_rowStart (hi : income.AtMost k) (hw : width.AtMost w)
    (hone : tenTo width.scale ≤ width.magnitude) (hk : k < limit) (hlimit : k * w < limit) :
    ∃ c, rowStart income width = some c ∧ c.AtMost (k * w) := by
  obtain ⟨x, hx, hxb⟩ := hi.exists_div? hone hk
  obtain ⟨y, hy, hyb⟩ := hxb.exists_floor? hk
  obtain ⟨z, hz, hzb⟩ := hyb.exists_mul? hw hlimit
  exact ⟨z, by simp [rowStart, hx, hy, hz], hzb⟩

theorem exists_rowMiddle (hs : start.AtMost k) (hw : width.AtMost w) (hlimit : k + w < limit) :
    ∃ c, rowMiddle start width = some c ∧ c.AtMost (k + w) := by
  obtain ⟨x, hx, hxb⟩ := @AtMost.exists_div? _ (.ofNat 2) _ hw (by decide) (by omega)
  obtain ⟨y, hy, hyb⟩ := hs.exists_add? hxb hlimit
  exact ⟨y, by simp [rowMiddle, hx, hy], hyb⟩

/-- The widest rows of the table are of fifty dollars. -/
theorem atMost_tableMidpoint {c : Decimal} (hi : income.AtMost 100000)
    (hm : tableMidpoint income = some c) : c.AtMost (50 * 100000 + 50) := by
  have hwidth : ∀ n (hn : n < limit), (ofNat n hn).AtMost n := fun n hn => atMost_ofNat hn
  unfold tableMidpoint at hm
  split at hm
  · cases hm
  split at hm
  · obtain ⟨m, hm', hb⟩ := exists_rowMiddle (hwidth 5 (by decide)) (hwidth 10 (by decide))
      (by decide)
    cases hm.symm.trans hm'
    exact hb.mono (by decide)
  split at hm
  · obtain ⟨m, hm', hb⟩ := exists_rowMiddle (hwidth 15 (by decide)) (hwidth 10 (by decide))
      (by decide)
    cases hm.symm.trans hm'
    exact hb.mono (by decide)
  split at hm
  · obtain ⟨x, hx, hxb⟩ := hi.exists_sub? (hwidth 25 (by decide)) (by decide)
    obtain ⟨y, hy, hyb⟩ := exists_rowStart hxb (hwidth 25 (by decide)) (by decide) (by decide)
      (by decide)
    obtain ⟨z, hz, hzb⟩ := hyb.exists_add? (hwidth 25 (by decide)) (by decide)
    obtain ⟨m, hm', hb⟩ := exists_rowMiddle hzb (hwidth 25 (by decide)) (by decide)
    simp only [hx, hy, hz, Option.bind_eq_bind, Option.bind_some] at hm
    cases hm.symm.trans hm'
    exact hb.mono (by decide)
  · obtain ⟨y, hy, hyb⟩ := exists_rowStart hi (hwidth 50 (by decide)) (by decide) (by decide)
      (by decide)
    obtain ⟨m, hm', hb⟩ := exists_rowMiddle hyb (hwidth 50 (by decide)) (by decide)
    simp only [hy, Option.bind_eq_bind, Option.bind_some] at hm
    cases hm.symm.trans hm'
    exact hb.mono (by decide)

/-- An income that the table is for is below its limit, whichever its sign. -/
theorem atMost_of_tableMidpoint {c : Decimal} (hlimit : ¬ tableLimit ≤ income)
    (hm : tableMidpoint income = some c) : income.AtMost 100000 := by
  have hfive : ¬ income < .ofNat 5 := by
    intro h
    rw [tableMidpoint, if_pos h] at hm
    cases hm
  have htable : tableLimit.units = 100000 := rfl
  have hunits : (Decimal.ofNat 5).units = 5 := rfl
  have hpos := tenTo_pos income.scale
  have hone : tenTo 0 = 1 := rfl
  have hzero : tableLimit.scale = 0 ∧ (Decimal.ofNat 5).scale = 0 := ⟨rfl, rfl⟩
  rw [le_iff_units, htable, hzero.1, hone] at hlimit
  rw [lt_iff_units, hunits, hzero.2, hone] at hfive
  have habs := natAbs_units income
  unfold AtMost
  omega

/-- Whatever the income, there is a tax on it. -/
theorem exists_figureTax (hi : income.AtMost i) (hlow : 50 * 100000 + 50 ≤ i)
    (hlimit : 7 * (i + topOfBrackets + topOfBrackets) < limit) :
    ∃ c, figureTax income status = some c ∧
      c.AtMost (7 * (i + topOfBrackets + topOfBrackets)) := by
  unfold figureTax
  split
  · obtain ⟨c, hc, hb⟩ := exists_bracketTax hi hlimit
    exact ⟨_, by rw [hc, Option.map_some], hb.round 2⟩
  · rename_i htable
    cases hm : tableMidpoint income with
    | none => exact ⟨0, rfl, atMost_zero.mono (Nat.zero_le _)⟩
    | some midpoint =>
      have hmid := atMost_tableMidpoint (atMost_of_tableMidpoint htable hm) hm
      obtain ⟨c, hc, hb⟩ := @exists_bracketTax midpoint i status (hmid.mono hlow) hlimit
      exact ⟨c.round .awayFromZero 0, by simp [hc], hb.round 0⟩

end figureTax

/-- The most instances of a form that are counted: the inputs have sections for so many, and the
answers open sections for two more, the health savings accounts. -/
def mostCounted : ℕ := Correspondence.mostInstances + 2

/-- How many amounts that are read, and how many totals of such amounts, a line can come to. On a
line that is left out there is no amount but zero. -/
def lineCaps : List ((String × String) × ℕ × ℕ) :=
  [(("w-2", "wages"), 1, 0), (("w-2", "withholding"), 1, 0),
    (("1099-int", "interest"), 1, 0), (("1099-int", "penalty"), 1, 0),
    (("1099-int", "treasury_interest"), 1, 0), (("1099-int", "withholding"), 1, 0),
    (("1099-int", "tax_exempt"), 1, 0), (("1099-int", "taxable"), 2, 0),
    (("1099-g", "unemployment"), 1, 0), (("1099-g", "refund"), 1, 0),
    (("8889", "2"), 1, 0), (("8889", "3"), 1, 0), (("8889", "6"), 1, 0), (("8889", "7"), 1, 0),
    (("8889", "8"), 2, 0), (("8889", "9"), 1, 0), (("8889", "11"), 1, 0), (("8889", "12"), 3, 0),
    (("8889", "13"), 3, 0),
    (("1040_s1", "1"), 0, 1), (("1040_s1", "7"), 0, 1), (("1040_s1", "8z"), 1, 0),
    (("1040_s1", "9"), 1, 0), (("1040_s1", "10"), 1, 2), (("1040_s1", "13"), 0, 3),
    (("1040_s1", "18"), 0, 1), (("1040_s1", "19a"), 1, 0), (("1040_s1", "24z"), 1, 0),
    (("1040_s1", "25"), 1, 0), (("1040_s1", "26"), 2, 4),
    (("1040_sb", "1"), 0, 2), (("1040_sb", "2"), 0, 2), (("1040_sb", "4"), 0, 2),
    (("1040", "1a"), 0, 1), (("1040", "1z"), 0, 1), (("1040", "2a"), 0, 1), (("1040", "2b"), 0, 2),
    (("1040", "8"), 1, 2), (("1040", "9"), 1, 5), (("1040", "10"), 2, 4), (("1040", "11"), 3, 9),
    (("1040", "12"), 1, 0), (("1040", "14"), 1, 0), (("1040", "15"), 4, 9),
    -- Each of the seven brackets may take all of line 15 and as much again as its own ends.
    (("1040", "16"), 29, 63), (("1040", "18"), 29, 63), (("1040", "22"), 29, 63),
    (("1040", "24"), 29, 63), (("1040", "25a"), 0, 1), (("1040", "25b"), 0, 1),
    (("1040", "25d"), 0, 2), (("1040", "33"), 0, 2), (("1040", "34"), 29, 65),
    (("1040", "35a"), 29, 65), (("1040", "37"), 29, 65)]

/-- The most dollars that a line can come to. -/
def dollarCap (line : String × String) : ℕ :=
  (lineCaps.find? fun cap => cap.1 == line).elim 0 fun cap =>
    cap.2.1 * Decimal.maxAmount + cap.2.2 * (mostCounted * Decimal.maxAmount)

/-- The most dollars that a field can come to. -/
def fieldCap (f : String) : ℕ := (fieldLine f).elim 0 dollarCap

/-- The stores from which a field of a form is evaluated are within bounds. -/
structure Bounded (form : Form) (a : Scope) : Prop where
  fits : a.Fits library form
  capped : a.values.Capped fieldCap
  few : ∀ q ∈ counted, (a.inputs.instances q).length ≤ mostCounted

/-- What a field of a form comes to is within the bounds of its line. -/
def Capped (form : Form) (field : Field) : Prop :=
  ∀ a n, Bounded form a →
    Compute.Stays a (field.evaluate n) fun v => v.Kept (dollarCap (form.name, field.name))

/-- The cap of a line covers the sum of other lines, which its form can read. -/
def Covers (form base : String) (lines : List String) : Prop :=
  (∀ key ∈ lines, ':' ∉ (lineOf form key).1.toList) ∧
    (lines.map fun key => dollarCap (lineOf form key)).sum ≤ dollarCap (form, base)

instance {form base : String} {lines : List String} : Decidable (Covers form base lines) := by
  unfold Covers
  infer_instance

/-- There is room for the cents on every line. -/
theorem dollarCap_lt (line : String × String) :
    dollarCap line * Decimal.tenTo 2 < Decimal.limit := by
  have hall : ∀ cap ∈ lineCaps, (cap.2.1 * Decimal.maxAmount +
      cap.2.2 * (mostCounted * Decimal.maxAmount)) * Decimal.tenTo 2 < Decimal.limit := by decide
  unfold dollarCap
  cases h : lineCaps.find? fun cap => cap.1 == line with
  | none =>
    rw [Option.elim_none, zero_mul]
    exact Decimal.limit_pos
  | some cap =>
    rw [Option.elim_some]
    exact hall cap (List.mem_of_find?_eq_some h)

theorem dollarCap_lt_limit (line : String × String) : dollarCap line < Decimal.limit :=
  (Nat.le_mul_of_pos_right _ (Decimal.tenTo_pos 2)).trans_lt (dollarCap_lt line)

theorem fieldCap_scoped {name : FormName} (hp : FormName.parse q = .ok name) :
    fieldCap (q ++ "." ++ base) = dollarCap (name.name, base) := by
  rw [fieldCap, fieldLine_scoped hp, Option.elim_some]

theorem fieldCap_instance {inputs : InputStore} {tag : String} (ht : tag ∈ inputs.instances q) :
    fieldCap (q ++ ":" ++ tag ++ "." ++ base) = dollarCap (q, base) := by
  rw [fieldCap, fieldLine_instance ht, Option.elim_some]

theorem fieldCap_qualify (ha : a.Fits library form)
    (hc : ':' ∉ (lineOf form.name key).1.toList) :
    fieldCap (a.qualify key) ≤ dollarCap (lineOf form.name key) := by
  obtain ⟨name, hi⟩ := ha.instantiate
  unfold fieldCap ValueView.qualify
  cases h : fieldLine (Name.scopeTo a.form key) with
  | none => exact Nat.zero_le _
  | some line => rw [fieldLine_scopeTo hi hc h, Option.elim_some]

section bounded

variable (ha : Bounded form a)

include ha

theorem Bounded.line (hc : ':' ∉ (lineOf form.name key).1.toList) :
    (line key).Stays a fun d => d.AtMost (dollarCap (lineOf form.name key)) :=
  (stays_line ha.capped).mono fun _ hd => hd.atMost.mono (fieldCap_qualify ha.fits hc)

theorem Bounded.value (hc : ':' ∉ (lineOf form.name key).1.toList) :
    (value key).Stays a fun v => v.AtMost (dollarCap (lineOf form.name key)) :=
  (stays_value ha.capped).mono fun _ hv d hd => (hv d hd).atMost.mono (fieldCap_qualify ha.fits hc)

theorem Bounded.sumLines {lines : List String} (h : Covers form.name base lines) :
    (sumLines what 0 lines).Stays a fun d => d.AtMost (dollarCap (form.name, base)) := by
  have hlimit := h.2.trans_lt (dollarCap_lt_limit _)
  refine (stays_sumLines Decimal.atMost_zero (fun key hk => ha.line (h.1 key hk)) ?_).mono
    fun d hd => hd.mono ?_
  · rwa [zero_add]
  · rw [zero_add]
    exact h.2

theorem Bounded.sumInstances (hq : q ∈ counted)
    (h : mostCounted * dollarCap (q, base) ≤ dollarCap (form.name, name)) :
    (sumInstances q base).Stays a fun d => d.AtMost (dollarCap (form.name, name)) := by
  have hcap : ∀ tag ∈ a.inputs.instances q,
      fieldCap (q ++ ":" ++ tag ++ "." ++ base) ≤ dollarCap (q, base) :=
    fun tag ht => (fieldCap_instance ht).le
  refine (stays_sumInstances ha.capped (ha.few q hq) hcap ?_).mono fun d hd => hd.mono h
  exact h.trans_lt (dollarCap_lt_limit _)

theorem Bounded.difference (h : Covers form.name base [minuend, subtrahend]) :
    (difference what minuend subtrahend).Stays a
      fun d => d.AtMost (dollarCap (form.name, base)) := by
  obtain ⟨hc, hsum⟩ := h
  simp only [List.forall_mem_cons, List.map_cons, List.map_nil, List.sum_cons, List.sum_nil,
    add_zero] at hc hsum
  refine (ha.line hc.1).bind fun x hx => ?_
  refine (ha.line hc.2.1).bind fun y hy => ?_
  exact (stays_minus hx hy (hsum.trans_lt (dollarCap_lt_limit _))).mono fun d hd => hd.mono hsum

end bounded

theorem capped_money {amount : Compute Decimal} (h : ∀ a, Bounded form a →
    amount.Stays a fun d => d.AtMost (dollarCap (form.name, name))) :
    Capped form (money name amount) :=
  fun a _ ha => Field.stays_money rfl
    ((h a ha).map fun _ hd => Value.atMost_number.mpr hd) (dollarCap_lt _)

theorem capped_other {c : Compute Value} (hk : kind.isAmount = false)
    (h : ∀ a, Bounded form a → c.Stays a fun _ => True) : Capped form ⟨name, kind, c⟩ :=
  fun a _ ha => Field.stays_other hk (h a ha)

theorem capped_echo (hk : kind.isAmount = false) : Capped form (echo name kind key) :=
  capped_other hk fun _ _ => stays_input

theorem capped_echoMoney (h : form.asks (· == .float) key)
    (hc : Decimal.maxAmount ≤ dollarCap (form.name, name)) : Capped form (echoMoney name key) :=
  fun _ _ ha => Field.stays_money rfl
    ((stays_amount ha.fits h).mono fun _ hv d hd => (hv d hd).mono hc) (dollarCap_lt _)

theorem capped_carry (hc : ':' ∉ (lineOf form.name key).1.toList)
    (h : dollarCap (lineOf form.name key) ≤ dollarCap (form.name, name)) :
    Capped form (carry name key) :=
  fun _ _ ha => Field.stays_money rfl
    ((ha.value hc).mono fun _ hv d hd => (hv d hd).mono h) (dollarCap_lt _)

theorem capped_totalOf (hq : q ∈ counted)
    (h : mostCounted * dollarCap (q, base) ≤ dollarCap (form.name, name)) :
    Capped form (totalOf name q base) :=
  capped_money fun _ ha => ha.sumInstances hq h

theorem capped_sumOf {lines : List String} (h : Covers form.name name lines) :
    Capped form (sumOf name lines) :=
  capped_money fun _ ha => ha.sumLines h

theorem capped_difference (h : Covers form.name name [minuend, subtrahend]) :
    Capped form (money name (difference what minuend subtrahend)) :=
  capped_money fun _ ha => ha.difference h

theorem capped_remainder (h : Covers form.name name [minuend, subtrahend]) :
    Capped form (money name (remainder what minuend subtrahend)) :=
  capped_money fun _ ha => (ha.difference h).map fun _ hd => hd.nonNegative

theorem capped_zero : Capped form (money name (pure 0)) :=
  capped_money fun _ _ => stays_pure (Decimal.atMost_zero.mono (Nat.zero_le _))

theorem capped_mustBeNo {detail : String} : Capped form (mustBeNo name key detail) :=
  capped_other rfl fun _ _ =>
    ((@stays_input _ key).typed fun _ _ _ _ => trivial).bind fun _ _ =>
      stays_unsupported.ite (stays_pure trivial)

theorem stays_onReturn (ha : Bounded form a) : onReturn.Stays a fun _ => True := by
  refine ((stays_value ha.capped).typed fun _ _ _ _ => trivial).bind fun key _ => ?_
  unfold ofKey
  cases all.find? fun s => s.key == key.getD "" with
  | some status => exact stays_pure trivial
  | none => exact nofun

theorem capped_ofSpouse (hk : kind.isAmount = false) : Capped form (ofSpouse name kind) :=
  capped_other hk fun _ ha => (stays_onReturn ha).bind fun _ _ =>
    stays_input.ite (stays_pure trivial)

theorem capped_ofDeposit (hk : kind.isAmount = false) : Capped form (ofDeposit name kind key) :=
  capped_other hk fun _ ha => (stays_line ha.capped).bind fun _ _ =>
    (stays_pure trivial).ite stays_input

section individualReturn

variable (ha : Bounded individualReturn a)

include ha

theorem stays_taxableInterest : taxableInterest.Stays a
    fun v => v.AtMost (dollarCap (individualReturn.name, "2b")) := by
  have hdirect : (sumInstances "1099-int" "taxable").Stays a
      fun d => d.AtMost (dollarCap (individualReturn.name, "2b")) :=
    ha.sumInstances (by decide) (by decide)
  refine hdirect.bind fun direct hd => ?_
  refine Stays.ite ((ha.value (by decide)).mono fun v hv d hd => (hv d hd).mono (by decide)) ?_
  exact stays_pure (Value.atMost_number.mpr hd)

theorem stays_deductions : deductions.Stays a
    fun d => d.AtMost (dollarCap (individualReturn.name, "12")) := by
  have hall : ∀ status,
      (standardDeduction status).AtMost (dollarCap (individualReturn.name, "12")) := by
    intro status
    cases status <;> decide
  refine (stays_input.typed fun _ _ _ _ => trivial).bind fun itemize _ => ?_
  exact stays_unsupported.ite ((stays_onReturn ha).map fun status _ => hall status)

theorem stays_incomeTax : incomeTax.Stays a
    fun d => d.AtMost (dollarCap (individualReturn.name, "16")) := by
  have hcap : 7 * (dollarCap ("1040", "15") + topOfBrackets + topOfBrackets) ≤
      dollarCap (individualReturn.name, "16") := by decide
  refine (stays_onReturn ha).bind fun status _ => ?_
  refine (ha.line (by decide)).bind fun income hi => stays_orOverflow ?_
  obtain ⟨c, hc, hb⟩ := exists_figureTax hi (by decide)
    (hcap.trans_lt (dollarCap_lt_limit _))
  exact ⟨c, hc, hb.mono hcap⟩

omit ha in
theorem stays_dependentCredit : dependentCredit.Stays a fun d => d.AtMost 0 := by
  refine (stays_input.typed fun _ _ _ _ => trivial).bind fun dependents _ => ?_
  exact stays_unsupported.ite (stays_pure Decimal.atMost_zero)

theorem stays_medicareTax : medicareTax.Stays a fun d => d.AtMost 0 := by
  refine (stays_onReturn ha).bind fun status _ => ?_
  refine (stays_line ha.capped).bind fun wages _ => ?_
  exact stays_unsupported.ite (stays_pure Decimal.atMost_zero)

theorem stays_earnedIncomeCredit : earnedIncomeCredit.Stays a fun d => d.AtMost 0 := by
  refine (stays_onReturn ha).bind fun status _ => ?_
  refine (stays_line ha.capped).bind fun income _ => ?_
  refine (stays_pure Decimal.atMost_zero).ite ?_
  refine (stays_input.typed fun _ _ _ _ => trivial).bind fun dependents _ => ?_
  exact stays_unsupported.ite (stays_pure Decimal.atMost_zero)

theorem stays_estimatedTaxPenalty : estimatedTaxPenalty.Stays a fun d => d.AtMost 0 := by
  refine (stays_line ha.capped).bind fun owed _ => ?_
  exact stays_unsupported.ite (stays_pure Decimal.atMost_zero)

end individualReturn

theorem stays_alimonyPaid (ha : Bounded scheduleOne a) :
    alimonyPaid.Stays a fun d => d.AtMost (dollarCap (scheduleOne.name, "19a")) := by
  have hzero : (0 : Decimal).AtMost (dollarCap (scheduleOne.name, "19a")) := by decide
  refine ((stays_amount ha.fits (by decide)).typed fun v d hv hd => hv d hd).bind fun paid hp => ?_
  refine (stays_pure hzero).ite ?_
  refine (stays_input.typed fun _ _ _ _ => trivial).bind fun old _ => ?_
  exact (stays_pure (hp.mono (by decide))).ite (stays_pure hzero)

theorem stays_alimonyRecipient (ha : Bounded scheduleOne a) :
    alimonyRecipient.Stays a fun _ => True :=
  (stays_line ha.capped).bind fun _ _ => (stays_pure trivial).ite stays_input

section healthSavings

variable (ha : Bounded healthSavings a)

include ha

theorem stays_coverageLimit : coverageLimit.Stays a
    fun d => d.AtMost (dollarCap (healthSavings.name, "3")) := by
  refine ((stays_value ha.capped).typed fun _ _ _ _ => trivial).map fun coverage _ => ?_
  split <;> decide

omit ha in
theorem stays_catchUp :
    catchUp.Stays a fun d => d.AtMost (dollarCap (healthSavings.name, "7")) := by
  refine (stays_input.typed fun _ _ _ _ => trivial).map fun old _ => ?_
  split <;> decide

theorem stays_deduction : deduction.Stays a
    fun d => d.AtMost (dollarCap (healthSavings.name, "13")) := by
  refine (ha.line (by decide)).bind fun contributed hc => ?_
  refine (ha.line (by decide)).map fun room hr => ?_
  exact (hc.mono (by decide)).min (hr.mono (by decide))

omit ha in
theorem stays_distributions : distributions.Stays a fun d => d.AtMost 0 := by
  refine (stays_input.typed fun _ _ _ _ => trivial).bind fun paid _ => ?_
  exact (stays_pure Decimal.atMost_zero).ite stays_unsupported

end healthSavings

theorem capped_statements :
    (∀ field ∈ wageStatement.fields, Capped wageStatement field) ∧
    (∀ field ∈ interestStatement.fields, Capped interestStatement field) ∧
    ∀ field ∈ governmentStatement.fields, Capped governmentStatement field := by
  simp only [Form.fields, wageStatement, interestStatement, governmentStatement,
    List.nil_append, List.forall_mem_cons]
  refine ⟨⟨capped_echo rfl, capped_echoMoney (by decide) (by decide),
      capped_echoMoney (by decide) (by decide), by simp⟩,
    ⟨capped_echo rfl, capped_echoMoney (by decide) (by decide),
      capped_echoMoney (by decide) (by decide), capped_echoMoney (by decide) (by decide),
      capped_echoMoney (by decide) (by decide), capped_echoMoney (by decide) (by decide), ?_,
      by simp⟩,
    capped_echo rfl, capped_echoMoney (by decide) (by decide),
    capped_echoMoney (by decide) (by decide), by simp⟩
  refine capped_money fun a ha => ?_
  refine (ha.line (by decide)).bind fun interest hi => ?_
  refine (ha.line (by decide)).bind fun treasury ht => ?_
  exact (stays_plus hi ht (by decide)).mono fun d hd => hd.mono (by decide)

theorem capped_scheduleOne : ∀ field ∈ scheduleOne.fields, Capped scheduleOne field := by
  simp only [Form.fields, scheduleOne, List.append_nil, List.forall_mem_cons]
  exact ⟨capped_totalOf (by decide) (by decide), capped_totalOf (by decide) (by decide),
    capped_echoMoney (by decide) (by decide), capped_sumOf (by decide), capped_sumOf (by decide),
    capped_totalOf (by decide) (by decide), capped_totalOf (by decide) (by decide),
    capped_money fun _ => stays_alimonyPaid, capped_other rfl fun _ => stays_alimonyRecipient,
    capped_echoMoney (by decide) (by decide), capped_sumOf (by decide), capped_sumOf (by decide),
    by simp⟩

theorem capped_scheduleB : ∀ field ∈ scheduleB.fields, Capped scheduleB field := by
  simp only [Form.fields, scheduleB, List.append_nil, List.forall_mem_cons]
  exact ⟨capped_totalOf (by decide) (by decide), capped_sumOf (by decide), capped_zero,
    capped_difference (by decide), capped_mustBeNo, capped_mustBeNo, by simp⟩

theorem capped_healthSavings : ∀ field ∈ healthSavings.fields, Capped healthSavings field := by
  simp only [Form.fields, healthSavings, List.cons_append, List.nil_append, List.forall_mem_cons]
  exact ⟨capped_money fun _ => stays_deduction, capped_money fun _ _ => stays_distributions,
    capped_echo rfl, capped_echoMoney (by decide) (by decide),
    capped_money fun _ => stays_coverageLimit, capped_sumOf (by decide),
    capped_money fun _ _ => stays_catchUp, capped_sumOf (by decide),
    capped_echoMoney (by decide) (by decide), capped_sumOf (by decide),
    capped_remainder (by decide), by simp⟩

theorem capped_individualReturn :
    ∀ field ∈ individualReturn.fields, Capped individualReturn field := by
  simp only [Form.fields, individualReturn, List.append_nil, List.forall_mem_cons]
  exact ⟨capped_echo rfl, capped_echo rfl, capped_echo rfl, capped_echo rfl, capped_ofSpouse rfl,
    capped_ofSpouse rfl, capped_ofSpouse rfl, capped_mustBeNo,
    capped_totalOf (by decide) (by decide), capped_sumOf (by decide),
    capped_totalOf (by decide) (by decide), fun _ _ ha => Field.stays_money rfl
      (stays_taxableInterest ha) (dollarCap_lt _),
    capped_carry (by decide) (by decide), capped_sumOf (by decide),
    capped_carry (by decide) (by decide), capped_difference (by decide),
    capped_money fun _ => stays_deductions, capped_zero, capped_sumOf (by decide),
    capped_remainder (by decide), capped_money fun _ => stays_incomeTax, capped_sumOf (by decide),
    capped_money fun _ _ => stays_dependentCredit, capped_sumOf (by decide),
    capped_remainder (by decide), capped_money fun _ => stays_medicareTax,
    capped_sumOf (by decide), capped_totalOf (by decide) (by decide),
    capped_totalOf (by decide) (by decide), capped_sumOf (by decide),
    capped_money fun _ => stays_earnedIncomeCredit, capped_sumOf (by decide),
    capped_sumOf (by decide), capped_remainder (by decide), capped_sumOf (by decide),
    capped_ofDeposit rfl, capped_ofDeposit rfl, capped_ofDeposit rfl,
    capped_remainder (by decide), capped_money fun _ => stays_estimatedTaxPenalty, by simp⟩

/-- Every field of 2023 keeps within the bounds of its line. -/
theorem capped_library : ∀ form ∈ library.forms, ∀ field ∈ form.fields, Capped form field := by
  simp only [library, List.forall_mem_cons]
  exact ⟨capped_individualReturn, capped_scheduleOne, capped_scheduleB, capped_healthSavings,
    capped_statements.1, capped_statements.2.1, capped_statements.2.2, by simp⟩

end TaxReturn.Year2023
