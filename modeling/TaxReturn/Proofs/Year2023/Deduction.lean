import TaxReturn.Proofs.Decimal.Exact
import TaxReturn.Proofs.Year2023.Balance

/-! What a health savings account deducts. Line 8 is the limit of the year and line 12 what the
employer leaves of it, but never less than nothing; line 13 is as much of the own contributions. No
amount is checked for its sign. So own contributions below zero are deducted as they are, and those
of an employer below zero make room beyond the limit. -/
namespace TaxReturn.Year2023

open Compute Line Solver

/-- The forms of the accounts, one for each covered person. -/
def accounts : List String := ["8889:taxpayer", "8889:spouse"]

/-- What may be contributed in the year. -/
def yearlyLimit (coverage : Option String) (aged : Bool) : ℚ :=
  (if coverage = some "family" then 7750 else 3850) + if aged then 1000 else 0

/-- What is entered for an account and counts for its deduction. -/
structure Account where
  coverage : Option String
  aged : Bool
  own : Decimal
  employer : Decimal

namespace Account

variable (account : Account)

def limit : ℚ := yearlyLimit account.coverage account.aged

/-- What the employer leaves of the limit. -/
def room : ℚ := max 0 (account.limit - roundedToCents account.employer.toRat)

def deduction : ℚ := min (roundedToCents account.own.toRat) account.room

/-- The inputs have these entries for the form of the account. -/
structure Entered (inputs : InputStore) (q : String) : Prop where
  coverage : inputs.parse (q ++ "." ++ "coverage") = .ok (.choice account.coverage)
  aged : inputs.parse (q ++ "." ++ "age_55") = .ok (.bool account.aged)
  own : inputs.parse (q ++ "." ++ "contributions") = .ok (.number account.own)
  employer : inputs.parse (q ++ "." ++ "employer_contributions") = .ok (.number account.employer)

theorem room_nonneg : 0 ≤ account.room := le_max_left _ _

theorem limit_nonneg : 0 ≤ account.limit := by
  unfold limit yearlyLimit
  split <;> split <;> norm_num

theorem deduction_nonneg_iff : 0 ≤ account.deduction ↔ 0 ≤ roundedToCents account.own.toRat := by
  simp [deduction, account.room_nonneg]

/-- The room is within the limit unless the employer takes something back. -/
theorem room_le_limit_iff :
    account.room ≤ account.limit ↔ 0 ≤ roundedToCents account.employer.toRat := by
  simp [room, account.limit_nonneg]

theorem deduction_le_limit_iff : account.deduction ≤ account.limit ↔
    0 ≤ roundedToCents account.employer.toRat ∨
      roundedToCents account.own.toRat ≤ account.limit := by
  rw [deduction, min_le_iff, room_le_limit_iff, or_comm]

/-- Lines 8 and 13 show the limit and the deduction. -/
structure Deducted (values : ValueStore) (q : String) : Prop where
  limit : values.Shows (q ++ "." ++ "8") ∧ values.amount (q ++ "." ++ "8") = account.limit
  deduction :
    values.Shows (q ++ "." ++ "13") ∧ values.amount (q ++ "." ++ "13") = account.deduction

end Account

/-- The deduction on line 13 is neither below zero nor above the limit on line 8. -/
def InLimit (values : ValueStore) (q : String) : Prop :=
  0 ≤ values.amount (q ++ "." ++ "13") ∧
    values.amount (q ++ "." ++ "13") ≤ values.amount (q ++ "." ++ "8")

variable {s : Solver} {p : Point} {q key key' box : String} {d : Decimal} {inputs : InputStore}
  {calls : List (Call × Reply)} {canAsk : Bool} {amount : Compute Decimal} {account : Account}
  {values : ValueStore}

theorem Account.Deducted.inLimit_iff (h : account.Deducted values q) : InLimit values q ↔
    0 ≤ roundedToCents account.own.toRat ∧
      (0 ≤ roundedToCents account.employer.toRat ∨
        roundedToCents account.own.toRat ≤ account.limit) := by
  rw [InLimit, h.limit.2, h.deduction.2, account.deduction_nonneg_iff,
    account.deduction_le_limit_iff]

theorem roundedToCents_nonneg {x : ℚ} (h : 0 ≤ x) : 0 ≤ roundedToCents x := by
  have hcents : halfEven ((0 : ℤ) : ℚ) ≤ halfEven (x * 100) :=
    halfEven_mono (by push_cast; positivity)
  rw [halfEven_intCast] at hcents
  unfold roundedToCents
  positivity

/-- Contributions that are not below zero are never deducted beyond the limit. -/
theorem Account.Deducted.inLimit (h : account.Deducted values q) (hown : 0 ≤ account.own.toRat)
    (hemployer : 0 ≤ account.employer.toRat) : InLimit values q :=
  h.inLimit_iff.mpr ⟨roundedToCents_nonneg hown, .inl (roundedToCents_nonneg hemployer)⟩

/-- A whole number of dollars is kept as it is. -/
theorem isCents_dollars (n : ℕ) (h : n < Decimal.limit) (hroom : n * 100 < Decimal.limit) :
    ((Decimal.ofNat n h).fixPlaces 2).IsCents n ∧ ((Decimal.ofNat n h).fixPlaces 2).toRat = n := by
  refine ⟨(Decimal.atMost_ofNat h).isCents hroom, ?_⟩
  have hwhole : (n : ℚ) * 100 = ((n * 100 : ℕ) : ℤ) := by push_cast; rfl
  rw [Decimal.toRat_fixPlaces, Decimal.toRat_ofNat, Decimal.tenTo_two, Nat.cast_ofNat, hwhole,
    halfEven_intCast, ← hwhole]
  field_simp

/-- What the form of an account reads. -/
def accountScope (s : Solver) (q : String) : Scope := ⟨⟨q, s.values⟩, s.inputs⟩

theorem qualify_accountScope (h : Name.split key = none) :
    (accountScope s q).qualify key = q ++ "." ++ key := Name.scopeTo_of_split_none h

theorem instantiate_account (hq : q ∈ accounts) :
    ∃ tag, library.instantiate q = .ok (⟨"8889", some tag⟩, healthSavings) := by
  simp only [accounts, List.mem_cons, List.not_mem_nil, or_false] at hq
  rcases hq with rfl | rfl
  · exact ⟨"taxpayer", rfl⟩
  · exact ⟨"spouse", rfl⟩

theorem eq_of_accountLine (hbare : Name.split key = none)
    (hl : line key (accountScope s q) = .ok d) : s.values.has (q ++ "." ++ key) ∧
      ∀ x, s.values.get? (q ++ "." ++ key) = some (.number x) → d = x := by
  rw [← @qualify_accountScope s q key hbare]
  exact eq_of_line hl

section standing

variable (h : Standing inputs p) (hq : q ∈ accounts)

include h hq

/-- A line of an account that is read shows what is kept of its computation. -/
theorem Standing.exists_of_line (hb : healthSavings.field? key = some (money key amount))
    (hbare : Name.split key = none) (hl : line key (accountScope p.solver q) = .ok d) :
    ∃ c, amount (accountScope p.solver q) = .ok c ∧ d = c.fixPlaces 2 ∧
      p.solver.values.get? (q ++ "." ++ key) = some (.number d) := by
  obtain ⟨tag, hi⟩ := instantiate_account hq
  obtain ⟨hhas, heq⟩ := eq_of_accountLine hbare hl
  obtain ⟨c, hc, hget⟩ := h.exists_money hi (by simp) hb hhas
  cases heq _ hget
  exact ⟨c, hc, rfl, hget⟩

/-- A line that is a copy of an amount that is entered. -/
theorem Standing.exists_entry (hb : healthSavings.field? key = some (echoMoney key box))
    (hbare : Name.split key = none) (hasks : healthSavings.asks (· == .float) box)
    (hl : line key (accountScope p.solver q) = .ok d) :
    ∃ e, p.solver.inputs.parse (q ++ "." ++ box) = .ok (.number e) ∧
      d.IsCents Decimal.maxAmount ∧ d.toRat = roundedToCents e.toRat := by
  obtain ⟨tag, hi⟩ := instantiate_account hq
  obtain ⟨hhas, heq⟩ := eq_of_accountLine hbare hl
  obtain ⟨e, c, he, hget, hcents⟩ := h.exists_copied hi (by simp) hb hasks hhas
  cases heq _ hget
  exact ⟨e, he, hcents⟩

/-- The choice that line 1 carries is the one that is entered. -/
theorem Standing.exists_choice {chosen : Option String}
    (hl : asChoice value "1" (accountScope p.solver q) = .ok chosen) :
    p.solver.inputs.parse (q ++ "." ++ "coverage") = .ok (.choice chosen) := by
  obtain ⟨tag, hi⟩ := instantiate_account hq
  obtain ⟨v, hv, hchosen⟩ := bind_eq_ok.mp hl
  have hget := ValueStore.get_eq_ok.mp hv
  rw [qualify_accountScope (by decide)] at hget
  have hhas : p.solver.values.has (q ++ "." ++ "1") := Option.isSome_iff_exists.mpr ⟨v, hget⟩
  obtain ⟨w, v', hw, hk, hget'⟩ := h.exists_computed hi (by simp)
    (rfl : healthSavings.field? "1" = some (echo "1" (.enumeration ["self_only", "family"]) _)) hhas
  cases hget.symm.trans hget'
  have hentered := isSome_asChoice? (holds_of_input (h.fits hi hhas)
    (by decide : healthSavings.asks ValueKind.isChoice "coverage") hw)
  cases w with
  | choice =>
    cases ValueKind.eq_of_canonicalize_choice hk
    cases hchosen
    exact qualify_accountScope (by decide : Name.split "coverage" = none) ▸ hw
  | _ => cases hentered

/-- Line 3 is the limit of the coverage. -/
theorem Standing.exists_coverage (hl : line "3" (accountScope p.solver q) = .ok d) :
    ∃ coverage, p.solver.inputs.parse (q ++ "." ++ "coverage") = .ok (.choice coverage) ∧
      d.IsCents 7750 ∧ d.toRat = if coverage = some "family" then 7750 else 3850 := by
  obtain ⟨c, hc, rfl, -⟩ := h.exists_of_line hq rfl (by decide) hl
  obtain ⟨coverage, hchoice, hc⟩ := bind_eq_ok.mp hc
  cases hc
  refine ⟨coverage, h.exists_choice hq hchoice, ?_⟩
  split
  · obtain ⟨hcents, hx⟩ := isCents_dollars 7750 (by decide) (by decide)
    exact ⟨hcents, by exact_mod_cast hx⟩
  · obtain ⟨hcents, hx⟩ := isCents_dollars 3850 (by decide) (by decide)
    exact ⟨hcents.mono (by decide), by exact_mod_cast hx⟩

/-- Line 7 is what may be contributed on top. -/
theorem Standing.exists_aged (hl : line "7" (accountScope p.solver q) = .ok d) :
    ∃ aged, p.solver.inputs.parse (q ++ "." ++ "age_55") = .ok (.bool aged) ∧
      d.IsCents 1000 ∧ d.toRat = if aged then 1000 else 0 := by
  obtain ⟨c, hc, rfl, -⟩ := h.exists_of_line hq rfl (by decide) hl
  obtain ⟨aged, hflag, hc⟩ := bind_eq_ok.mp hc
  cases hc
  obtain ⟨v, hv, hflag⟩ := bind_eq_ok.mp hflag
  have hparse : p.solver.inputs.parse (q ++ "." ++ "age_55") = .ok (.bool aged) := by
    rw [← @qualify_accountScope p.solver q "age_55" (by decide)]
    cases v with
    | bool => cases hflag; exact hv
    | _ => cases hflag
  refine ⟨aged, hparse, ?_⟩
  cases aged with
  | true =>
    obtain ⟨hcents, hx⟩ := isCents_dollars 1000 (by decide) (by decide)
    exact ⟨hcents, by exact_mod_cast hx⟩
  | false =>
    obtain ⟨hcents, hx⟩ := isCents_dollars 0 (by decide) (by decide)
    exact ⟨hcents.mono (by decide), by exact_mod_cast hx⟩

/-- A line with one other line as its sum is a copy of it. -/
theorem Standing.line_of_sum (hb : healthSavings.field? key = some (sumOf key [key']))
    (hbare : Name.split key = none) (hl : line key (accountScope p.solver q) = .ok d) :
    ∃ c, line key' (accountScope p.solver q) = .ok c ∧ d = c.fixPlaces 2 := by
  obtain ⟨c, hc, hd, -⟩ := h.exists_of_line hq hb hbare hl
  exact ⟨c, line_of_sumLines_single hc, hd⟩

/-- Line 8 is the limit of the year. -/
theorem Standing.exists_limit (hl : line "8" (accountScope p.solver q) = .ok d) :
    ∃ coverage aged, p.solver.inputs.parse (q ++ "." ++ "coverage") = .ok (.choice coverage) ∧
      p.solver.inputs.parse (q ++ "." ++ "age_55") = .ok (.bool aged) ∧ d.IsCents 8750 ∧
      d.toRat = yearlyLimit coverage aged := by
  obtain ⟨total, htotal, rfl, -⟩ := h.exists_of_line hq rfl (by decide) hl
  obtain ⟨base, extra, h6, h7, hadd⟩ := exists_add?_of_sumLines_pair htotal
  obtain ⟨basis, h3, rfl⟩ := h.line_of_sum hq rfl (by decide) h6
  obtain ⟨coverage, hcoverage, hbasis, hx⟩ := h.exists_coverage hq h3
  obtain ⟨aged, haged, hextra, hy⟩ := h.exists_aged hq h7
  rw [Decimal.fixPlaces_of_scale hbasis.scale] at hadd
  obtain ⟨hscale, hsum⟩ := Decimal.toRat_add? hbasis hextra (by decide) hadd
  obtain ⟨total', hadd', hmost⟩ := hbasis.atMost.exists_add? hextra.atMost (by decide)
  cases hadd.symm.trans hadd'
  rw [Decimal.fixPlaces_of_scale hscale]
  exact ⟨coverage, aged, hcoverage, haged, ⟨hscale, hmost⟩, by rw [hsum, hx, hy, yearlyLimit]⟩

/-- Line 12 is what the employer leaves of the limit. It is kept from falling below zero, but not
from passing the limit. -/
theorem Standing.exists_room (hl : line "12" (accountScope p.solver q) = .ok d) :
    ∃ limit employer, line "8" (accountScope p.solver q) = .ok limit ∧
      p.solver.inputs.parse (q ++ "." ++ "employer_contributions") = .ok (.number employer) ∧
      d.scale = 2 ∧ d.toRat = max 0 (limit.toRat - roundedToCents employer.toRat) := by
  obtain ⟨c, hc, rfl, -⟩ := h.exists_of_line hq rfl (by decide) hl
  obtain ⟨rest, hrest, hc⟩ := bind_eq_ok.mp hc
  cases hc
  obtain ⟨limit, h8, hrest⟩ := bind_eq_ok.mp hrest
  obtain ⟨paid, h11, hrest⟩ := bind_eq_ok.mp hrest
  obtain ⟨paid', h9, rfl⟩ := h.line_of_sum hq rfl (by decide) h11
  obtain ⟨employer, hemployer, hcents, hx⟩ := h.exists_entry hq rfl (by decide) (by decide) h9
  obtain ⟨-, -, -, -, hlimit, -⟩ := h.exists_limit hq h8
  -- Both amounts are in cents and far from what a decimal can hold, so nothing is rounded.
  rw [Decimal.fixPlaces_of_scale hcents.scale] at hrest
  obtain ⟨hscale, hdiff⟩ :=
    Decimal.toRat_sub? hlimit hcents (by decide) (orOverflow_eq_ok.mp hrest)
  obtain ⟨rest', hrest', hmost⟩ := hlimit.atMost.exists_sub? hcents.atMost (by decide)
  cases (orOverflow_eq_ok.mp hrest).symm.trans hrest'
  refine ⟨limit, employer, h8, hemployer, (hmost.nonNegative.isCents (by decide)).scale, ?_⟩
  rw [← hx, ← hdiff]
  exact Decimal.keptAs_nonNegative hscale

/-- Line 13 is as much of the own contributions as there is room for. -/
theorem Standing.exists_deduction (hl : line "13" (accountScope p.solver q) = .ok d) :
    ∃ (account : Account) (limit : Decimal), account.Entered p.solver.inputs q ∧
      line "8" (accountScope p.solver q) = .ok limit ∧ limit.toRat = account.limit ∧
      d.toRat = account.deduction := by
  obtain ⟨c, hc, rfl, -⟩ := h.exists_of_line hq rfl (by decide) hl
  obtain ⟨contributed, h2, hc⟩ := bind_eq_ok.mp hc
  obtain ⟨room, h12, hc⟩ := bind_eq_ok.mp hc
  cases hc
  obtain ⟨own, hown, hcents, hx⟩ := h.exists_entry hq rfl (by decide) (by decide) h2
  obtain ⟨limit, employer, h8, hemployer, hscale, hy⟩ := h.exists_room hq h12
  obtain ⟨coverage, aged, hcoverage, haged, -, hlimit⟩ := h.exists_limit hq h8
  have hmin : (min contributed room).scale = 2 := by
    change (if room < contributed then room else contributed).scale = 2
    split
    · exact hscale
    · exact hcents.scale
  refine ⟨⟨coverage, aged, own, employer⟩, limit, ⟨hcoverage, haged, hown, hemployer⟩, h8, hlimit,
    ?_⟩
  rw [Decimal.fixPlaces_of_scale hmin, Decimal.toRat_min, hx, hy, hlimit]
  rfl

/-- Once line 13 is committed, line 8 is as well, and both come of the entries. -/
theorem Standing.deducts (h13 : p.solver.values.has (q ++ "." ++ "13")) :
    ∃ account : Account, account.Entered p.solver.inputs q ∧
      account.Deducted p.solver.values q := by
  obtain ⟨tag, hi⟩ := instantiate_account hq
  obtain ⟨c, -, hget⟩ := h.exists_money hi (by simp) rfl h13
  have hl : line "13" (accountScope p.solver q) = .ok (c.fixPlaces 2) :=
    line_of_get? ((qualify_accountScope (by decide : Name.split "13" = none)).symm ▸ hget)
  obtain ⟨account, limit, hentered, h8, hlimit, hdeduction⟩ := h.exists_deduction hq hl
  obtain ⟨-, -, -, hget8⟩ := h.exists_of_line hq rfl (by decide) h8
  exact ⟨account, hentered, ⟨⟨_, hget8⟩, (ValueStore.amount_of_get? hget8).trans hlimit⟩,
    ⟨_, hget⟩, (ValueStore.amount_of_get? hget).trans hdeduction⟩

end standing

/-- Whatever is given, whatever was asked for before, whoever answers and however a solve ends, the
deduction of an account, once it is committed, is what the entries for it come to. It is in the
limit if and only if the own contributions are not below zero and, where the employer's are, not
above the limit themselves. -/
theorem deduction_in_limit_iff {σ : Type} (h : Session (initial library inputs canAsk) calls s)
    (hq : q ∈ accounts) (ask : Question → StateM σ (Option String)) (n : ℕ) (w : σ)
    (h13 : ((s.solve ask n).run w).1.solver.values.has (q ++ "." ++ "13")) :
    ∃ account : Account, account.Entered ((s.solve ask n).run w).1.solver.inputs q ∧
      account.Deducted ((s.solve ask n).run w).1.solver.values q ∧
      (InLimit ((s.solve ask n).run w).1.solver.values q ↔
        0 ≤ roundedToCents account.own.toRat ∧
          (0 ≤ roundedToCents account.employer.toRat ∨
            roundedToCents account.own.toRat ≤ account.limit)) := by
  obtain ⟨lost, hs⟩ := standing_session h
  obtain ⟨p, hp, hvalues, hinputs, -⟩ := exists_point_of_solve hs (fun _ _ => standing_step)
    (fun _ _ _ => standing_fails) ask n w
  rw [hvalues] at h13 ⊢
  rw [hinputs]
  obtain ⟨account, hentered, hdeducted⟩ := hp.deducts hq h13
  exact ⟨account, hentered, hdeducted, hdeducted.inLimit_iff⟩

/-- The section of an account, after others. -/
def openAccount (q coverage aged own employer : String) (given : Sections) : Sections :=
  [("coverage", coverage), ("age_55", aged), ("contributions", own),
    ("employer_contributions", employer), ("distributions", "0")].foldl
    (fun given entry => given.set q entry.1 entry.2) given

/-- The taxpayer's employer takes back more than it ever paid, and the spouse's own contributions
are below zero. -/
def takenBack : Sections :=
  openAccount "8889:spouse" "self_only" "no" "-500" "0"
    (openAccount "8889:taxpayer" "self_only" "no" "10000" "-10000" .empty)

theorem exists_solved_takenBack : ∃ s,
    Session (initial library (.ofSections takenBack) false)
      [(.addForm "8889:taxpayer", .added), (.addForm "8889:spouse", .added),
        (.solve, .returned true)] s ∧
    ["8889:taxpayer.8", "8889:taxpayer.13", "8889:spouse.8", "8889:spouse.13"].map s.values.get? =
      [some (.number (.cents 385000)), some (.number (.cents 1000000)),
        some (.number (.cents 385000)), some (.number (-Decimal.cents 50000))] :=
  exists_session _ (fun _ => none) 200 _
    (fun s => ["8889:taxpayer.8", "8889:taxpayer.13", "8889:spouse.8", "8889:spouse.13"].map
      s.values.get?) _ (by decide +kernel)

theorem deduction_in_limit_iff_takenBack : ∃ s,
    Session (initial library (.ofSections takenBack) false)
      [(.addForm "8889:taxpayer", .added), (.addForm "8889:spouse", .added),
        (.solve, .returned true)] s ∧
    "8889:taxpayer" ∈ accounts ∧ s.values.has "8889:taxpayer.13" ∧
    ∃ account : Account, account.Entered s.inputs "8889:taxpayer" ∧
      account.Deducted s.values "8889:taxpayer" ∧
      (InLimit s.values "8889:taxpayer" ↔ 0 ≤ roundedToCents account.own.toRat ∧
        (0 ≤ roundedToCents account.employer.toRat ∨
          roundedToCents account.own.toRat ≤ account.limit)) := by
  obtain ⟨s, hs, hseen⟩ := exists_solved_takenBack
  simp only [List.map_cons, List.cons.injEq] at hseen
  obtain ⟨-, h13, -⟩ := hseen
  have hhas : s.values.has "8889:taxpayer.13" := Option.isSome_iff_exists.mpr ⟨_, h13⟩
  exact ⟨s, hs, by decide, hhas,
    deduction_in_limit_iff hs (by decide) (fun _ => (pure none : StateM Unit _)) 0 () hhas⟩

theorem not_inLimit_takenBack : ∃ s,
    Session (initial library (.ofSections takenBack) false)
      [(.addForm "8889:taxpayer", .added), (.addForm "8889:spouse", .added),
        (.solve, .returned true)] s ∧
    s.values.amount "8889:taxpayer.8" = 3850 ∧ s.values.amount "8889:taxpayer.13" = 10000 ∧
    s.values.amount "8889:spouse.8" = 3850 ∧ s.values.amount "8889:spouse.13" = -500 ∧
    ∀ q ∈ accounts, s.values.Shows (q ++ "." ++ "8") ∧ s.values.Shows (q ++ "." ++ "13") ∧
      ¬ InLimit s.values q := by
  obtain ⟨s, hs, hseen⟩ := exists_solved_takenBack
  simp only [List.map_cons, List.cons.injEq] at hseen
  obtain ⟨h8, h13, h8', h13', -⟩ := hseen
  obtain ⟨hlimit, hover, hlimit', hunder⟩ : s.values.amount "8889:taxpayer.8" = 3850 ∧
      s.values.amount "8889:taxpayer.13" = 10000 ∧ s.values.amount "8889:spouse.8" = 3850 ∧
      s.values.amount "8889:spouse.13" = -500 := by
    rw [ValueStore.amount_of_get? h8, ValueStore.amount_of_get? h13, ValueStore.amount_of_get? h8',
      ValueStore.amount_of_get? h13', Decimal.toRat_neg]
    simp only [Decimal.toRat_cents]
    norm_num
  refine ⟨s, hs, hlimit, hover, hlimit', hunder, ?_⟩
  simp only [accounts, List.forall_mem_cons]
  refine ⟨⟨⟨_, h8⟩, ⟨_, h13⟩, fun h => ?_⟩, ⟨⟨_, h8'⟩, ⟨_, h13'⟩, fun h => ?_⟩, by simp⟩
  · have hle : s.values.amount "8889:taxpayer.13" ≤ s.values.amount "8889:taxpayer.8" := h.2
    rw [hover, hlimit] at hle
    norm_num at hle
  · have hnonneg : 0 ≤ s.values.amount "8889:spouse.13" := h.1
    rw [hunder] at hnonneg
    norm_num at hnonneg

end TaxReturn.Year2023
