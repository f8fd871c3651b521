import TaxReturn.Proofs.Decimal.Rational
import TaxReturn.Proofs.Ranges

/-! Sums and differences of lines as numbers. Lines are in dollars and cents, so where their bounds
leave room nothing is rounded, neither in the arithmetic nor in what is kept of it. -/
namespace TaxReturn

/-- An amount is committed for the field. -/
def ValueStore.Shows (values : ValueStore) (f : String) : Prop :=
  ∃ d, values.get? f = some (.number d)

/-- The amount that is committed for a field, as a number. -/
def ValueStore.amount (values : ValueStore) (f : String) : ℚ :=
  match values.get? f with
  | some (.number d) => d.toRat
  | _ => 0

/-- In dollars and cents, `x` is what is kept of an amount. -/
def Decimal.KeptAs (x : ℚ) (d : Decimal) : Prop := (d.fixPlaces 2).toRat = x

variable {a : Scope} {cap : String → ℕ} {values : ValueStore} {keys : List String} {v : Value}
  {f key what minuend subtrahend q base : String} {d total : Decimal} {x : ℚ} {most k : ℕ}

namespace Decimal

theorem keptAs_toRat (h : d.scale = 2) : d.KeptAs d.toRat := by
  rw [KeptAs, fixPlaces_of_scale h]

theorem keptAs_nonNegative (hs : d.scale = 2) : d.nonNegative.KeptAs (max 0 d.toRat) := by
  rw [← toRat_nonNegative]
  change KeptAs (if d < 0 then 0 else d).toRat (if d < 0 then 0 else d)
  split
  · exact (toRat_eq_zero rfl).trans (toRat_eq_zero rfl).symm
  · exact keptAs_toRat hs

end Decimal

namespace ValueStore

theorem amount_of_get? (h : values.get? f = some (.number d)) : values.amount f = d.toRat := by
  simp [amount, h]

/-- Whole numbers are not in dollars and cents. -/
theorem Capped.eq_number (h : values.Capped cap) (hv : values.get? f = some v)
    (hd : v.asDecimal? = some d) : v = .number d := by
  have hscale := (h f v d hv hd).scale
  cases v with
  | number => cases hd; rfl
  | int =>
    cases hd
    cases hscale
  | _ => cases hd

end ValueStore

namespace Compute

/-- A line that is read is committed, and an amount that is committed is read as it is. -/
theorem eq_of_line (h : line key a = .ok d) : a.values.has (a.qualify key) ∧
    ∀ x, a.values.get? (a.qualify key) = some (.number x) → d = x := by
  obtain ⟨v, hget, hd⟩ := bind_eq_ok.mp h
  have hget := ValueStore.get_eq_ok.mp hget
  refine ⟨Option.isSome_iff_exists.mpr ⟨v, hget⟩, fun x hx => ?_⟩
  cases hget.symm.trans hx
  cases hd
  rfl

theorem line_of_get? (h : a.values.get? (a.qualify key) = some (.number d)) :
    line key a = .ok d :=
  bind_eq_ok.mpr ⟨_, ValueStore.get_eq_ok.mpr h, rfl⟩

theorem line_of_sumLines_single (h : sumLines what 0 [key] a = .ok d) : line key a = .ok d := by
  obtain ⟨x, hx, h⟩ := bind_eq_ok.mp h
  obtain ⟨y, hy, h⟩ := bind_eq_ok.mp h
  cases h
  cases hy
  exact hx

theorem exists_add?_of_sumLines_pair {key' : String} (h : sumLines what 0 [key, key'] a = .ok d) :
    ∃ x y, line key a = .ok x ∧ line key' a = .ok y ∧ x.add? y = some d := by
  obtain ⟨x, hx, h⟩ := bind_eq_ok.mp h
  obtain ⟨x', hx', h⟩ := bind_eq_ok.mp h
  cases hx'
  obtain ⟨y, hy, h⟩ := bind_eq_ok.mp h
  obtain ⟨z, hz, h⟩ := bind_eq_ok.mp h
  cases h
  exact ⟨x, y, hx, hy, orOverflow_eq_ok.mp hz⟩

variable (hv : a.values.Capped cap)

include hv

/-- A line that is read shows the amount. -/
theorem get?_of_line (h : line key a = .ok d) :
    a.values.get? (a.qualify key) = some (.number d) ∧ d.IsCents (cap (a.qualify key)) := by
  obtain ⟨v, hget, hd⟩ := bind_eq_ok.mp h
  have hget := ValueStore.get_eq_ok.mp hget
  cases hdec : v.asDecimal? with
  | none =>
    simp only [hdec] at hd
    cases hd
  | some e =>
    simp only [hdec] at hd
    cases hd
    obtain rfl := hv.eq_number hget hdec
    exact ⟨hget, hv _ _ _ hget hdec⟩

theorem keptAs_sumLines
    (hroom : (keys.map fun key => cap (a.qualify key)).sum * 100 < Decimal.limit)
    (h : sumLines what 0 keys a = .ok total) :
    (∀ key ∈ keys, a.values.Shows (a.qualify key)) ∧
      total.toRat = (keys.map fun key => a.values.amount (a.qualify key)).sum ∧
      total.KeptAs (keys.map fun key => a.values.amount (a.qualify key)).sum := by
  choose! g hg using exists_of_sumLines h
  have hshown : ∀ key ∈ keys, a.values.get? (a.qualify key) = some (.number (g key)) ∧
      (g key).IsCents (cap (a.qualify key)) := fun key hk => get?_of_line hv (hg key hk)
  refine ⟨fun key hk => ⟨g key, (hshown key hk).1⟩, ?_⟩
  have hscale : ∀ amount ∈ keys.map g, amount.scale = 2 := by
    simp only [List.forall_mem_map]
    exact fun key hk => (hshown key hk).2.scale
  have hfit : ((keys.map g).map Decimal.magnitude).sum < Decimal.limit := by
    refine lt_of_le_of_lt ?_ hroom
    rw [List.map_map, ← List.sum_map_mul_right]
    exact List.sum_le_sum fun key hk => (hshown key hk).2.magnitude_le
  have hamounts : (keys.map fun key => a.values.amount (a.qualify key)) =
      (keys.map g).map Decimal.toRat := by
    rw [List.map_map]
    exact List.map_congr_left fun key hk => ValueStore.amount_of_get? (hshown key hk).1
  rw [hamounts]
  exact Decimal.toRat_total hscale hfit ((sumLines_eq_ok hg).mp h)

/-- A total over the instances of a form is taken over their sections. -/
theorem keptAs_sumInstances (hfew : (a.inputs.instances q).length ≤ most)
    (hcap : ∀ tag ∈ a.inputs.instances q, cap (q ++ ":" ++ tag ++ "." ++ base) ≤ k)
    (hroom : most * k * 100 < Decimal.limit) (h : sumInstances q base a = .ok total) :
    (∀ sec ∈ a.inputs.sectionsOf q, a.values.Shows (sec ++ "." ++ base)) ∧
      total.toRat =
        ((a.inputs.sectionsOf q).map fun sec => a.values.amount (sec ++ "." ++ base)).sum ∧
      total.KeptAs
        ((a.inputs.sectionsOf q).map fun sec => a.values.amount (sec ++ "." ++ base)).sum := by
  have hsections := a.inputs.sectionsOf_perm q
  have hcaps : (((a.inputs.instances q).map fun tag => q ++ ":" ++ tag ++ "." ++ base).map
      fun key => cap (a.qualify key)).sum ≤ most * k := by
    simp only [List.map_map, Function.comp_def, qualify_instance]
    refine (List.sum_le_sum hcap).trans ?_
    rw [List.map_const', List.sum_replicate, smul_eq_mul]
    exact Nat.mul_le_mul_right k hfew
  rw [sumInstances_apply] at h
  obtain ⟨hshown, htotal⟩ :=
    keptAs_sumLines hv ((Nat.mul_le_mul_right 100 hcaps).trans_lt hroom) h
  simp only [List.forall_mem_map, List.map_map, Function.comp_def, qualify_instance]
    at hshown htotal
  refine ⟨fun sec hsec => ?_, ?_⟩
  · obtain ⟨tag, ht, rfl⟩ := List.mem_map.mp (hsections.mem_iff.mpr hsec)
    exact hshown tag ht
  · rw [← (hsections.map _).sum_eq, List.map_map]
    exact htotal

/-- A difference is in dollars and cents as well. -/
theorem toRat_of_difference
    (hroom : (cap (a.qualify minuend) + cap (a.qualify subtrahend)) * 100 < Decimal.limit)
    (h : Line.difference what minuend subtrahend a = .ok d) :
    (a.values.Shows (a.qualify minuend) ∧ a.values.Shows (a.qualify subtrahend)) ∧ d.scale = 2 ∧
      d.toRat = a.values.amount (a.qualify minuend) - a.values.amount (a.qualify subtrahend) := by
  obtain ⟨x, hx, h⟩ := bind_eq_ok.mp h
  obtain ⟨y, hy, h⟩ := bind_eq_ok.mp h
  obtain ⟨hgetx, hcentsx⟩ := get?_of_line hv hx
  obtain ⟨hgety, hcentsy⟩ := get?_of_line hv hy
  rw [ValueStore.amount_of_get? hgetx, ValueStore.amount_of_get? hgety]
  exact ⟨⟨⟨x, hgetx⟩, y, hgety⟩, Decimal.toRat_sub? hcentsx hcentsy hroom (orOverflow_eq_ok.mp h)⟩

end Compute
end TaxReturn
