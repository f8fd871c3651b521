import TaxReturn.Proofs.Stability
import TaxReturn.Line

/-! What a computation reads, and what follows from it: the computation comes to the same outcome
in a scope where more is known, or it had stopped at something that is known there and was not
before. -/
namespace TaxReturn

/-- The inputs and lines that a computation may read under the names that the form writes, the
totals it may take over the instances of other forms, and whether it may leave its field out. -/
structure Reads where
  inputs : List String := []
  lines : List String := []
  totals : List (String × String) := []
  leaves : Bool := false
  deriving DecidableEq, Repr

namespace Reads

/-- Everything that may be read. -/
def join (r r' : Reads) : Reads :=
  ⟨r.inputs ++ r'.inputs, r.lines ++ r'.lines, r.totals ++ r'.totals, r.leaves || r'.leaves⟩

/-- The name of a field that is read in a scope. -/
inductive Names (r : Reads) (a : Scope) : String → Prop
  | line {key : String} (h : key ∈ r.lines) : Names r a (a.qualify key)
  | total {form field tag : String} (h : (form, field) ∈ r.totals)
      (ht : tag ∈ a.inputs.instances form) : Names r a (form ++ ":" ++ tag ++ "." ++ field)

/-- One reads no more than another. -/
structure Within (r r' : Reads) : Prop where
  inputs : ∀ key ∈ r.inputs, key ∈ r'.inputs
  lines : ∀ key ∈ r.lines, key ∈ r'.lines
  totals : ∀ t ∈ r.totals, t ∈ r'.totals
  leaves : r.leaves = true → r'.leaves = true

variable {r r' : Reads} {a : Scope} {d : String}

theorem Names.mono (h : r.Names a d) (hr : r.Within r') : r'.Names a d := by
  cases h with
  | line h => exact .line (hr.lines _ h)
  | total h ht => exact .total (hr.totals _ h) ht

theorem within_join_left : r.Within (r.join r') := by
  constructor <;> simp +contextual [join]

theorem within_join_right : r'.Within (r.join r') := by
  constructor <;> simp +contextual [join]

/-- What may be read in one scope is known in another one as far as it is known there. -/
structure Follows (r : Reads) (a b : Scope) : Prop where
  form : b.form = a.form
  inputs : ∀ key ∈ r.inputs, ∀ v, a.inputs.parse (a.qualify key) = .ok v →
    b.inputs.parse (a.qualify key) = .ok v
  totals : ∀ t ∈ r.totals, b.inputs.instances t.1 = a.inputs.instances t.1
  values : a.values ≤ b.values

theorem Follows.mono {b : Scope} (h : r'.Follows a b) (hr : r.Within r') : r.Follows a b :=
  ⟨h.form, fun key hk => h.inputs key (hr.inputs key hk), fun t ht => h.totals t (hr.totals t ht),
    h.values⟩

/-- An outcome in one scope is due to something that is known in another one only. -/
inductive Stops {α : Type} (r : Reads) (a b : Scope) : Except Signal α → Prop
  | line {d : String} (h : b.values.has d) : Stops r a b (.error (.unmet d))
  | input {key : String} {e : Signal} (hk : key ∈ r.inputs)
      (ha : a.inputs.parse (a.qualify key) = .error e)
      (hb : b.inputs.parse (a.qualify key) ≠ .error e) : Stops r a b (.error e)

theorem Stops.mono {α : Type} {b : Scope} {o : Except Signal α} (h : r.Stops a b o)
    (hr : r.Within r') : r'.Stops a b o := by
  cases h with
  | line h => exact .line h
  | input hk ha hb => exact .input (hr.inputs _ hk) ha hb

end Reads

namespace InputStore

variable {store : InputStore} {n d : String} {m : Option String}

theorem parse_ne_unmet : store.parse n ≠ .error (.unmet d) := by
  unfold parse
  split
  · simp
  · split
    · simp
    · split <;> simp

theorem parse_ne_notImplemented : store.parse n ≠ .error (.notImplemented m) := by
  unfold parse
  split
  · simp
  · split
    · simp
    · split <;> simp

theorem parse_eq_ok {v : Value} : store.parse n = .ok v ↔ ∃ spec raw, store.spec? n = some spec ∧
    store.raw? n = some raw ∧ spec.parse raw = .ok v := by
  unfold parse
  cases store.spec? n with
  | none => simp
  | some spec =>
    cases store.raw? n with
    | none => simp
    | some raw => cases hp : spec.parse raw <;> simp [hp]

theorem parse_eq_missingInput {i : String} (h : store.parse n = .error (.missingInput i)) :
    i = n ∧ (store.spec? n).isSome ∧ store.raw? n = none := by
  unfold parse at h
  split at h
  · simp at h
  · rename_i spec hs
    split at h
    · rename_i hr
      cases h
      exact ⟨rfl, by simp [hs], hr⟩
    · split at h <;> cases h

theorem parse_within {store' : InputStore} {v : Value} (h : store.Within store')
    (hv : store.parse n = .ok v) : store'.parse n = .ok v := by
  have hraw : store'.raw? n = store.raw? n := by simp only [raw?, h.given]
  unfold parse at hv
  split at hv
  · cases hv
  · rename_i spec hs
    unfold parse
    rw [h.specs n spec hs, hraw]
    exact hv

theorem parse_within_missing {store' : InputStore} {i : String} (h : store.Within store')
    (hi : store.parse n = .error (.missingInput i)) :
    store'.parse n = .error (.missingInput i) := by
  obtain ⟨rfl, hs, hr⟩ := parse_eq_missingInput hi
  obtain ⟨spec, hs⟩ := Option.isSome_iff_exists.mp hs
  have hraw : store'.raw? i = none := by simpa only [raw?, h.given] using hr
  simp [parse, h.specs i spec hs, hraw]

end InputStore

/-- A computation reads no more than `r` says. -/
structure Compute.Heeds {α : Type} (c : Compute α) (r : Reads) : Prop where
  steady : ∀ a b, r.Follows a b → c b = c a ∨ r.Stops a b (c a)
  unmet : ∀ a d, c a = .error (.unmet d) → a.values.get? d = none ∧ r.Names a d
  missing : ∀ a n, c a = .error (.missingInput n) →
    ∃ key ∈ r.inputs, n = a.qualify key ∧ a.inputs.parse n = .error (.missingInput n)
  left : ∀ a m, c a = .error (.notImplemented m) → r.leaves = true

namespace Compute

variable {α β : Type} {c : Compute α} {r r' : Reads}

theorem Heeds.mono (h : c.Heeds r) (hr : r.Within r') : c.Heeds r' where
  steady a b hab := (h.steady a b (hab.mono hr)).imp_right fun hs => hs.mono hr
  unmet a d ha := (h.unmet a d ha).imp_right fun hn => hn.mono hr
  missing a n ha := by
    obtain ⟨key, hk, hn⟩ := h.missing a n ha
    exact ⟨key, hr.inputs key hk, hn⟩
  left a m ha := hr.leaves (h.left a m ha)

/-- A computation that looks at nothing. -/
theorem heeds_const {o : Except Signal α} (hu : ∀ d, o ≠ .error (.unmet d))
    (hm : ∀ n, o ≠ .error (.missingInput n)) (hl : ∀ m, o = .error (.notImplemented m) → r.leaves) :
    Heeds (fun _ => o) r where
  steady _ _ _ := .inl rfl
  unmet _ d h := absurd h (hu d)
  missing _ n h := absurd h (hm n)
  left _ m h := hl m h

theorem heeds_pure {x : α} : Heeds (pure x : Compute α) {} :=
  heeds_const (o := .ok x) (by simp) (by simp) (by simp)

theorem heeds_fail {e : TaxError} : Heeds (fail e : Compute α) {} :=
  heeds_const (by simp) (by simp) (by simp)

theorem heeds_unsupported {m : String} :
    Heeds (unsupported m : Compute α) { leaves := true } :=
  heeds_const (by simp) (by simp) (by simp)

theorem heeds_orOverflow {what : String} {x : Option Decimal} : Heeds (orOverflow what x) {} := by
  cases x with
  | none => exact heeds_fail
  | some d => exact heeds_pure

theorem bind_apply {k : α → Compute β} {a : Scope} : (c >>= k) a = match c a with
    | .ok x => k x a
    | .error e => .error e := by
  change (c a >>= fun x => k x a) = _
  cases c a <;> rfl

theorem bind_eq_ok {k : α → Compute β} {a : Scope} {y : β} :
    (c >>= k) a = .ok y ↔ ∃ x, c a = .ok x ∧ k x a = .ok y := by
  rw [bind_apply]
  cases c a <;> simp

theorem orOverflow_eq_ok {what : String} {x : Option Decimal} {d : Decimal} {a : Scope} :
    orOverflow what x a = .ok d ↔ x = some d := by
  cases x with
  | none => exact ⟨nofun, nofun⟩
  | some y => exact ⟨fun h => congrArg some (Except.ok.inj h),
      fun h => congrArg Except.ok (Option.some.inj h)⟩

/-- One computation after another reads what both do, the second one for each result of the
first. -/
theorem Heeds.bind {u : Reads} {k : α → Compute β} (hc : c.Heeds r) (hk : ∀ x, (k x).Heeds u) :
    Heeds (c >>= k) (r.join u) := by
  have hl : r.Within (r.join u) := Reads.within_join_left
  have hr : u.Within (r.join u) := Reads.within_join_right
  constructor
  case steady =>
    intro a b hab
    rw [bind_apply, bind_apply]
    rcases hc.steady a b (hab.mono hl) with he | hs
    · rw [he]
      cases hca : c a with
      | error e => exact .inl rfl
      | ok x => exact ((hk x).steady a b (hab.mono hr)).imp_right fun hs => hs.mono hr
    · refine .inr ?_
      generalize c a = o at hs
      cases hs with
      | line h => exact .line h
      | input hkey ha hb => exact .input (hl.inputs _ hkey) ha hb
  case unmet =>
    intro a d ha
    rw [bind_apply] at ha
    cases hca : c a with
    | error e =>
      rw [hca] at ha
      cases ha
      exact (hc.unmet a d hca).imp_right fun hn => hn.mono hl
    | ok x =>
      rw [hca] at ha
      exact ((hk x).unmet a d ha).imp_right fun hn => hn.mono hr
  case missing =>
    intro a n ha
    rw [bind_apply] at ha
    cases hca : c a with
    | error e =>
      rw [hca] at ha
      cases ha
      obtain ⟨key, hkey, hn⟩ := hc.missing a n hca
      exact ⟨key, hl.inputs key hkey, hn⟩
    | ok x =>
      rw [hca] at ha
      obtain ⟨key, hkey, hn⟩ := (hk x).missing a n ha
      exact ⟨key, hr.inputs key hkey, hn⟩
  case left =>
    intro a m ha
    rw [bind_apply] at ha
    cases hca : c a with
    | error e =>
      rw [hca] at ha
      cases ha
      exact hl.leaves (hc.left a m hca)
    | ok x =>
      rw [hca] at ha
      exact hr.leaves ((hk x).left a m ha)

theorem Heeds.ite {c' : Compute α} {p : Prop} [Decidable p] (hc : c.Heeds r) (hc' : c'.Heeds r') :
    Heeds (if p then c else c') (r.join r') := by
  split
  · exact hc.mono Reads.within_join_left
  · exact hc'.mono Reads.within_join_right

theorem heeds_input {key : String} : Heeds (input key) { inputs := [key] } where
  steady a b hab := by
    have hq : b.qualify key = a.qualify key := by
      simp only [ValueView.qualify, hab.form]
    change b.inputs.parse (b.qualify key) = a.inputs.parse (a.qualify key) ∨
      Reads.Stops _ a b (a.inputs.parse (a.qualify key))
    rw [hq]
    cases ha : a.inputs.parse (a.qualify key) with
    | ok v => exact .inl (hab.inputs key (by simp) v ha)
    | error e =>
      by_cases hb : b.inputs.parse (a.qualify key) = .error e
      · exact .inl hb
      · exact .inr (.input (by simp) ha hb)
  unmet a d ha := absurd ha InputStore.parse_ne_unmet
  missing a n ha := by
    obtain ⟨rfl, -, -⟩ := InputStore.parse_eq_missingInput ha
    exact ⟨key, by simp, rfl, ha⟩
  left a m ha := absurd ha InputStore.parse_ne_notImplemented

theorem heeds_value {key : String} : Heeds (value key) { lines := [key] } where
  steady a b hab := by
    have hq : b.qualify key = a.qualify key := by
      simp only [ValueView.qualify, hab.form]
    change b.values.get (b.qualify key) = a.values.get (a.qualify key) ∨
      Reads.Stops _ a b (a.values.get (a.qualify key))
    rw [hq]
    cases ha : a.values.get? (a.qualify key) with
    | some v =>
      rw [ValueStore.get_eq_ok.mpr ha, ValueStore.get_eq_ok.mpr (hab.values _ v ha)]
      exact .inl rfl
    | none =>
      rw [ValueStore.get_eq_unmet.mpr ⟨rfl, ha⟩]
      cases hb : b.values.get? (a.qualify key) with
      | some v => exact .inr (.line (by simp [ValueStore.has, hb]))
      | none =>
        rw [ValueStore.get_eq_unmet.mpr ⟨rfl, hb⟩]
        exact .inl rfl
  unmet a d ha := by
    change a.values.get (a.qualify key) = .error (.unmet d) at ha
    obtain ⟨rfl, hd⟩ := ValueStore.get_eq_unmet.mp ha
    exact ⟨hd, .line (by simp)⟩
  missing a n ha := by
    change a.values.get (a.qualify key) = .error (.missingInput n) at ha
    unfold ValueStore.get at ha
    split at ha <;> cases ha
  left a m ha := by
    change a.values.get (a.qualify key) = .error (.notImplemented m) at ha
    unfold ValueStore.get at ha
    split at ha <;> cases ha

theorem heeds_expect {key expected : String} {v : Value} {x : Option α} :
    Heeds (fun s => v.expect (s.qualify key) expected x) {} := by
  cases x with
  | some x => exact heeds_const (o := .ok x) (by simp) (by simp) (by simp)
  | none =>
    constructor
    case steady =>
      intro a b hab
      left
      simp only [Value.expect, ValueView.qualify, hab.form]
    all_goals
      intro a d ha
      cases ha

theorem join_empty : r.join {} = r := by
  simp [Reads.join]

theorem empty_join : Reads.join {} r = r := by
  simp [Reads.join]

theorem Heeds.typed {get : String → Compute Value} {expected : String} {as? : Value → Option α}
    {key : String} (h : (get key).Heeds r) : Heeds (typed get expected as? key) r := by
  have := h.bind (k := fun v => fun s : Scope => v.expect (s.qualify key) expected (as? v))
    fun v => heeds_expect
  rwa [join_empty] at this

theorem Heeds.map {f : α → β} (h : c.Heeds r) : Heeds (do return f (← c)) r := by
  have := h.bind (k := fun x => (pure (f x) : Compute β)) fun x => heeds_pure
  rwa [join_empty] at this

theorem heeds_line {key : String} : Heeds (line key) { lines := [key] } := heeds_value.typed

theorem heeds_sumLines {what : String} {total : Decimal} {lines : List String} :
    Heeds (sumLines what total lines) { lines } := by
  induction lines generalizing total with
  | nil => exact heeds_pure
  | cons key rest ih =>
    have hplus : ∀ amount, Heeds (do sumLines what (← plus what total amount) rest)
        { lines := rest } := by
      intro amount
      have hsum : (orOverflow what (total.add? amount)).Heeds {} := heeds_orOverflow
      have := hsum.bind fun t => @ih t
      rwa [empty_join] at this
    exact heeds_line.bind hplus

/-- The name of a line of an instance is the same from wherever it is read. -/
theorem qualify_instance {a : Scope} {form tag field : String} :
    a.qualify (form ++ ":" ++ tag ++ "." ++ field) = form ++ ":" ++ tag ++ "." ++ field := by
  simp [ValueView.qualify, Name.scopeTo]

/-- A total over the instances of a form is a sum of lines. -/
theorem sumInstances_apply {form field : String} {a : Scope} : sumInstances form field a =
    sumLines (form ++ "." ++ field ++ " total") 0
      ((a.inputs.instances form).map fun tag => form ++ ":" ++ tag ++ "." ++ field) a := rfl

theorem heeds_sumInstances {form field : String} :
    Heeds (sumInstances form field) { totals := [(form, field)] } := by
  let lines (a : Scope) : List String :=
    (a.inputs.instances form).map fun tag => form ++ ":" ++ tag ++ "." ++ field
  have hsum : ∀ a, sumInstances form field a =
      sumLines (form ++ "." ++ field ++ " total") 0 (lines a) a := fun a => sumInstances_apply
  have hlines : ∀ a, Heeds (sumLines (form ++ "." ++ field ++ " total") 0 (lines a))
      { lines := lines a } := fun a => heeds_sumLines
  constructor
  case steady =>
    intro a b hab
    have hb : lines b = lines a := by
      simp only [lines]
      rw [hab.totals (form, field) (by simp)]
    rw [hsum, hsum, hb]
    have hab' : Reads.Follows { lines := lines a } a b :=
      ⟨hab.form, by simp, by simp, hab.values⟩
    refine ((hlines a).steady a b hab').imp_right fun hs => ?_
    generalize sumLines _ 0 (lines a) a = o at hs
    cases hs with
    | line h => exact .line h
    | input hk ha hb => cases hk
  case unmet =>
    intro a d ha
    rw [hsum] at ha
    obtain ⟨hd, hn⟩ := (hlines a).unmet a d ha
    refine ⟨hd, ?_⟩
    cases hn with
    | line h =>
      obtain ⟨tag, ht, rfl⟩ := List.mem_map.mp h
      rw [qualify_instance]
      exact .total (by simp) ht
    | total h ht => cases h
  case missing =>
    intro a n ha
    rw [hsum] at ha
    obtain ⟨key, hk, -⟩ := (hlines a).missing a n ha
    cases hk
  case left =>
    intro a m ha
    rw [hsum] at ha
    exact (hlines a).left a m ha

theorem has_of_sumLines {what : String} {total amount : Decimal} {lines : List String} {a : Scope}
    (h : sumLines what total lines a = .ok amount) :
    ∀ key ∈ lines, a.values.has (a.qualify key) := by
  induction lines generalizing total with
  | nil => simp
  | cons key rest ih =>
    obtain ⟨x, hx, h⟩ := bind_eq_ok.mp h
    obtain ⟨y, -, h⟩ := bind_eq_ok.mp h
    obtain ⟨v, hv, -⟩ := bind_eq_ok.mp hx
    have hhas : a.values.has (a.qualify key) :=
      Option.isSome_iff_exists.mpr ⟨v, ValueStore.get_eq_ok.mp hv⟩
    intro key' hm
    rcases List.mem_cons.mp hm with rfl | hm
    · exact hhas
    · exact ih h key' hm

/-- A total is taken when the lines of all instances are committed. -/
theorem has_of_sumInstances {form field tag : String} {amount : Decimal} {a : Scope}
    (h : sumInstances form field a = .ok amount) (ht : tag ∈ a.inputs.instances form) :
    a.values.has (form ++ ":" ++ tag ++ "." ++ field) := by
  have := has_of_sumLines h _ (List.mem_map_of_mem (f := fun tag =>
    form ++ ":" ++ tag ++ "." ++ field) ht)
  rwa [qualify_instance] at this

/-- What is read only in scopes of its own form is read in the same way when more inputs come to be
known. -/
theorem Heeds.stable (h : c.Heeds r) : c.Stable := by
  have hfollows : ∀ a b, a.Within b → r.Follows a b := by
    intro a b hab
    refine ⟨hab.form, fun key _ v hv => ?_, fun t _ => ?_, hab.values⟩
    · exact InputStore.parse_within hab.inputs hv
    · simp only [InputStore.instances, hab.inputs.given]
  constructor
  case value =>
    intro a b v hab ha
    rcases h.steady a b (hfollows a b hab) with he | hs
    · exact he.trans ha
    · rw [ha] at hs
      cases hs
  case missingInput =>
    intro a b n hab ha
    rcases h.steady a b (hfollows a b hab) with he | hs
    · exact he.trans ha
    · rw [ha] at hs
      cases hs with
      | input hk hka hkb => exact absurd (InputStore.parse_within_missing hab.inputs hka) hkb
  case notImplemented =>
    intro a b m hab ha
    rcases h.steady a b (hfollows a b hab) with he | hs
    · exact he.trans ha
    · rw [ha] at hs
      cases hs with
      | input hk hka hkb => exact absurd hka InputStore.parse_ne_notImplemented
  case unmet =>
    intro a b d hab ha hd
    rcases h.steady a b (hfollows a b hab) with he | hs
    · exact he.trans ha
    · rw [ha] at hs
      cases hs with
      | line hb => simp [ValueStore.has, hd] at hb
      | input hk hka hkb => exact absurd hka InputStore.parse_ne_unmet
  case absent => exact fun a d ha => (h.unmet a d ha).1

theorem Heeds.lacksAbsent (h : c.Heeds r) : c.LacksAbsent := by
  intro a n ha
  obtain ⟨key, -, -, hp⟩ := h.missing a n ha
  obtain ⟨-, -, hraw⟩ := InputStore.parse_eq_missingInput hp
  simp [InputStore.has, hraw]

end Compute

namespace Line

variable {name key what minuend subtrahend form field detail source : String} {kind : ValueKind}
  {lines : List String} {c : Compute Decimal} {r : Reads}

theorem heeds_money (h : c.Heeds r) : (money name c).compute.Heeds r := h.map

theorem heeds_echo : (echo name kind key).compute.Heeds { inputs := [key] } := Compute.heeds_input

theorem heeds_carry : (carry name source).compute.Heeds { lines := [source] } := Compute.heeds_value

theorem heeds_totalOf :
    (totalOf name form field).compute.Heeds { totals := [(form, field)] } :=
  heeds_money Compute.heeds_sumInstances

theorem heeds_sumOf : (sumOf name lines).compute.Heeds { lines } :=
  heeds_money Compute.heeds_sumLines

theorem heeds_difference :
    (difference what minuend subtrahend).Heeds { lines := [minuend, subtrahend] } :=
  Compute.heeds_line.bind (k := fun a => do
    let b ← Compute.line subtrahend
    Compute.minus what a b) fun _ => Compute.heeds_line.bind (u := {}) fun _ =>
      Compute.heeds_orOverflow

theorem heeds_mustBeNo :
    (mustBeNo name key detail).compute.Heeds { inputs := [key], leaves := true } := by
  refine Compute.heeds_input.typed.bind (u := { leaves := true }) fun b => ?_
  cases b with
  | true => exact Compute.heeds_unsupported
  | false => exact Compute.heeds_pure.mono (by constructor <;> simp)

end Line

end TaxReturn
