import TaxReturn.Proofs.Carries
import TaxReturn.Proofs.Kinds

/-! What a computation may come to where the stores fit its library: values are of the kinds of
their fields, and inputs are read as their descriptors say. A value is then always of the type that
its reader needs, and a field that is needed is one that there is. What is left of the errors are
inputs that cannot be read and amounts out of range. -/
namespace TaxReturn

namespace ValueKind

variable {kind kind' : ValueKind} {v w : Value}

/-- Whether a field of the kind may hold a value. -/
def holds : ValueKind → Value → Bool
  | text, .text _ | ssn, .text _ | boolean, .bool _ | integer, .int _ | float, .number _
  | decimal _, .number _ | enumeration _, .choice none => true
  | enumeration keys, .choice (some key) => decide (key ∈ keys)
  | _, _ => false

def isAmount : ValueKind → Bool
  | integer | float | decimal _ => true
  | _ => false

def isChoice : ValueKind → Bool
  | enumeration _ => true
  | _ => false

/-- Whether a field of the kind can be computed as a value. -/
def accepts (kind : ValueKind) (v : Value) : Bool := (kind.canonicalize v).isOk

/-- Whether a field of one kind can be a copy of what another kind holds. -/
def covers (kind kind' : ValueKind) : Bool :=
  kind == kind' || match kind, kind' with
    | decimal _, float => true
    | _, _ => false

theorem accepts_iff : kind.accepts v ↔ ∃ w, kind.canonicalize v = .ok w := by
  unfold accepts
  cases kind.canonicalize v <;> simp [Except.isOk, Except.toBool]

theorem holds_empty : kind.holds kind.empty := by
  cases kind <;> rfl

/-- A value that is kept is of its kind. -/
theorem holds_of_canonicalize (h : kind.canonicalize v = .ok w) : kind.holds w := by
  cases keeps_of_canonicalize h with
  | blank => exact holds_empty
  | key hm => exact decide_eq_true hm
  | _ => rfl

/-- A choice is kept as it is made. -/
theorem eq_of_canonicalize_choice {keys : List String} {key : Option String}
    (h : (enumeration keys).canonicalize (.choice key) = .ok v) : v = .choice key := by
  cases key with
  | none =>
    cases h
    rfl
  | some key =>
    simp only [canonicalize, Value.isBlank, Bool.false_eq_true, if_false] at h
    split at h <;> cases h
    rfl

theorem accepts_empty : kind.accepts .empty := by
  simp [accepts, canonicalize, Value.isBlank, Except.isOk, Except.toBool]

theorem accepts_number {n : ℕ} {d : Decimal} : (decimal n).accepts (.number d) := rfl

theorem accepts_bool {b : Bool} : boolean.accepts (.bool b) := rfl

theorem accepts_of_covers (hc : kind.covers kind') (h : kind'.holds v) : kind.accepts v := by
  rw [accepts_iff]
  unfold canonicalize
  split
  · exact ⟨_, rfl⟩
  · simp only [covers, Bool.or_eq_true, beq_iff_eq] at hc
    rcases hc with rfl | hc
    · cases kind <;> cases v <;> try cases h
      case enumeration.choice keys key hb =>
        cases key with
        | none => exact ⟨_, rfl⟩
        | some key =>
          have hk : key ∈ keys := by simpa [holds] using h
          exact ⟨_, if_pos hk⟩
      all_goals exact ⟨_, rfl⟩
    · cases kind <;> cases kind' <;> try cases hc
      cases v <;> try cases h
      exact ⟨_, rfl⟩

end ValueKind

/-- What is read from an input is of the kind of the input. -/
theorem InputSpec.holds_of_parse {spec : InputSpec} {raw : String} {v : Value}
    (h : spec.parse raw = .ok v) : spec.kind.valueKind.holds v := by
  have hreads := readsAs_of_parse h
  generalize spec.kind = kind at hreads ⊢
  cases hreads with
  | key he hm => exact decide_eq_true hm
  | _ => rfl

/-- Every value is that of a field, and of its kind. -/
def ValueStore.Typed (library : Library) (values : ValueStore) : Prop :=
  ∀ n v, values.get? n = some v → ∃ field, library.field? n = some field ∧ field.kind.holds v

/-- A scope in which a field of a form can be evaluated. -/
structure Scope.Fits (library : Library) (form : Form) (a : Scope) : Prop where
  instantiate : ∃ name, library.instantiate a.form = .ok (name, form)
  knows : a.inputs.Knows library a.form
  values : a.values.Typed library

/-- The fields that can be reached from a scope: those of the same form instance, those of a form
with one instance, and those of the instances that the inputs have sections for. -/
inductive Offers (library : Library) (a : Scope) : String → Field → Prop
  | own {name form base field} (hi : library.instantiate a.form = .ok (name, form))
      (hb : form.field? base = some field) : Offers library a (a.form ++ "." ++ base) field
  | single {q form base field} (hi : library.instantiate q = .ok (⟨q, none⟩, form))
      (hb : form.field? base = some field) : Offers library a (q ++ "." ++ base) field
  | counted {q tag form base field} (ht : tag ∈ a.inputs.instances q)
      (hf : library.form? q = some form) (hn : form.instancing ≠ .single)
      (hb : form.field? base = some field) :
      Offers library a (q ++ ":" ++ tag ++ "." ++ base) field

/-- The outcomes that are in order: a result of which `Q` holds, a stop at a field that there is or
at an input that can be read, a part that is not computed, an input that cannot be read, and an
amount out of range. What cannot be read is an entry, or a choice that was not made. -/
inductive Orderly {α : Type} (library : Library) (a : Scope) (Q : α → Prop) :
    Except Signal α → Prop
  | value {x : α} (h : Q x) : Orderly library a Q (.ok x)
  | unmet {d : String} {field : Field} (h : Offers library a d field) :
      Orderly library a Q (.error (.unmet d))
  | missingInput {i : String} (h : (a.inputs.spec? i).isSome) :
      Orderly library a Q (.error (.missingInput i))
  | notImplemented {detail : Option String} :
      Orderly library a Q (.error (.notImplemented detail))
  | unreadable {n raw : String} {fault : ValueFault}
      (h : a.inputs.parse n = .error (.fatal (.invalidInput n raw fault)) ∨
        a.values.get? n = some (.choice none)) :
      Orderly library a Q (.error (.fatal (.invalidInput n raw fault)))
  | overflow {what : String} : Orderly library a Q (.error (.fatal (.overflow what)))

/-- A computation comes to outcomes that are in order. -/
abbrev Compute.Gives {α : Type} (library : Library) (a : Scope) (c : Compute α) (Q : α → Prop) :
    Prop :=
  Orderly library a Q (c a)

/-- A field of a form is in order: it can be computed wherever the stores fit. -/
def Field.Orderly (library : Library) (form : Form) (field : Field) : Prop :=
  ∀ a : Scope, a.Fits library form →
    field.compute.Gives library a fun v => field.kind.accepts v

namespace Form

/-- Whether a key leads to a field of a certain kind: a bare one to a field of the form, a qualified
one to a field of a form with one instance. -/
def leads (library : Library) (form : Form) (p : ValueKind → Bool) (key : String) : Bool :=
  match Name.split key with
  | none => (form.field? key).any fun field => p field.kind
  | some (q, base) =>
    match library.instantiate q with
    | .ok (⟨_, none⟩, other) => (other.field? base).any fun field => p field.kind
    | _ => false

/-- Whether a key is that of an input of a certain kind. -/
def asks (form : Form) (p : ValueKind → Bool) (key : String) : Bool :=
  (Name.split key).isNone && (form.inputs.any fun input => input.name == key) &&
    form.inputs.all fun input => input.name != key || p input.kind.valueKind

end Form

/-- Whether a form with several instances has a field of a certain kind. -/
def Library.counts (library : Library) (p : ValueKind → Bool) (q base : String) : Bool :=
  (library.form? q).any fun form => decide (form.instancing ≠ .single) &&
    (form.field? base).any fun field => p field.kind

variable {α β : Type} {library : Library} {form : Form} {a : Scope} {Q : α → Prop} {R : β → Prop}
  {c c' : Compute α} {k : α → Compute β} {p : ValueKind → Bool} {key n q base : String}
  {field : Field}

theorem Library.field?_of_instantiate {name : FormName}
    (hi : library.instantiate q = .ok (name, form)) :
    library.field? (q ++ "." ++ base) = form.field? base := by
  obtain ⟨hp, hf, -⟩ := instantiate_eq_ok hi
  simp [field?, FormName.split_of_parse hp, hp, hf]

namespace Offers

/-- A field that can be reached is the one that goes by its name. -/
theorem field? (h : Offers library a n field) : library.field? n = some field := by
  cases h with
  | own hi hb => rw [Library.field?_of_instantiate hi, hb]
  | single hi hb => rw [Library.field?_of_instantiate hi, hb]
  | @counted q tag form base field ht hf hn hb =>
    obtain ⟨q', -, hq'⟩ := InputStore.mem_instances.mp ht
    obtain ⟨rfl, hp⟩ := InputStore.tagOf?_eq_some hq'
    simp [Library.field?, FormName.split_of_parse hp, hp, hf, hb]

end Offers

theorem Scope.Fits.exists_offer (ha : a.Fits library form) (h : form.leads library p key) :
    ∃ field, Offers library a (a.qualify key) field ∧ p field.kind := by
  unfold Form.leads at h
  split at h
  · rename_i hs
    obtain ⟨field, hb, hp⟩ := (Option.any_eq_true _ _).mp h
    obtain ⟨name, hi⟩ := ha.instantiate
    refine ⟨field, ?_, hp⟩
    rw [ValueView.qualify, Name.scopeTo_of_split_none hs]
    exact .own hi hb
  · rename_i q base hs
    split at h
    · rename_i n other hi
      obtain ⟨field, hb, hp⟩ := (Option.any_eq_true _ _).mp h
      have hn : n = q := Library.text_of_instantiate hi
      subst hn
      refine ⟨field, ?_, hp⟩
      rw [ValueView.qualify, Name.scopeTo_of_split_some hs, (Name.split_eq_some_iff.mp hs).1]
      exact .single hi hb
    · cases h

/-- An input that a form asks for can be read where the stores fit. -/
theorem Scope.Fits.exists_spec (ha : a.Fits library form) (h : form.asks p key) :
    ∃ spec, a.inputs.spec? (a.qualify key) = some spec ∧ p spec.kind.valueKind := by
  simp only [Form.asks, Bool.and_eq_true, Option.isNone_iff_eq_none, List.any_eq_true,
    List.all_eq_true, Bool.or_eq_true, bne_iff_ne, beq_iff_eq] at h
  obtain ⟨⟨hs, hin⟩, hall⟩ := h
  obtain ⟨name, hi⟩ := ha.instantiate
  obtain ⟨spec, hspec⟩ : ∃ spec, form.inputAs? name (name.qualify key) = some spec :=
    Form.exists_inputAs? hin
  have hq : name.qualify key = a.qualify key := by
    rw [FormName.qualify, Library.text_of_instantiate hi, ValueView.qualify,
      Name.scopeTo_of_split_none hs]
  have hsplit : Name.split (name.qualify key) = some (a.form, key) :=
    Library.split_of_instantiate hi
  refine ⟨spec, ?_, ?_⟩
  · rw [← hq]
    exact ha.knows _ _ _ hsplit ((Solver.inputSpec?_of_split hi hsplit).trans hspec)
  · obtain ⟨input, hm, he⟩ := List.mem_map.mp (Name.mem_of_getElem?_insertMany hspec)
    simp only [Prod.mk.injEq] at he
    obtain ⟨hname, rfl⟩ := he
    exact (hall input hm).resolve_left (by simp [Form.qualify_injective hname])

theorem Orderly.mono {o : Except Signal α} {Q' : α → Prop} (h : Orderly library a Q o)
    (hQ : ∀ x, Q x → Q' x) : Orderly library a Q' o := by
  cases h with
  | value h => exact .value (hQ _ h)
  | unmet h => exact .unmet h
  | missingInput h => exact .missingInput h
  | notImplemented => exact .notImplemented
  | unreadable h => exact .unreadable h
  | overflow => exact .overflow

namespace Compute

theorem gives_pure {x : α} (h : Q x) : Gives library a (pure x) Q := .value h

theorem Gives.bind (hc : c.Gives library a Q) (hk : ∀ x, Q x → (k x).Gives library a R) :
    (c >>= k).Gives library a R := by
  rw [Gives, bind_apply]
  rw [Gives] at hc
  generalize c a = o at hc
  cases hc with
  | value h => exact hk _ h
  | unmet h => exact .unmet h
  | missingInput h => exact .missingInput h
  | notImplemented => exact .notImplemented
  | unreadable h => exact .unreadable h
  | overflow => exact .overflow

theorem Gives.map {f : α → β} (hc : c.Gives library a Q) (hf : ∀ x, Q x → R (f x)) :
    Gives library a (do return f (← c)) R :=
  hc.bind fun x hx => gives_pure (hf x hx)

theorem Gives.ite {P : Prop} [Decidable P] (hc : c.Gives library a Q)
    (hc' : c'.Gives library a Q) : Gives library a (if P then c else c') Q := by
  split
  · exact hc
  · exact hc'

theorem gives_unsupported {m : String} : Gives library a (unsupported m : Compute α) Q :=
  .notImplemented

theorem gives_orOverflow {what : String} {x : Option Decimal} :
    (orOverflow what x).Gives library a fun _ => True := by
  cases x with
  | none => exact .overflow
  | some d => exact .value trivial

theorem gives_input (ha : a.Fits library form) (h : form.asks p key) :
    (input key).Gives library a fun v => ∃ kind, p kind ∧ kind.holds v := by
  obtain ⟨spec, hspec, hp⟩ := ha.exists_spec h
  unfold Gives input InputStore.parse
  simp only [hspec]
  split
  · exact .missingInput (by simp [hspec])
  · split
    · rename_i hv
      exact .value ⟨_, hp, InputSpec.holds_of_parse hv⟩
    · rename_i hf
      exact .unreadable (.inl (by simp [InputStore.parse, *]))

/-- What an input gives is of a kind that the form asks for. -/
theorem holds_of_input {v : Value} (ha : a.Fits library form) (h : form.asks p key)
    (hv : input key a = .ok v) : ∃ kind, p kind ∧ kind.holds v := by
  obtain ⟨spec, hspec, hp⟩ := ha.exists_spec h
  obtain ⟨spec', raw, hspec', -, hparse⟩ := InputStore.parse_eq_ok.mp hv
  cases hspec.symm.trans hspec'
  exact ⟨_, hp, InputSpec.holds_of_parse hparse⟩

theorem gives_value_of_offer (hv : a.values.Typed library)
    (h : Offers library a (a.qualify key) field) :
    (value key).Gives library a fun v => field.kind.holds v := by
  unfold Gives value ValueView.get ValueStore.get
  split
  · rename_i v hget
    obtain ⟨field', hf, hh⟩ := hv _ v hget
    rw [h.field?] at hf
    cases hf
    exact .value hh
  · exact .unmet h

theorem gives_value (ha : a.Fits library form) (h : form.leads library p key) :
    (value key).Gives library a fun v => ∃ kind, p kind ∧ kind.holds v := by
  obtain ⟨field, ho, hp⟩ := ha.exists_offer h
  exact (gives_value_of_offer ha.values ho).mono fun v hv => ⟨_, hp, hv⟩

/-- A value that is read is one that is committed. -/
theorem Gives.committed {P : Value → Prop} (h : (value key).Gives library a P) :
    (value key).Gives library a fun v => P v ∧ a.values.get? (a.qualify key) = some v := by
  unfold Gives value ValueView.get ValueStore.get at h ⊢
  cases hget : a.values.get? (a.qualify key) with
  | some v =>
    rw [hget] at h
    cases h with
    | value h => exact .value ⟨h, rfl⟩
  | none =>
    rw [hget] at h
    cases h with
    | unmet h => exact .unmet h

/-- A value of the type that its reader needs is read as one. -/
theorem Gives.typedAs {get : String → Compute Value} {expected : String} {as? : Value → Option α}
    {P : Value → Prop} (h : (get key).Gives library a P)
    (has : ∀ v, P v → ∃ x, as? v = some x ∧ Q x) :
    (Compute.typed get expected as? key).Gives library a Q := by
  refine h.bind fun v hv => ?_
  obtain ⟨x, hx, hQ⟩ := has v hv
  simp only [Gives, hx, Value.expect]
  exact .value hQ

theorem Gives.typed {get : String → Compute Value} {expected : String} {as? : Value → Option α}
    {P : Value → Prop} (h : (get key).Gives library a P) (has : ∀ v, P v → (as? v).isSome) :
    (Compute.typed get expected as? key).Gives library a fun _ => True :=
  h.typedAs fun v hv => (Option.isSome_iff_exists.mp (has v hv)).imp fun _ hx => ⟨hx, trivial⟩

theorem isSome_asDecimal? {v : Value} (h : ∃ kind : ValueKind, kind.isAmount ∧ kind.holds v) :
    v.asDecimal?.isSome := by
  obtain ⟨kind, hk, hv⟩ := h
  cases kind with
  | integer | float | decimal => cases v <;> first | rfl | cases hv
  | _ => cases hk

theorem isSome_asChoice? {v : Value} (h : ∃ kind : ValueKind, kind.isChoice ∧ kind.holds v) :
    v.asChoice?.isSome := by
  obtain ⟨kind, hk, hv⟩ := h
  cases kind with
  | enumeration => cases v <;> first | rfl | cases hv
  | _ => cases hk

theorem isSome_asBool? {v : Value} (h : ∃ kind : ValueKind, (kind == .boolean) ∧ kind.holds v) :
    v.asBool?.isSome := by
  obtain ⟨kind, hk, hv⟩ := h
  cases beq_iff_eq.mp hk
  cases v with
  | bool => rfl
  | _ => cases hv

theorem isSome_asInt? {v : Value} (h : ∃ kind : ValueKind, (kind == .integer) ∧ kind.holds v) :
    v.asInt?.isSome := by
  obtain ⟨kind, hk, hv⟩ := h
  cases beq_iff_eq.mp hk
  cases v with
  | int => rfl
  | _ => cases hv

/-- A copy of an input that a field of the kind can hold. -/
theorem gives_copy {kind : ValueKind} (ha : a.Fits library form) (h : form.asks kind.covers key) :
    (input key).Gives library a fun v => kind.accepts v :=
  (gives_input ha h).mono fun _ ⟨_, hc, hv⟩ => ValueKind.accepts_of_covers hc hv

/-- A copy of a field that a field of the kind can hold. -/
theorem gives_carried {kind : ValueKind} (ha : a.Fits library form)
    (h : form.leads library kind.covers key) :
    (value key).Gives library a fun v => kind.accepts v :=
  (gives_value ha h).mono fun _ ⟨_, hc, hv⟩ => ValueKind.accepts_of_covers hc hv

theorem gives_amount (ha : a.Fits library form) (h : form.asks ValueKind.isAmount key) :
    (asDecimal input key).Gives library a fun _ => True :=
  (gives_input ha h).typed fun _ => isSome_asDecimal?

theorem gives_flag (ha : a.Fits library form) (h : form.asks (· == .boolean) key) :
    (asBool input key).Gives library a fun _ => True :=
  (gives_input ha h).typed fun _ => isSome_asBool?

theorem gives_number (ha : a.Fits library form) (h : form.asks (· == .integer) key) :
    (asInt input key).Gives library a fun _ => True :=
  (gives_input ha h).typed fun _ => isSome_asInt?

theorem gives_choice (ha : a.Fits library form) (h : form.leads library ValueKind.isChoice key) :
    (asChoice value key).Gives library a fun _ => True :=
  (gives_value ha h).typed fun _ => isSome_asChoice?

theorem gives_line (ha : a.Fits library form) (h : form.leads library ValueKind.isAmount key) :
    (line key).Gives library a fun _ => True :=
  (gives_value ha h).typed fun _ => isSome_asDecimal?

theorem gives_sumLines {what : String} {total : Decimal} {lines : List String}
    (h : ∀ key ∈ lines, (line key).Gives library a fun _ => True) :
    (sumLines what total lines).Gives library a fun _ => True := by
  induction lines generalizing total with
  | nil => exact gives_pure trivial
  | cons key rest ih =>
    refine (h key List.mem_cons_self).bind fun amount _ => ?_
    refine gives_orOverflow.bind fun t _ => ?_
    exact ih fun key hk => h key (List.mem_cons_of_mem _ hk)

/-- A total is taken over lines of the instances that the inputs have sections for. -/
theorem gives_sumInstances (ha : a.Fits library form)
    (h : library.counts ValueKind.isAmount q base) :
    (sumInstances q base).Gives library a fun _ => True := by
  obtain ⟨other, hf, h⟩ := (Option.any_eq_true _ _).mp h
  obtain ⟨hn, h⟩ := Bool.and_eq_true_iff.mp h
  obtain ⟨field, hb, hp⟩ := (Option.any_eq_true _ _).mp h
  have hlines : ∀ key ∈ (a.inputs.instances q).map fun tag => q ++ ":" ++ tag ++ "." ++ base,
      (line key).Gives library a fun _ => True := by
    intro key hk
    obtain ⟨tag, ht, rfl⟩ := List.mem_map.mp hk
    have ho : Offers library a (a.qualify (q ++ ":" ++ tag ++ "." ++ base)) field := by
      rw [qualify_instance]
      exact .counted ht hf (of_decide_eq_true hn) hb
    exact (gives_value_of_offer ha.values ho).typed fun v hv => isSome_asDecimal? ⟨_, hp, hv⟩
  exact gives_sumLines hlines

end Compute

namespace Line

open Compute

variable {name detail what minuend subtrahend source : String} {kind : ValueKind}
  {lines : List String} {amount : Compute Decimal}

theorem gives_difference (ha : a.Fits library form)
    (h : form.leads library ValueKind.isAmount minuend)
    (h' : form.leads library ValueKind.isAmount subtrahend) :
    (difference what minuend subtrahend).Gives library a fun _ => True := by
  refine (gives_line ha h).bind fun x _ => ?_
  refine (gives_line ha h').bind fun y _ => ?_
  exact gives_orOverflow

theorem orderly_money
    (h : ∀ a : Scope, a.Fits library form → amount.Gives library a fun _ => True) :
    (money name amount).Orderly library form :=
  fun a ha => (h a ha).map fun _ _ => ValueKind.accepts_number

theorem orderly_echo (h : form.asks kind.covers key) : (echo name kind key).Orderly library form :=
  fun _ ha => gives_copy ha h

theorem orderly_carry (h : form.leads library (ValueKind.decimal 2).covers source) :
    (carry name source).Orderly library form :=
  fun _ ha => gives_carried ha h

theorem orderly_totalOf (h : library.counts ValueKind.isAmount q base) :
    (totalOf name q base).Orderly library form :=
  orderly_money fun _ ha => gives_sumInstances ha h

theorem orderly_sumOf (h : ∀ key ∈ lines, form.leads library ValueKind.isAmount key) :
    (sumOf name lines).Orderly library form :=
  orderly_money fun _ ha => gives_sumLines fun key hk => gives_line ha (h key hk)

theorem orderly_mustBeNo (h : form.asks (· == .boolean) key) :
    (mustBeNo name key detail).Orderly library form := by
  intro a ha
  refine (gives_flag ha h).bind fun b _ => ?_
  cases b with
  | true => exact gives_unsupported
  | false => exact gives_pure ValueKind.accepts_bool

end Line

/-- What is committed is of the kind of its field. -/
theorem Field.Orderly.evaluate (h : field.Orderly library form) (ha : a.Fits library form) :
    Compute.Gives library a (field.evaluate n) fun v => field.kind.holds v := by
  refine (h a ha).bind fun v hv => ?_
  obtain ⟨w, hw⟩ := ValueKind.accepts_iff.mp hv
  simp only [Compute.Gives, hw]
  exact .value (ValueKind.holds_of_canonicalize hw)

end TaxReturn
