import TaxReturn.Proofs.Keys
import TaxReturn.Proofs.Solver.Exactness
import TaxReturn.Proofs.Solver.Moments
import TaxReturn.Proofs.Solver.Unprompted
import Mathlib.Data.List.Induction

/-! Requests for forms make up a set. What a request returns is up to the library alone, and what
requests leave behind is told by the forms that are taken up after them. So neither their order nor
a repetition shows, in the state or in anything that follows. -/
namespace TaxReturn.Solver

variable {s t t' u : Solver} {f q : String} {name : FormName} {form : Form} {reply : Reply}
  {library : Library} {known : Name.Table InputSpec} {inputs : InputStore} {canAsk : Bool}
  {before calls calls' : List (Call × Reply)} {names : List String}

/-- What a library has a request for a form return. -/
def replyTo (library : Library) (q : String) : Reply :=
  match library.instantiate q with
  | .ok _ => .added
  | .error e => .failed e

/-- A request with what it returns. -/
def request (library : Library) (q : String) : Call × Reply := (.addForm q, replyTo library q)

theorem map_fst_request : (names.map (request library)).map (·.1) = names.map .addForm := by
  simp [request, Function.comp_def]

theorem Registered.requires_iff (h : Registered library known s) : s.Requires f ↔
    ∃ q name form, q ∈ s.forms ∧ library.instantiate q = .ok (name, form) ∧
      f ∈ form.requiredAs name := by
  simp only [Requires, h.getElem?_forms, h.source]
  constructor
  · rintro ⟨q, name, form, ⟨hq, -⟩, hi, hf⟩
    exact ⟨q, name, form, hq, hi, hf⟩
  · rintro ⟨q, name, form, hq, hi, hf⟩
    exact ⟨q, name, form, ⟨hq, name, hi⟩, hi, hf⟩

/-- From `s` to `t` forms are taken up with all that they bring, and nothing else happens. -/
structure TakesUp (library : Library) (known : Name.Table InputSpec) (s t : Solver) : Prop where
  registered : Registered library known t
  grows : Grows s t t.Requires
  kept : ∀ q ∈ s.forms, q ∈ t.forms
  done : t.done = true ↔ s.done = true ∧ ∀ q ∈ t.forms, q ∈ s.forms

theorem TakesUp.refl (h : Registered library known s) : TakesUp library known s s where
  registered := h
  grows := by
    have hreq : ∀ f, s.Requires f → f ∈ s.attempted := fun f => h.attempted_of_requires
    constructor
    case attempted => exact fun f => ⟨.inl, fun hf => hf.elim id (hreq f)⟩
    case unattempted =>
      exact fun f => ⟨.inl, fun hf => hf.elim id fun hf => absurd (hreq f hf.1) hf.2⟩
    all_goals rfl
  kept _ hq := hq
  done := (and_iff_left fun _ hq => hq).symm

@[simp] theorem done_enqueueAll {names : List String} : (s.enqueueAll names).done = s.done := by
  induction names generalizing s with
  | nil => rfl
  | cons dep rest ih =>
    exact ih.trans (by rw [enqueue_frame])

theorem done_takeUp : (s.takeUp name form).done = false := by
  rw [takeUp, done_enqueueAll]
  rfl

theorem TakesUp.takeUp (h : TakesUp library known s t)
    (hi : library.instantiate q = .ok (name, form)) (hq : q ∉ t.forms) :
    TakesUp library known s (t.takeUp name form) := by
  have hi' : t.library.instantiate q = .ok (name, form) := h.registered.source ▸ hi
  constructor
  case registered => exact h.registered.takeUp hi' hq
  case grows =>
    refine (h.grows.trans (takeUp_grows t name form)).congr fun f => ?_
    rw [h.registered.requires_iff, (h.registered.takeUp hi' hq).requires_iff]
    simp only [mem_forms_takeUp hi']
    constructor
    · rintro (⟨q', name', form', hq', hi', hf⟩ | hf)
      · exact ⟨q', name', form', .inr hq', hi', hf⟩
      · exact ⟨q, name, form, .inl rfl, hi, hf⟩
    · rintro ⟨q', name', form', rfl | hq', hi', hf⟩
      · rw [hi] at hi'
        cases hi'
        exact .inr hf
      · exact .inl ⟨q', name', form', hq', hi', hf⟩
  case kept => exact fun q' hq' => (mem_forms_takeUp hi').mpr (.inr (h.kept q' hq'))
  case done =>
    simp only [done_takeUp, Bool.false_eq_true, false_iff, not_and, mem_forms_takeUp hi']
    exact fun _ hall => hq (h.kept q (hall q (.inl rfl)))

/-- What is taken up tells the state. -/
theorem TakesUp.eq (h : TakesUp library known s t) (h' : TakesUp library known s t')
    (hf : ∀ q, q ∈ t.forms ↔ q ∈ t'.forms) : t = t' := by
  have hforms : t.forms = t'.forms := h'.registered.forms_eq h.registered hf
  have hfields : t.fields = t'.fields := h'.registered.fields_eq h.registered hf
  have hinputSpecs : t.inputSpecs = t'.inputSpecs := by
    apply Std.ExtTreeMap.ext_getElem?
    intro n
    apply Option.ext
    intro spec
    simp only [h.registered.inputSpec, h'.registered.inputSpec, Takes, hf]
  have hspecs : t.inputs.specs = t'.inputs.specs := by
    apply Std.ExtTreeMap.ext_getElem?
    intro n
    rw [h.registered.spec, h'.registered.spec, hinputSpecs]
  have hinputs : t.inputs = t'.inputs := by
    have hgiven : t.inputs.given = t'.inputs.given := h.grows.given.trans h'.grows.given.symm
    calc t.inputs = ⟨t.inputs.given, t.inputs.specs⟩ := rfl
      _ = t'.inputs := by rw [hgiven, hspecs]
  have hreq : t.Requires = t'.Requires := by
    funext f
    rw [h.registered.requires_iff, h'.registered.requires_iff]
    simp only [hf]
  have hattempted : t.attempted = t'.attempted := Std.ExtTreeSet.ext_mem fun f => by
    rw [h.grows.attempted, h'.grows.attempted, hreq]
  have hunattempted : t.unattempted = t'.unattempted := Std.ExtTreeSet.ext_mem fun f => by
    rw [h.grows.unattempted, h'.grows.unattempted, hreq]
  have hdone : t.done = t'.done := by
    rw [Bool.eq_iff_iff, h.done, h'.done]
    simp only [hf]
  have hg := h.grows
  have hg' := h'.grows
  cases t
  cases t'
  rw [Solver.mk.injEq]
  exact ⟨hg.library.trans hg'.library.symm, hinputs, hg.values.trans hg'.values.symm, hforms,
    hfields, hinputSpecs, hattempted, hunattempted, hg.fieldWaits.trans hg'.fieldWaits.symm,
    hg.inputWaits.trans hg'.inputWaits.symm, hg.waitingOn.trans hg'.waitingOn.symm,
    hg.unimplemented.trans hg'.unimplemented.symm, hg.canAsk.trans hg'.canAsk.symm,
    hg.asked.trans hg'.asked.symm, hg.refused.trans hg'.refused.symm,
    hg.solved.trans hg'.solved.symm, hdone, hg.evaluated.trans hg'.evaluated.symm⟩

/-- What a request returns is up to the library, and a form that there is is taken up. -/
theorem Registered.replies (h : Registered library known s)
    (hr : Replies s (.addForm q) reply u) : reply = replyTo library q ∧
      (reply = .added ∧ s.addForm q = .ok u ∨ reply ≠ .added ∧ u = s) := by
  cases hr with
  | added ha =>
    obtain ⟨name, form, hi, -⟩ := addForm_eq_ok ha
    refine ⟨?_, .inl ⟨rfl, ha⟩⟩
    rw [replyTo, ← h.source, hi]
  | @refused q e ha =>
    refine ⟨?_, .inr ⟨by simp, rfl⟩⟩
    cases hi : library.instantiate q with
    | ok x =>
      obtain ⟨name, form⟩ := x
      rw [h.addForm_eq hi] at ha
      cases ha
    | error e' =>
      simp only [addForm, h.source, hi, bind, Except.bind, Except.error.injEq] at ha
      rw [replyTo, hi, ha]

theorem Registered.exists_replies (h : Registered library known s) (q : String) :
    ∃ u, Replies s (.addForm q) (replyTo library q) u := by
  cases hi : library.instantiate q with
  | ok x =>
    obtain ⟨name, form⟩ := x
    rw [replyTo, hi]
    exact ⟨_, .added (h.addForm_eq hi)⟩
  | error e =>
    have ha : s.addForm q = .error e := by simp [addForm, h.source, hi, bind, Except.bind]
    rw [replyTo, hi]
    exact ⟨s, .refused ha⟩

theorem TakesUp.addForm (h : TakesUp library known s t) (ha : t.addForm q = .ok u) :
    TakesUp library known s u := by
  obtain ⟨name, form, hi, ⟨-, rfl⟩ | ⟨hq, rfl⟩⟩ := addForm_eq_ok ha
  · exact h
  · exact h.takeUp (h.registered.source ▸ hi) hq

/-- What requests leave behind: the forms among them that there are are taken up. -/
theorem Session.takesUp (hs : Registered library known s)
    (h : Session s calls t) (hc : calls.map (·.1) = names.map .addForm) :
    calls = names.map (request library) ∧ TakesUp library known s t ∧
      ∀ q, q ∈ t.forms ↔ q ∈ s.forms ∨ q ∈ names ∧ replyTo library q = .added := by
  induction h generalizing names with
  | start =>
    obtain rfl : names = [] := by simpa using hc.symm
    exact ⟨rfl, .refl hs, by simp⟩
  | @call calls t u call reply h hr ih =>
    rcases List.eq_nil_or_concat names with rfl | ⟨names, q, rfl⟩
    · simp at hc
    · simp only [List.concat_eq_append, List.map_append, List.map_cons, List.map_nil] at hc ⊢
      obtain ⟨hcalls, hcall⟩ := List.append_inj' hc rfl
      obtain rfl : call = .addForm q := by simpa using hcall
      obtain ⟨rfl, ht, hforms⟩ := ih hcalls
      obtain ⟨rfl, hchange⟩ := ht.registered.replies hr
      refine ⟨rfl, ?_⟩
      rcases hchange with ⟨hq, ha⟩ | ⟨hq, rfl⟩
      · refine ⟨ht.addForm ha, fun q' => ?_⟩
        rw [mem_forms_of_addForm ha, hforms, List.mem_append, List.mem_singleton, or_assoc,
          or_and_right]
        refine or_congr_right (or_congr_right ⟨?_, And.left⟩)
        rintro rfl
        exact ⟨rfl, hq⟩
      · refine ⟨ht, fun q' => ?_⟩
        rw [hforms, List.mem_append, List.mem_singleton, or_and_right]
        refine or_congr_right ⟨.inl, fun h => h.elim id ?_⟩
        rintro ⟨rfl, hadded⟩
        exact absurd hadded hq

/-- Forms can be asked for in any number and order. -/
theorem Registered.exists_requests (h : Registered library known s) (names : List String) :
    ∃ t, Session s (names.map (request library)) t := by
  induction names using List.reverseRecOn with
  | nil => exact ⟨s, .start⟩
  | append_singleton names q ih =>
    obtain ⟨t, ht⟩ := ih
    obtain ⟨-, htakes, -⟩ := ht.takesUp h map_fst_request
    obtain ⟨u, hu⟩ := htakes.registered.exists_replies q
    rw [List.map_append]
    exact ⟨u, ht.call hu⟩

/-- Requests for `names` lead from `s` to `t`, and nothing but the set of those that are granted can
be seen in `t` and in what follows. -/
structure AsSet (library : Library) (s : Solver) (names : List String) (t : Solver) : Prop where
  session : Session s (names.map (request library)) t
  /-- Each request returns what the library has it return, wherever it stands. -/
  replies : ∀ (calls : List (Call × Reply)) (t' : Solver),
    calls.map (·.1) = names.map .addForm → Session s calls t' →
      calls = names.map (request library) ∧ t' = t
  forms : ∀ q, q ∈ t.forms ↔ q ∈ s.forms ∨ q ∈ names ∧ replyTo library q = .added
  refused : ∀ q e u, Replies t (.addForm q) (.failed e) u → u = t
  repeated : ∀ q ∈ names, replyTo library q = .added → ∀ reply u,
    Replies t (.addForm q) reply u → reply = .added ∧ u = t
  granted : ∀ (names' : List String) (t' : Solver),
    (∀ q, replyTo library q = .added → (q ∈ names' ↔ q ∈ names)) →
      Session s (names'.map (request library)) t' → t' = t
  reordered : ∀ (names' : List String) (t' : Solver),
    names'.Perm names → Session s (names'.map (request library)) t' →
    ∀ {σ : Type} (ask : Question → StateM σ (Option String)) (n : Nat) (w : σ),
      (t'.solve ask n).run w = (t.solve ask n).run w ∧
      diary ask n (.next ⟨t', .round⟩) w = diary ask n (.next ⟨t, .round⟩) w

/-- Whatever calls were made and however they ended, forms can then be asked for in any order, more
than once, and beside forms that there are not. -/
theorem requests_as_set (h : Session (initial library inputs canAsk) before s)
    (names : List String) : ∃ t, AsSet library s names t := by
  have hs := h.registered
  obtain ⟨t, ht⟩ := hs.exists_requests names
  obtain ⟨-, htakes, hforms⟩ := ht.takesUp hs map_fst_request
  have hgranted : ∀ (names' : List String) (t' : Solver),
      (∀ q, replyTo library q = .added → (q ∈ names' ↔ q ∈ names)) →
        Session s (names'.map (request library)) t' → t' = t := by
    intro names' t' hn ht'
    obtain ⟨-, htakes', hforms'⟩ := ht'.takesUp hs map_fst_request
    refine htakes'.eq htakes fun q => ?_
    rw [hforms, hforms', and_congr_left (hn q)]
  refine ⟨t, ht, ?_, hforms, ?_, ?_, hgranted, ?_⟩
  · intro calls t' hc ht'
    obtain ⟨rfl, -⟩ := ht'.takesUp hs hc
    exact ⟨rfl, hgranted names t' (fun _ _ => .rfl) ht'⟩
  · rintro q e u ⟨⟩
    rfl
  · intro q hq hadded reply u hr
    obtain ⟨rfl, ⟨-, ha⟩ | ⟨hne, -⟩⟩ := htakes.registered.replies hr
    · obtain ⟨name, form, -, ⟨-, rfl⟩ | ⟨hnew, -⟩⟩ := addForm_eq_ok ha
      · exact ⟨hadded, rfl⟩
      · exact absurd ((hforms q).mpr (.inr ⟨hq, hadded⟩)) hnew
    · exact absurd hadded hne
  · intro names' t' hn ht' σ ask n w
    obtain rfl := hgranted names' t' (fun _ _ => hn.mem_iff) ht'
    exact ⟨rfl, rfl⟩

/-- After a solve that failed, another instance is asked for twice, beside a form that there is
not. -/
theorem requests_as_set_failed : ∃ s t,
    Session (initial misdirectedAmount (.ofSections .empty) false)
      [(.addForm "a", .added), (.solve, .failed (.unknownField "b:x.9" "a.1"))] s ∧
    AsSet misdirectedAmount s ["b:y", "c", "b:y"] t ∧ "b:y" ∈ t.forms ∧ "b:y" ∉ s.forms := by
  obtain ⟨s, hs, hlook⟩ := exists_session (initial misdirectedAmount (.ofSections .empty) false)
    (fun _ => none) 20 [(.addForm "a", .added), (.solve, .failed (.unknownField "b:x.9" "a.1"))]
    (fun s => s.forms.contains "b:y") false (by decide +kernel)
  obtain ⟨t, ht⟩ := requests_as_set hs ["b:y", "c", "b:y"]
  refine ⟨s, t, hs, ht, (ht.forms "b:y").mpr (.inr ⟨by simp, rfl⟩), ?_⟩
  rw [← Std.ExtTreeMap.contains_iff_mem, hlook]
  simp

end TaxReturn.Solver
