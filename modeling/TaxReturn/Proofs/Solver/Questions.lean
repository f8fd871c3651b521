import TaxReturn.Proofs.Stability
import TaxReturn.Proofs.Solver.Moments
import TaxReturn.Proofs.Solver.Explanation

/-! The filer is asked for an input once, with the fields that wait for it, until an answer is
refused. What is answered is given, and nothing that was given is changed. -/
namespace TaxReturn

/-- Give an answer under the section and key that its name comes apart into. -/
def Sections.enter (given : Sections) (answer : String × String) : Sections :=
  match Name.split answer.1 with
  | some (q, key) => given.set q key answer.2
  | none => given

theorem InputStore.exists_give {store : InputStore} {n raw : String} {p : String × String}
    (hs : Name.split n = some p) : ∃ x, store.give n raw = .ok x := by
  simp only [give, hs]
  split
  · exact ⟨_, rfl⟩
  · exact ⟨_, rfl⟩

namespace Solver

variable {s t : Solver} {p p' : Point} {l : List Moment} {x : Moment} {q : Question}
  {n raw : String} {library : Library} {inputs : InputStore} {canAsk : Bool}
  {calls : List (Call × Reply)}

/-- The questions that are put in the course of a record, with what is answered. -/
def exchanges (l : List Moment) : List (Question × Option String) := l.filterMap (·.exchange)

theorem exchanges_pass : exchanges (⟨s, none⟩ :: l) = exchanges l := by simp [exchanges]

theorem exchanges_put {e : Question × Option String} :
    exchanges (⟨s, some e⟩ :: l) = e :: exchanges l := by simp [exchanges]

/-- The input that is asked for and what is answered, if it can be read. -/
def acceptedAnswer : Question × Option String → Option (String × String)
  | (question, some raw) => if question.spec.accepts raw then some (question.name, raw) else none
  | (_, none) => none

/-- The answers that can be read. -/
def accepted (l : List Moment) : List (String × String) := (exchanges l).filterMap acceptedAnswer

/-- A question asks for an input as it is registered, and tells the fields that wait for it. -/
structure Poses (library : Library) (s : Solver) (q : Question) : Prop where
  registered : s.inputSpecs[q.name]? = some q.spec
  declared : library.inputSpec? q.name = some q.spec
  waiting : q.waiting = s.inputWaits.waiters q.name
  needed : q.waiting ≠ []
  nodup : q.waiting.Nodup
  unmet : q.name ∉ s.inputWaits.met

/-- Somebody who keeps a record of what is asked, and who answers as `ask` does. -/
def recording {σ : Type} (ask : Question → StateM σ (Option String)) :
    Question → StateM (σ × List (Question × Option String)) (Option String) := fun question w =>
  let answered := (ask question).run w.1
  (answered.1, (answered.2, w.2 ++ [(question, answered.1)]))

/-- The questions of a record are those that somebody who is asked gets to see. -/
theorem follow_recording {σ : Type} (ask : Question → StateM σ (Option String)) (moves : Nat)
    (m : Move) (w : σ) (seen : List (Question × Option String)) :
    (follow (recording ask) moves m).run (w, seen) =
      (((follow ask moves m).run w).1,
        ((follow ask moves m).run w).2, seen ++ exchanges (diary ask moves m w)) := by
  have hnone : ∀ s : Solver, seen ++ exchanges [⟨s, none⟩] = seen := by simp [exchanges]
  induction moves generalizing m w seen with
  | zero => cases m <;> exact congrArg (Prod.mk _) (congrArg (Prod.mk _) (hnone _).symm)
  | succ n ih =>
    cases m with
    | finished s => exact congrArg (Prod.mk _) (congrArg (Prod.mk _) (hnone _).symm)
    | failed e s => exact congrArg (Prod.mk _) (congrArg (Prod.mk _) (hnone _).symm)
    | next run => exact ih run.move w seen hnone
    | ask question run =>
      have h := ih (run.answer question ((ask question).run w).1) ((ask question).run w).2
        (seen ++ [(question, ((ask question).run w).1)]) (by simp [exchanges])
      rw [List.append_assoc] at h
      exact h

/-- What is asked and answered in the course of a record that comes to `s`, from given inputs. -/
structure Protocol (library : Library) (inputs : InputStore) (l : List Moment) (s : Solver) :
    Prop where
  once : ((exchanges l).map (·.1.name)).Nodup
  refusal : ∀ before q after, exchanges l = before ++ (q, none) :: after → after = []
  poses : ∀ x ∈ l, ∀ q answer, x.exchange = some (q, answer) → Poses library x.solver q
  given : s.inputs.given = (accepted l).foldl Sections.enter inputs.given
  raw : ∀ n raw, s.inputs.raw? n = some raw ↔ inputs.raw? n = some raw ∨ (n, raw) ∈ accepted l
  new : ∀ n raw, (n, raw) ∈ accepted l → inputs.raw? n = none
  kept : ∀ x ∈ l, ∀ n raw, x.solver.inputs.raw? n = some raw → s.inputs.raw? n = some raw

theorem name_of_acceptedAnswer {answer : Option String}
    (h : acceptedAnswer (q, answer) = some (n, raw)) : n = q.name := by
  cases answer with
  | none => cases h
  | some r =>
    simp only [acceptedAnswer] at h
    split at h <;> cases h
    rfl

theorem Protocol.congr (h : Protocol library inputs l s) (hg : t.inputs.given = s.inputs.given) :
    Protocol library inputs l t := by
  have hraw : ∀ n, t.inputs.raw? n = s.inputs.raw? n := fun n => by simp [InputStore.raw?, hg]
  exact ⟨h.once, h.refusal, h.poses, hg.trans h.given, fun n raw => by rw [hraw, h.raw], h.new,
    fun x hx n raw hr => by rw [hraw, h.kept x hx n raw hr]⟩

theorem Protocol.pass (h : Protocol library inputs l s) :
    Protocol library inputs (l ++ [⟨s, none⟩]) s := by
  have he : exchanges (l ++ [⟨s, none⟩]) = exchanges l := by simp [exchanges]
  have ha : accepted (l ++ [⟨s, none⟩]) = accepted l := by simp [accepted, he]
  refine ⟨he ▸ h.once, he ▸ h.refusal, fun x hx q answer hq => ?_, ha ▸ h.given, ha ▸ h.raw,
    ha ▸ h.new, fun x hx n raw hr => ?_⟩
  · rcases List.mem_append.mp hx with hx | hx
    · exact h.poses x hx q answer hq
    · rw [List.mem_singleton] at hx
      subst hx
      cases hq
  · rcases List.mem_append.mp hx with hx | hx
    · exact h.kept x hx n raw hr
    · rw [List.mem_singleton] at hx
      subst hx
      exact hr

/-- What is kept of questions and answers, whatever fails. -/
structure Conversed (library : Library) (inputs : InputStore) (l : List Moment) (p : Point) :
    Prop where
  registered : Registered library inputs.specs p.solver
  accounted : Accounted p
  lacking : ∀ f i, f ∈ p.solver.inputWaits.waiters i →
    i ∈ p.solver.inputWaits.met ∨ p.solver.inputs.raw? i = none
  met : ∀ i ∈ p.solver.inputWaits.met, i ∈ p.solver.asked
  asked : ∀ e ∈ exchanges l, e.1.name ∈ p.solver.asked
  refused : p.solver.refused = true ↔ ∃ q, (q, none) ∈ exchanges l
  protocol : Protocol library inputs l p.solver

/-- Along a change that asks nobody, nothing is given and nobody refuses. -/
theorem Turn.given (h : Turn s p p') :
    p'.solver.inputs.given = p.solver.inputs.given ∧ p'.solver.refused = p.solver.refused := by
  obtain ⟨hs, hasked, -⟩ := h
  cases hs with
  | wait hv hy hd hp =>
    obtain ⟨new, hg, -⟩ := hd.grows
    exact ⟨hg.given, hg.refused⟩
  | @refuse s hand input spec hc hr ha =>
    exact absurd (hasked ▸ Name.mem_insert.mpr (.inl rfl)) ha
  | @accept s hand input spec value raw new inputs hc hr ha =>
    exact absurd (hasked ▸ Name.mem_insert.mpr (.inl rfl)) ha
  | _ => exact ⟨rfl, rfl⟩

/-- Who comes to lack an input in a change that asks nobody has just been evaluated. -/
theorem Turn.inputWaits (h : Turn s p p') :
    (∀ i ∈ p'.solver.inputWaits.met, i ∈ p.solver.inputWaits.met) ∧
    ∀ f i, f ∈ p'.solver.inputWaits.waiters i →
      f ∈ p.solver.inputWaits.waiters i ∧
        (i ∈ p.solver.inputWaits.met → i ∈ p'.solver.inputWaits.met) ∨
      p.solver.Yields f (.error (.missingInput i)) := by
  obtain ⟨hs, hasked, -⟩ := h
  cases hs with
  | wait hv hy hd hp =>
    obtain ⟨new, hg, -⟩ := hd.grows
    have hw := hg.inputWaits
    simp only [hw]
    exact ⟨fun i hi => hi, fun f i hf => .inl ⟨hf, fun hi => hi⟩⟩
  | lack hv hy =>
    refine ⟨fun i hi => hi, fun f i hf => ?_⟩
    rcases Waitlist.mem_waiters_add.mp hf with hf | ⟨rfl, rfl⟩
    · exact .inl ⟨hf, fun hi => hi⟩
    · exact .inr hy
  | supply =>
    refine ⟨by simp, fun f i hf => ?_⟩
    simp only [Waitlist.waiters_releaseAll] at hf
    split at hf
    · simp at hf
    · rename_i hi
      exact .inl ⟨hf, fun h => absurd h hi⟩
  | @accept s hand input spec value raw new inputs hc hr ha =>
    exact absurd (hasked ▸ Name.mem_insert.mpr (.inl rfl)) ha
  | _ => exact ⟨fun i hi => hi, fun f i hf => .inl ⟨hf, fun hi => hi⟩⟩

theorem Conversed.turn (hlacks : library.LacksAbsent) (h : Conversed library inputs l p)
    (ht : Turn s p p') : Conversed library inputs l p' := by
  obtain ⟨hgiven, hrefused⟩ := ht.given
  obtain ⟨hmet, hwaits⟩ := ht.inputWaits
  have hraw : ∀ n, p'.solver.inputs.raw? n = p.solver.inputs.raw? n := fun n => by
    simp [InputStore.raw?, hgiven]
  constructor
  case registered => exact registered_step h.registered ht.step
  case accounted => exact h.accounted.step ht.step
  case lacking =>
    intro f i hf
    rw [hraw]
    rcases hwaits f i hf with ⟨hf, hi⟩ | hy
    · exact (h.lacking f i hf).imp_left hi
    · have hi := (h.registered.evaluates hy).lacks hlacks
      exact .inr (by simpa [InputStore.has] using hi)
  case met => exact fun i hi => ht.asked ▸ h.met i (hmet i hi)
  case asked => exact fun e he => ht.asked ▸ h.asked e he
  case refused => exact hrefused ▸ h.refused
  case protocol => exact h.protocol.congr hgiven

/-- A question that is about to be put is proper, and its input is not given. -/
theorem Conversed.poses {hand : List String} (h : Conversed library inputs l ⟨s, hand, none⟩)
    (hq : s.Asks q) : Poses library (s.asking q) q ∧ s.inputs.raw? q.name = none := by
  have hmet : q.name ∉ s.inputWaits.met := fun hm => hq.new (h.met _ hm)
  constructor
  · constructor
    case registered => exact hq.spec
    case declared => exact ((h.registered.inputSpec _ _).mp hq.spec).2
    case waiting => exact hq.waiting
    case needed => exact hq.waiting ▸ hq.needed
    case nodup =>
      rw [hq.waiting, List.nodup_iff_count_le_one]
      intro f
      have h1 : (s.inputWaits.waiters q.name).count f ≤ s.inputWaits.occurrences f :=
        Waitlist.count_waiters_le
      have h2 := h.accounted.places_le f
      simp only [places] at h2
      omega
    case unmet => exact hmet
  · obtain ⟨f, hf⟩ := List.exists_mem_of_ne_nil _ hq.needed
    exact (h.lacking f _ hf).resolve_left hmet

/-- One question more is put, of a new input that is not given, and its answer is given if it can
be read. -/
theorem Protocol.exchange {answer : Option String} {u : Solver} (h : Protocol library inputs l s)
    (hnew : ∀ e ∈ exchanges l, e.1.name ≠ q.name) (hopen : ∀ q, (q, none) ∉ exchanges l)
    (hposes : Poses library u q) (hu : u.inputs = s.inputs) (habsent : s.inputs.raw? q.name = none)
    (hgiven : t.inputs.given = (acceptedAnswer (q, answer)).toList.foldl .enter s.inputs.given)
    (hraw : ∀ n raw, t.inputs.raw? n = some raw ↔
      s.inputs.raw? n = some raw ∨ acceptedAnswer (q, answer) = some (n, raw)) :
    Protocol library inputs (l ++ [⟨u, some (q, answer)⟩]) t := by
  have he : exchanges (l ++ [⟨u, some (q, answer)⟩]) = exchanges l ++ [(q, answer)] := by
    simp [exchanges]
  have ha : accepted (l ++ [⟨u, some (q, answer)⟩]) =
      accepted l ++ (acceptedAnswer (q, answer)).toList := by
    rw [accepted, he, List.filterMap_append]
    cases hacc : acceptedAnswer (q, answer) <;> simp [accepted, hacc]
  constructor
  case once =>
    rw [he, List.map_append, List.nodup_append]
    refine ⟨h.once, by simp, fun a hm b hb => ?_⟩
    obtain ⟨e, hmem, rfl⟩ := List.mem_map.mp hm
    simp only [List.map_cons, List.map_nil, List.mem_singleton] at hb
    exact hb ▸ hnew e hmem
  case refusal =>
    intro before q' after hsplit
    rw [he] at hsplit
    rcases List.eq_nil_or_concat after with rfl | ⟨rest, y, rfl⟩
    · rfl
    · -- A refusal before the last question would have ended the questions.
      have hcut : exchanges l ++ [(q, answer)] = (before ++ (q', none) :: rest) ++ [y] := by
        simpa using hsplit
      have hl := (List.append_inj' hcut rfl).1
      exact absurd (hl ▸ by simp) (hopen q')
  case poses =>
    intro x hx q' answer' hx'
    rcases List.mem_append.mp hx with hx | hx
    · exact h.poses x hx q' answer' hx'
    · rw [List.mem_singleton] at hx
      subst hx
      cases hx'
      exact hposes
  case given => rw [hgiven, ha, List.foldl_append, h.given]
  case raw =>
    intro n raw
    rw [hraw, h.raw, ha, List.mem_append, or_assoc]
    simp
  case new =>
    intro n raw hm
    rw [ha, List.mem_append] at hm
    rcases hm with hm | hm
    · exact h.new n raw hm
    · obtain rfl := name_of_acceptedAnswer (show _ = some (n, raw) by simpa using hm)
      cases hn : inputs.raw? q.name with
      | none => rfl
      | some r =>
        rw [(h.raw _ r).mpr (.inl hn)] at habsent
        cases habsent
  case kept =>
    intro x hx n raw hr
    rcases List.mem_append.mp hx with hx | hx
    · exact (hraw n raw).mpr (.inl (h.kept x hx n raw hr))
    · rw [List.mem_singleton] at hx
      subst hx
      exact (hraw n raw).mpr (.inl (hu ▸ hr))

/-- A registered input has a name that comes apart. -/
theorem Registered.exists_split {known : Name.Table InputSpec} {spec : InputSpec}
    (h : Registered library known s) (hn : s.inputSpecs[n]? = some spec) :
    ∃ p, Name.split n = some p := by
  obtain ⟨⟨form, base, hs, -⟩, -⟩ := (h.inputSpec n spec).mp hn
  exact ⟨_, hs⟩

/-- What is kept of a question that is put and of its answer. -/
theorem Conversed.exchange {answer : Option String} (h : Conversed library inputs l ⟨s, [], none⟩)
    (hq : s.Asks q) (hsame : SameRegistry s t) (haccounted : Accounted ⟨t, [], none⟩)
    (hasked : t.asked = s.asked.insert q.name)
    (hrefused : t.refused = answer.isNone)
    (hwaits : t.inputWaits = s.inputWaits ∧ acceptedAnswer (q, answer) = none ∨
      t.inputWaits = s.inputWaits.meet q.name)
    (hgiven : t.inputs.given = (acceptedAnswer (q, answer)).toList.foldl .enter s.inputs.given)
    (hraw : ∀ n raw, t.inputs.raw? n = some raw ↔
      s.inputs.raw? n = some raw ∨ acceptedAnswer (q, answer) = some (n, raw)) :
    Conversed library inputs (l ++ [⟨s.asking q, some (q, answer)⟩]) ⟨t, [], none⟩ := by
  obtain ⟨hposes, habsent⟩ := h.poses hq
  have hopen : ∀ q, (q, none) ∉ exchanges l := fun q' hm => by
    have hr := h.refused.mpr ⟨q', hm⟩
    rw [hq.refused] at hr
    cases hr
  have he : exchanges (l ++ [⟨s.asking q, some (q, answer)⟩]) = exchanges l ++ [(q, answer)] := by
    simp [exchanges]
  have hmet : ∀ i, i ∈ t.inputWaits.met → i ∈ s.inputWaits.met ∨ i = q.name := by
    rcases hwaits with ⟨hw, -⟩ | hw
    · exact fun i hi => .inl (hw ▸ hi)
    · simp [hw]
  constructor
  case registered => exact h.registered.same hsame
  case accounted => exact haccounted
  case lacking =>
    intro f i hf
    cases hi : t.inputs.raw? i with
    | none => exact .inr rfl
    | some r =>
      left
      rcases hwaits with ⟨hw, hacc⟩ | hw
      · have hs := ((hraw i r).mp hi).resolve_right (by simp [hacc])
        rw [hw] at hf ⊢
        exact (h.lacking f i hf).resolve_right (by simp [hs])
      · rw [hw, Waitlist.met_meet, List.mem_append, List.mem_singleton]
        rw [hw] at hf
        rcases (hraw i r).mp hi with hs | hacc
        · exact .inl ((h.lacking f i hf).resolve_right (by simp [hs]))
        · exact .inr (name_of_acceptedAnswer hacc)
  case met =>
    intro i hi
    rw [hasked, Name.mem_insert]
    rcases hmet i hi with hi | hi
    · exact .inr (h.met i hi)
    · exact .inl hi
  case asked =>
    intro e hm
    rw [hasked, Name.mem_insert]
    rw [he, List.mem_append, List.mem_singleton] at hm
    rcases hm with hm | rfl
    · exact .inr (h.asked e hm)
    · exact .inl rfl
  case refused =>
    rw [hrefused, he]
    cases answer with
    | none => simp
    | some raw => simp [hopen]
  case protocol =>
    exact h.protocol.exchange (fun e hm hn => hq.new (hn ▸ h.asked e hm)) hopen hposes rfl habsent
      hgiven hraw

theorem Conversed.rejects (h : Conversed library inputs l ⟨s, [], none⟩) (hq : s.Asks q)
    (hr : s.Rejects q raw) : Conversed library inputs
      (l ++ [⟨s.asking q, some (q, some raw)⟩]) ⟨s.asking q, [], none⟩ := by
  have hacc : acceptedAnswer (q, some raw) = none := by
    obtain ⟨x, hx⟩ := h.registered.exists_split hq.spec
    obtain ⟨y, hy⟩ : ∃ y, s.inputs.give q.name raw = .ok y := InputStore.exists_give hx
    cases hp : q.spec.parse raw with
    | ok value => exact absurd hy (hr value hp y)
    | error fault => simp [acceptedAnswer, InputSpec.accepts, hp, Except.isOk, Except.toBool]
  refine h.exchange hq ⟨rfl, rfl, rfl, rfl, rfl, rfl⟩ (h.accounted.congr rfl rfl rfl rfl) rfl
    hq.refused (.inl ⟨rfl, hacc⟩) ?_ ?_
  · rw [hacc]
    rfl
  · simp [hacc, asking]

theorem Conversed.answers {answer : Option String} (h : Conversed library inputs l ⟨s, [], none⟩)
    (hq : s.Asks q) (ha : Answers s q answer t) : Conversed library inputs
      (l ++ [⟨s.asking q, some (q, answer)⟩]) ⟨t, [], none⟩ := by
  cases ha with
  | refused =>
    refine h.exchange hq ⟨rfl, rfl, rfl, rfl, rfl, rfl⟩ (h.accounted.congr rfl rfl rfl rfl) rfl rfl
      (.inl ⟨rfl, rfl⟩) rfl ?_
    simp [acceptedAnswer, asking]
  | @accepted raw value new inputs' hp hg =>
    have hacc : acceptedAnswer (q, some raw) = some (q.name, raw) := by
      simp [acceptedAnswer, InputSpec.accepts, hp, Except.isOk, Except.toBool]
    obtain ⟨-, habsent⟩ := h.poses hq
    refine h.exchange hq ⟨rfl, rfl, rfl, rfl, rfl, InputStore.specs_give hg⟩
      (h.accounted.congr rfl rfl rfl rfl) rfl hq.refused (.inr rfl) ?_ ?_
    · obtain ⟨form, key, hs, ⟨hh, -⟩ | ⟨-, rfl⟩⟩ := InputStore.give_eq_ok hg
      · simp [InputStore.has, habsent] at hh
      · simp [hacc, Sections.enter, hs]
    · intro n r
      simp only [InputStore.raw?_give hg, hacc, habsent, and_true]
      by_cases hn : n = q.name
      · subst hn
        simp [habsent]
      · simp [hn, Ne.symm hn]

/-- What is known to be asked is the same, or more is. -/
theorem Conversed.carry {hand : List String} {current : Option String}
    (h : Conversed library inputs l p) (hreg : Registered library inputs.specs t)
    (hacc : Accounted ⟨t, hand, current⟩) (hw : t.inputWaits = p.solver.inputWaits)
    (hg : t.inputs.given = p.solver.inputs.given) (hr : t.refused = p.solver.refused)
    (ha : ∀ i ∈ p.solver.asked, i ∈ t.asked) : Conversed library inputs l ⟨t, hand, current⟩ where
  registered := hreg
  accounted := hacc
  lacking f i hf := by
    have hraw : t.inputs.raw? i = p.solver.inputs.raw? i := by simp [InputStore.raw?, hg]
    simp only [hw, hraw] at hf ⊢
    exact h.lacking f i hf
  met i hi := ha i (h.met i (hw ▸ hi))
  asked e he := ha _ (h.asked e he)
  refused := by
    simp only [hr]
    exact h.refused
  protocol := h.protocol.congr hg

/-- What fails gives nothing and meets nothing. -/
theorem Fails.frame {e : TaxError} (h : Fails p e t) : t.inputWaits = p.solver.inputWaits ∧
    t.inputs.given = p.solver.inputs.given ∧ t.refused = p.solver.refused ∧
    ∀ i ∈ p.solver.asked, i ∈ t.asked := by
  have hinsert : ∀ (s : Solver) (input : String), ∀ i ∈ s.asked, i ∈ s.asked.insert input :=
    fun s input i hi => Name.mem_insert.mpr (.inr hi)
  cases h with
  | unknown | fatal => exact ⟨rfl, rfl, rfl, fun i hi => hi⟩
  | missed hv hy hd =>
    obtain ⟨new, hg⟩ := (misses_of_discover hd).grows
    exact ⟨hg.inputWaits, hg.given, hg.refused, fun i hi => hg.asked ▸ hi⟩
  | cyclic hv hy hd hp =>
    obtain ⟨new, hg, -⟩ := hd.grows
    exact ⟨hg.inputWaits, hg.given, hg.refused, fun i hi => hg.asked ▸ hi⟩
  | unspecified | unreadable | ungiven => exact ⟨rfl, rfl, rfl, hinsert _ _⟩

theorem keeps_conversed (hlacks : library.LacksAbsent) : Keeps (Conversed library inputs) where
  pass l s hand h := by
    have he : exchanges (l ++ [⟨s, none⟩]) = exchanges l := by simp [exchanges]
    exact ⟨h.registered, h.accounted, h.lacking, h.met, he ▸ h.asked, he ▸ h.refused,
      h.protocol.pass⟩
  turn l x p p' _ h ht := h.turn hlacks ht
  fails l p e t h hf := by
    obtain ⟨hw, hg, hr, ha⟩ := hf.frame
    exact h.carry (registered_fails h.registered hf) (h.accounted.fails hf) hw hg hr ha
  asking l s q h hq := h.carry (h.registered.same ⟨rfl, rfl, rfl, rfl, rfl, rfl⟩)
    (h.accounted.congr rfl rfl rfl rfl) rfl rfl rfl fun i hi => Name.mem_insert.mpr (.inr hi)
  answers l s q answer t h hq ha := h.answers hq ha
  rejects l s q raw h hq hr := h.rejects hq hr
  addForm l s t q h ha := by
    have hreg := registered_addForm h.registered ha
    have hacc := h.accounted.addForm ha
    obtain ⟨new, hg⟩ := addForm_grows ha
    exact h.carry hreg hacc hg.inputWaits hg.given hg.refused fun i hi => hg.asked ▸ hi
  finish l s h hw := h.carry (h.registered.same ⟨rfl, rfl, rfl, rfl, rfl, rfl⟩)
    (h.accounted.congr rfl rfl rfl rfl) rfl rfl rfl fun i hi => hi

theorem conversed_initial :
    Conversed library inputs [] ⟨initial library inputs canAsk, [], none⟩ where
  registered := registered_initial
  accounted := accounted_initial
  lacking := by simp [initial]
  met := by simp [initial, Waitlist.empty]
  asked := by simp [exchanges]
  refused := by simp [exchanges, initial]
  protocol := by constructor <;> simp [exchanges, accepted, initial]

/-- What was asked for is given, unless somebody refused. -/
def Heard (s : Solver) : Prop := ∀ i ∈ s.asked, s.inputs.has i ∨ s.refused = true

theorem Heard.congr (h : Heard s) (ha : t.asked = s.asked)
    (hg : t.inputs.given = s.inputs.given) (hr : t.refused = s.refused) : Heard t := by
  intro i hi
  have hhas : t.inputs.has i = s.inputs.has i := by simp [InputStore.has, InputStore.raw?, hg]
  rw [hhas, hr]
  exact h i (ha ▸ hi)

theorem heard_step (h : Heard p.solver) (hs : Step p p') : Heard p'.solver := by
  cases hs with
  | wait hv hy hd hp =>
    obtain ⟨new, hg, -⟩ := hd.grows
    exact Heard.congr (s := Solver.log _ _) h hg.asked hg.given hg.refused
  | refuse => exact fun i _ => .inr rfl
  | @accept s hand input spec value raw new inputs hc hr ha hw hs hp hg =>
    intro i hi
    rcases Name.mem_insert.mp hi with rfl | hi
    · exact .inl (InputStore.has_give hg)
    · refine (h i hi).imp_left fun hi => ?_
      obtain ⟨r, hr⟩ := Option.isSome_iff_exists.mp hi
      simp only [InputStore.has, InputStore.raw?_give hg]
      split
      · rfl
      · simp [hr]
  | _ => exact h

theorem heard_addForm {form : String} (h : Heard s) (ha : s.addForm form = .ok t) : Heard t := by
  obtain ⟨new, hg⟩ := addForm_grows ha
  exact h.congr hg.asked hg.given hg.refused

/-- While no call fails, what was asked for is given, unless somebody refused. -/
theorem Session.heard (h : Session (initial library inputs canAsk) calls s)
    (hok : ErrorFree calls) : Heard s := by
  obtain ⟨lost, hs, -⟩ := h.induction (I := fun p => Heard p.solver)
    (by simp [Heard, initial]) (fun _ _ _ _ _ hs ha => heard_addForm hs ha)
    (fun _ _ hp hs => heard_step hp hs) (fun _ _ hs _ => hs) (.inl hok)
  exact hs

theorem canAsk_step (hs : Step p p') : p'.solver.canAsk = p.solver.canAsk := by
  cases hs with
  | wait hv hy hd hp =>
    obtain ⟨new, hg, -⟩ := hd.grows
    exact hg.canAsk
  | _ => rfl

theorem canAsk_fails {e : TaxError} (hf : Fails p e t) : t.canAsk = p.solver.canAsk := by
  cases hf with
  | missed hv hy hd =>
    obtain ⟨new, hg⟩ := (misses_of_discover hd).grows
    exact hg.canAsk
  | cyclic hv hy hd hp =>
    obtain ⟨new, hg, -⟩ := hd.grows
    exact hg.canAsk
  | _ => rfl

theorem Session.canAsk_eq (h : Session (initial library inputs canAsk) calls s) :
    s.canAsk = canAsk := by
  obtain ⟨lost, hs, -⟩ := h.induction (I := fun p => p.solver.canAsk = canAsk) rfl
    (fun s t q _ _ hs ha => by
      obtain ⟨new, hg⟩ := addForm_grows ha
      exact hg.canAsk.trans hs)
    (fun _ _ hp hs => (canAsk_step hs).trans hp) (fun _ _ hs _ => hs)
    (.inr fun _ _ _ hp hf => (canAsk_fails hf).trans hp)
  exact hs

/-- When nothing is left to do, there is somebody to ask and nobody refused, no input is lacked. -/
theorem Conversed.unmet_eq_nil (h : Conversed library inputs l ⟨s, [], none⟩) (hheard : Heard s)
    (hc : s.canAsk) (hopen : ∀ q, (q, none) ∉ exchanges l) (hw : s.hasWork = false) :
    s.inputWaits.unmet = [] := by
  obtain ⟨-, -, hmet, hm⟩ := hasWork_eq_false hw
  have hr : s.refused = false := by
    cases hr : s.refused with
    | false => rfl
    | true =>
      obtain ⟨q, hq⟩ := h.refused.mp hr
      exact absurd hq (hopen q)
  rw [← List.map_eq_nil_iff (f := (·.1)), List.eq_nil_iff_forall_not_mem]
  intro n hn
  -- An input that is lacked has not been asked for, so there is something left to ask.
  have hasked : n ∈ s.asked := by
    simp only [mayAsk, hc, hr, Bool.not_false, Bool.and_self, Bool.true_and,
      List.any_eq_false] at hm
    simpa using hm n hn
  obtain ⟨f, hf⟩ := List.exists_mem_of_ne_nil _ (Waitlist.mem_unmetNames.mp hn).1
  have habsent := (h.lacking f n hf).resolve_left (by simp [hmet])
  have := (hheard n hasked).resolve_right (by simp [hr])
  simp [InputStore.has, habsent] at this

/-- The questions of a session, and of a solve that is under way after it. -/
theorem prompter_protocol (hlacks : library.LacksAbsent)
    (h : Chronicle (initial library inputs canAsk) calls l s) {σ : Type}
    (ask : Question → StateM σ (Option String)) (n : Nat) (w : σ) :
    Protocol library inputs (l ++ diary ask n (.next ⟨s, .round⟩) w)
      ((s.solve ask n).run w).1.solver ∧
    (ErrorFree calls → canAsk = true →
      (∀ q, (q, none) ∉ exchanges (l ++ diary ask n (.next ⟨s, .round⟩) w)) →
      ∀ t, ((s.solve ask n).run w).1 = .finished t → t.inputWaits.unmet = []) := by
  have hI : Keeps (Conversed library inputs) := keeps_conversed hlacks
  obtain ⟨hand, hc, hhand⟩ := hI.solve ask n w
    (hI.chronicle h conversed_initial)
  refine ⟨hc.protocol, fun hok hcan hopen t ht => ?_⟩
  have hr : (s.solve ask n).run w = (.finished t, ((s.solve ask n).run w).2) :=
    Prod.ext ht rfl
  have hsession := h.session.call (.returned hr)
  obtain rfl := hhand (by simp [ht])
  rw [ht] at hc
  refine hc.unmet_eq_nil (hsession.heard (errorFree_concat_returned hok))
    (hsession.canAsk_eq.trans hcan) hopen (hasWork_of_returned (.returned hr)).1

/-- The copied amount is asked for and answered, and then no input is lacked. -/
theorem prompter_protocol_copied : ∃ s t,
    Chronicle (initial copiedAmount (.ofSections .empty) true) [(.addForm "a", .added)] [] s ∧
    ((s.solve (m := StateM Unit) (fun _ => pure (some "5")) 40).run ()).1 = .finished t ∧
    Protocol copiedAmount (.ofSections .empty)
      (diary (fun _ => pure (some "5")) 40 (.next ⟨s, .round⟩) ()) t ∧
    t.inputWaits.unmet = [] := by
  let ask : Question → StateM Unit (Option String) := fun _ => pure (some "5")
  have hrun : ((initial copiedAmount (.ofSections .empty) true).addForm "a").toOption.map (fun s =>
      (match ((s.solve ask 40).run ()).1 with | .finished _ => true | _ => false,
        (exchanges (diary ask 40 (.next ⟨s, .round⟩) ())).map (·.2))) =
      some (true, [some "5"]) := by
    decide +kernel
  obtain ⟨s, hs, hseen⟩ := Option.map_eq_some_iff.mp hrun
  obtain ⟨hend, hanswers⟩ := Prod.mk.inj hseen
  have ha : (initial copiedAmount (.ofSections .empty) true).addForm "a" = .ok s := by
    cases ha : (initial copiedAmount (.ofSections .empty) true).addForm "a" with
    | ok u =>
      rw [ha] at hs
      exact congrArg Except.ok (Option.some.inj hs)
    | error e =>
      rw [ha] at hs
      cases hs
  have h : Chronicle _ [(.addForm "a", .added)] [] s := Chronicle.start.added ha
  obtain ⟨hp, hunmet⟩ := prompter_protocol lacksAbsent_copiedAmount h ask 40 ()
  cases he : ((s.solve ask 40).run ()).1 with
  | finished t =>
    rw [he] at hp
    refine ⟨s, t, h, he, hp, hunmet (by simp [ErrorFree]) rfl (fun q hq => ?_) t he⟩
    have hm : none ∈ (exchanges (diary ask 40 (.next ⟨s, .round⟩) ())).map (·.2) :=
      List.mem_map.mpr ⟨_, hq, rfl⟩
    rw [hanswers] at hm
    simp at hm
  | failed e t => simp [he] at hend
  | unfinished t => simp [he] at hend

end Solver
end TaxReturn
