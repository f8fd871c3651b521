import TaxReturn.Proofs.Transcript
import TaxReturn.Proofs.Solver.Invalid
import TaxReturn.Proofs.Year2023.Restored

/-! A solve at a terminal. Its questions use up the lines one after another, and an input that is
asked for is not found invalid: neither in the library of 2023 nor in any other whose value
functions report an input as missing only if it is not given, and as invalid only if it cannot be
read. -/
namespace TaxReturn.Solver

open Terminal

variable {s u : Solver} {l : List Moment} {library : Library} {inputs : InputStore} {canAsk : Bool}
  {calls : List (Call × Reply)} {n raw : String} {fault : ValueFault} {moves : ℕ}
  {t : Terminal} {given : Sections}

/-- What is asked in the course of a record and of a solve at a terminal after it. -/
def exchangesAt (l : List Moment) (s : Solver) (t : Terminal) (moves : ℕ) :
    List (Question × Option String) :=
  exchanges (l ++ diary prompter moves (.next ⟨s, .round⟩) t)

/-- At a terminal only a field can find an input invalid. -/
theorem yields_of_solve
    (h : ((s.solve prompter moves).run t).1 = .failed (.invalidInput n raw fault) u) :
    ∃ f, u.Yields f (.error (.fatal (.invalidInput n raw fault))) := by
  have hask : ∀ q t raw, ((prompter q).run t).1 = some raw → ∃ v, q.spec.parse raw = .ok v :=
    fun q t raw hraw => ((readAnswer_spec rfl).2 raw hraw).2
  exact yields_of_follow hask (by simp) (Prod.ext h rfl)

theorem name_ne_of_candid (hlib : library.Candid)
    (h : Chronicle (initial library inputs canAsk) calls l s)
    (hr : ((s.solve prompter moves).run t).1 = .failed (.invalidInput n raw fault) u) :
    ∀ e ∈ exchangesAt l s t moves, e.1.name ≠ n := by
  obtain ⟨f, hy⟩ := yields_of_solve hr
  obtain ⟨hand, hc, hu⟩ := understood_of_chronicle hlib.missing h prompter moves t
  rw [hr] at hc hu
  rintro e he rfl
  exact hu.notMem_asked hlib.invalid hc.registered hy (hc.asked e he)

/-- In the library of 2023 a filing status that was not made is found invalid too, but a status that
is asked for is one that was made. -/
theorem name_ne_of_year2023
    (h : Chronicle (initial Year2023.library (.ofSections given) canAsk) calls l s)
    (hr : ((s.solve prompter moves).run t).1 = .failed (.invalidInput n raw fault) u) :
    ∀ e ∈ exchangesAt l s t moves, e.1.name ≠ n := by
  obtain ⟨f, hy⟩ := yields_of_solve hr
  obtain ⟨hand, hc, hu⟩ := understood_of_chronicle Year2023.lacksAbsent_library h prompter moves t
  have hsession := h.session.call (.failed (Prod.ext hr rfl))
  obtain ⟨lost, hs⟩ := Year2023.standing_session hsession
  rw [hr] at hc hu
  obtain ⟨q, field, -, -, ho⟩ :=
    (hsession.inOrder Year2023.sound_library).orderly Year2023.sound_library hy
  rintro e he rfl
  cases ho with
  | unreadable hread =>
    rcases hread with hread | hread
    · exact hu.parse_ne_invalid hc.registered (hc.asked e he) hread
    · exact hs.chosen (hc.protocol.declared he) hread

/-- A solve at a terminal, after a session with its record. -/
structure AtTerminal (library : Library) (inputs : InputStore) (l : List Moment) (s : Solver)
    (t : Terminal) (lines : List String) (moves : ℕ) : Prop where
  /-- Each question uses up a stretch of lines behind that of the question before, and after a
  refusal no line is left. -/
  segments : ∃ segments rest, List.Forall₂ (fun e segment => Consumes e.1 e.2 segment)
      (exchanges (diary prompter moves (.next ⟨s, .round⟩) t)) segments ∧
    lines = segments.flatten ++ rest ∧
    ((s.solve prompter moves).run t).2.lines = rest.map some ∧
    ((∃ e ∈ exchanges (diary prompter moves (.next ⟨s, .round⟩) t), e.2 = none) → rest = [])
  /-- It is a field that finds an input invalid, not the check of an answer. -/
  found : ∀ n raw fault u,
    ((s.solve prompter moves).run t).1 = .failed (.invalidInput n raw fault) u →
      ∃ f, u.Yields f (.error (.fatal (.invalidInput n raw fault)))
  /-- What is found invalid was not asked for, in this solve or before. -/
  unasked : (library.Candid ∨ library = Year2023.library ∧ ∃ given, inputs = .ofSections given) →
    ∀ n raw fault u,
      ((s.solve prompter moves).run t).1 = .failed (.invalidInput n raw fault) u →
        ∀ e ∈ exchangesAt l s t moves, e.1.name ≠ n

/-- Text is entered line by line, each question is answered with the first line that it accepts, and
so a solve after a session uses up the lines. -/
theorem atTerminal_of_chronicle (h : Chronicle (initial library inputs canAsk) calls l s) :
    (∀ text, ∃ lines, LinesOf text lines ∧ (ofBytes text.toUTF8).lines = lines.map some) ∧
    (∀ q t lines, t.lines = lines.map some → FirstAccepted q t lines) ∧
    ∀ t lines moves, t.lines = lines.map some → AtTerminal library inputs l s t lines moves := by
  refine ⟨exists_linesOf, fun q t lines => firstAccepted q, fun t lines moves ht => ?_⟩
  constructor
  case segments => exact exists_segments moves _ ht
  case found => exact fun n raw fault u => yields_of_solve
  case unasked =>
    rintro (hlib | ⟨rfl, given, rfl⟩) n raw fault u hr
    · exact name_ne_of_candid hlib h hr
    · exact name_ne_of_year2023 h hr

/-- The input that a solve finds invalid, with what is given for it. -/
def Ending.invalid? : Ending → Option (String × String)
  | .failed (.invalidInput n raw _) _ => some (n, raw)
  | _ => none

theorem Ending.exists_of_invalid? {m : Ending} (h : m.invalid? = some (n, raw)) :
    ∃ fault u, m = .failed (.invalidInput n raw fault) u := by
  unfold invalid? at h
  split at h
  · cases h
    exact ⟨_, _, rfl⟩
  · cases h

/-- A solve of one form at a terminal: the input that it finds invalid, the questions with what is
answered, and the lines that are left. -/
def findsInvalid? (library : Library) (text form : String) (t : Terminal) (moves : ℕ) :
    Option ((String × String) × List (String × Option String) × List (Option String)) := do
  let inputs ← (InputStore.ofText text).toOption
  let s ← ((initial library inputs true).addForm form).toOption
  let (ending, left, seen) := (follow (recording prompter) moves (.next ⟨s, .round⟩)).run (t, [])
  let found ← ending.invalid?
  return (found, seen.map fun e => (e.1.name, e.2), left.lines)

theorem exists_of_findsInvalid? (library : Library) (text form : String) (t : Terminal)
    (moves : ℕ) (n raw : String) (seen : List (String × Option String))
    (left : List (Option String))
    (h : findsInvalid? library text form t moves = some ((n, raw), seen, left)) :
    ∃ inputs s fault u, InputStore.ofText text = .ok inputs ∧
      Chronicle (initial library inputs true) [(.addForm form, .added)] [] s ∧
      ((s.solve prompter moves).run t).1 = .failed (.invalidInput n raw fault) u ∧
      (exchanges (diary prompter moves (.next ⟨s, .round⟩) t)).map (fun e => (e.1.name, e.2)) =
        seen ∧ ((s.solve prompter moves).run t).2.lines = left := by
  obtain ⟨inputs, hin, h⟩ := Option.bind_eq_some_iff.mp h
  obtain ⟨s, ha, h⟩ := Option.bind_eq_some_iff.mp h
  rw [follow_recording] at h
  obtain ⟨found, hr, h⟩ := Option.bind_eq_some_iff.mp h
  simp only [pure, Option.some.injEq, Prod.mk.injEq, List.nil_append] at h
  obtain ⟨rfl, hseen, hleft⟩ := h
  obtain ⟨fault, u, hr⟩ := Ending.exists_of_invalid? hr
  exact ⟨inputs, s, fault, u, toOption_eq_some_iff.mp hin,
    Chronicle.start.added (toOption_eq_some_iff.mp ha), hr, hseen, hleft⟩

/-- A return of two lines, of which the second one is a copy of an input. -/
def twoLines (first : Compute Value) : Library where
  year := 2023
  forms := [{
    name := "a"
    inputs := [⟨"x", .integer, ""⟩, ⟨"y", .integer, ""⟩]
    required := [⟨"1", .integer, first⟩, Line.echo "2" .integer "y"] }]

/-- The first line reads one input after the other. -/
def belated : Library := twoLines do
  let _ ← Compute.input "y"
  Compute.input "x"

theorem candid_belated : belated.Candid := by
  constructor
  · simp only [Library.LacksAbsent, belated, twoLines, Form.fields, List.forall_mem_cons,
      List.append_nil]
    exact ⟨⟨(Compute.heeds_input.bind fun _ => Compute.heeds_input).lacksAbsent,
      Line.heeds_echo.lacksAbsent, by simp⟩, by simp⟩
  · simp only [Library.FaultsGiven, belated, twoLines, Form.fields, List.forall_mem_cons,
      List.append_nil]
    exact ⟨⟨Compute.faultsGiven_input.bind fun _ => Compute.faultsGiven_input,
      Compute.faultsGiven_input, by simp⟩, by simp⟩

/-- What is entered for a number, with a line that is not accepted and one that is left over. -/
def entries : List String := ["two\n", " 2 \n", "3"]

/-- An input that is given and cannot be read is found invalid behind a question for the other
one. -/
theorem atTerminal_belated : ∃ inputs s fault u segments,
    InputStore.ofText "[a]\nx = bad\n" = .ok inputs ∧
    ((s.solve prompter 40).run ⟨entries.map some, ""⟩).1 =
      .failed (.invalidInput "a.x" "bad" fault) u ∧
    List.Forall₂ (fun e segment => Consumes e.1 e.2 segment)
      (exchanges (diary prompter 40 (.next ⟨s, .round⟩) ⟨entries.map some, ""⟩)) segments ∧
    entries = segments.flatten ++ ["3"] ∧
    (exchangesAt [] s ⟨entries.map some, ""⟩ 40).map (fun e => (e.1.name, e.2)) =
      [("a.y", some "2")] ∧
    ∀ e ∈ exchangesAt [] s ⟨entries.map some, ""⟩ 40, e.1.name ≠ "a.x" := by
  obtain ⟨inputs, s, fault, u, hin, h, hr, hseen, hleft⟩ :=
    exists_of_findsInvalid? belated "[a]\nx = bad\n" "a" ⟨entries.map some, ""⟩ 40 "a.x" "bad"
      [("a.y", some "2")] [some "3"] (by decide +kernel)
  obtain ⟨-, -, hat⟩ := atTerminal_of_chronicle h
  have hsolve := hat ⟨entries.map some, ""⟩ entries 40 rfl
  obtain ⟨segments, rest, hall, hlines, hrest, -⟩ := hsolve.segments
  have hthree : rest = ["3"] :=
    List.map_injective_iff.mpr (Option.some_injective _) (hrest.symm.trans hleft)
  exact ⟨inputs, s, fault, u, segments, hin, hr, hall, hthree ▸ hlines, hseen,
    hsolve.unasked (.inl candid_belated) _ _ _ _ hr⟩

/-- The first line does not read its input until the other one is given, and till then it reports it
missing. -/
def overlooked : Library := twoLines do
  if ← Compute.hasInput "y" then Compute.input "x" else Compute.stop (.missingInput "a.x")

/-- What is given is not replaced by what is answered: an input is asked for although it is given,
and found invalid although it is answered. -/
theorem asked_and_invalid : ∃ inputs s fault u,
    InputStore.ofText "[a]\nx = bad\n" = .ok inputs ∧
    Session (initial overlooked inputs true) [(.addForm "a", .added)] s ∧
    ((s.solve prompter 40).run ⟨[some "1\n", some "2\n"], ""⟩).1 =
      .failed (.invalidInput "a.x" "bad" fault) u ∧
    (exchanges (diary prompter 40 (.next ⟨s, .round⟩) ⟨[some "1\n", some "2\n"], ""⟩)).map
      (fun e => (e.1.name, e.2)) = [("a.x", some "1"), ("a.y", some "2")] := by
  obtain ⟨inputs, s, fault, u, hin, h, hr, hseen, -⟩ :=
    exists_of_findsInvalid? overlooked "[a]\nx = bad\n" "a" ⟨[some "1\n", some "2\n"], ""⟩ 40
      "a.x" "bad" [("a.x", some "1"), ("a.y", some "2")] [] (by decide +kernel)
  exact ⟨inputs, s, fault, u, hin, h.session, hr, hseen⟩

end TaxReturn.Solver
