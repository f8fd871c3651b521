import TaxReturn.Terminal
import TaxReturn.Proofs.Sections
import TaxReturn.Proofs.Solver.Questions

/-! What is entered at a terminal. An answer is one of its lines, without the blanks around it, and
it can be read; a line holds a line feed at its end only, so an answer holds none. -/
namespace TaxReturn

namespace Text

variable {cs : List Char}

/-- What is trimmed loses a line feed at its end. -/
theorem notMem_trimChars (h : '\n' ∉ cs.dropLast) : '\n' ∉ trimChars cs := by
  rcases List.eq_nil_or_concat cs with rfl | ⟨front, c, rfl⟩
  · exact fun hm => absurd (mem_of_mem_trimChars hm) List.not_mem_nil
  · rw [List.concat_eq_append, List.dropLast_concat] at h
    rw [List.concat_eq_append]
    by_cases hc : c = '\n'
    · have hblank : isBlank c = true := by
        rw [hc]
        decide
      rw [trimChars_concat hblank]
      exact fun hm => h (mem_of_mem_trimChars hm)
    · intro hm
      rcases List.mem_append.mp (mem_of_mem_trimChars hm) with hm | hm
      · exact h hm
      · exact hc (List.mem_singleton.mp hm).symm

end Text

namespace Terminal

variable {bytes line piece : List UInt8} {s : String} {q : Question} {shown : String}
  {lines left : List (Option String)} {answer : Option String} {t : Terminal}

/-- Text that is read from bytes is written with them. -/
theorem eq_of_fromUTF8? (h : String.fromUTF8? ⟨bytes.toArray⟩ = some s) :
    bytes = s.toList.flatMap String.utf8EncodeChar := by
  have hs : s.toByteArray = ⟨bytes.toArray⟩ := by
    simp only [String.fromUTF8?] at h
    split at h
    · cases h
      rfl
    · cases h
  rw [← String.ofList_toList (s := s), String.toByteArray_ofList] at hs
  have hdata := congrArg ByteArray.data hs
  rw [List.utf8Encode, List.data_toByteArray] at hdata
  simpa using (congrArg Array.toList hdata).symm

/-- A line feed that something follows is a byte that something follows. -/
theorem mem_dropLast_of_fromUTF8? (h : String.fromUTF8? ⟨bytes.toArray⟩ = some s)
    (hm : '\n' ∈ s.toList.dropLast) : 10 ∈ bytes.dropLast := by
  have hne : s.toList ≠ [] := by
    intro he
    simp [he] at hm
  have hsplit := congrArg (List.flatMap String.utf8EncodeChar) (List.dropLast_append_getLast hne)
  rw [← eq_of_fromUTF8? h, List.flatMap_append, List.flatMap_singleton] at hsplit
  rw [← hsplit, List.dropLast_append_of_ne_nil String.utf8EncodeChar_ne_nil, List.mem_append]
  have hfeed : (10 : UInt8) ∈ String.utf8EncodeChar '\n' := by decide
  exact .inl (List.mem_flatMap.mpr ⟨_, hm, hfeed⟩)

/-- The pieces of bytes are cut behind each line feed. -/
theorem notMem_dropLast_of_mem_splitLines (hl : 10 ∉ line) (h : piece ∈ splitLines line bytes) :
    10 ∉ piece.dropLast := by
  induction bytes generalizing line with
  | nil =>
    rw [splitLines] at h
    split at h
    · cases h
    · rw [List.mem_singleton] at h
      subst h
      exact fun hm => hl (List.mem_reverse.mp (List.dropLast_subset _ hm))
  | cons b rest ih =>
    rw [splitLines] at h
    split at h
    · rcases List.mem_cons.mp h with rfl | h
      · simpa using hl
      · exact ih List.not_mem_nil h
    · rename_i hb
      exact ih (by simp [hl, Ne.symm hb]) h

/-- What can be answered at a terminal holds no line feed. -/
def Unbroken (t : Terminal) : Prop := ∀ line, some line ∈ t.lines → '\n' ∉ (Text.trim line).toList

theorem unbroken_ofBytes (bytes : ByteArray) : (ofBytes bytes).Unbroken := by
  intro line hl
  obtain ⟨piece, hp, hread⟩ := List.mem_map.mp hl
  rw [Text.trim, String.toList_ofList]
  refine Text.notMem_trimChars fun hm => ?_
  exact notMem_dropLast_of_mem_splitLines List.not_mem_nil hp (mem_dropLast_of_fromUTF8? hread hm)

/-- The lines that are left were there before, and an answer is what a line holds. -/
theorem readAnswer_spec (h : readAnswer q lines = (answer, shown, left)) :
    left <:+ lines ∧ ∀ raw, answer = some raw →
      (∃ line, some line ∈ lines ∧ raw = Text.trim line) ∧ ∃ v, q.spec.parse raw = .ok v := by
  induction lines generalizing answer shown left with
  | nil =>
    cases h
    exact ⟨List.suffix_rfl, by simp⟩
  | cons line rest ih =>
    cases line with
    | none =>
      cases h
      exact ⟨List.suffix_cons _ _, by simp⟩
    | some line =>
      simp only [readAnswer, readEntry] at h
      cases hp : q.spec.parse (Text.trim line) with
      | ok v =>
        simp only [hp, Prod.mk.injEq] at h
        obtain ⟨rfl, -, rfl⟩ := h
        refine ⟨List.suffix_cons _ _, ?_⟩
        rintro raw ⟨⟩
        exact ⟨⟨line, List.mem_cons_self, rfl⟩, v, hp⟩
      | error fault =>
        simp only [hp, Prod.mk.injEq] at h
        obtain ⟨rfl, -, rfl⟩ := h
        obtain ⟨hleft, hanswer⟩ := ih rfl
        refine ⟨hleft.trans (List.suffix_cons _ _), fun raw he => ?_⟩
        obtain ⟨⟨line', hm, hraw⟩, hread⟩ := hanswer raw he
        exact ⟨⟨line', List.mem_cons_of_mem _ hm, hraw⟩, hread⟩

/-- Somebody who sits at a terminal. -/
def prompter (question : Question) : StateM Terminal (Option String) := modifyGet (·.ask question)

/-- An answer of a terminal can be read and stands on a line. -/
theorem Unbroken.prompter (h : t.Unbroken) (q : Question) :
    ((prompter q).run t).2.Unbroken ∧ ∀ raw, ((prompter q).run t).1 = some raw →
      OneLine raw ∧ ∃ v, q.spec.parse raw = .ok v := by
  obtain ⟨hleft, hanswer⟩ := readAnswer_spec (rfl : readAnswer q t.lines = (_, _, _))
  refine ⟨fun line hl => h line (hleft.subset hl), fun raw hraw => ?_⟩
  obtain ⟨⟨line, hl, rfl⟩, hread⟩ := hanswer raw hraw
  refine ⟨Sections.oneLine_ofList Text.trimmed_trimChars ?_, hread⟩
  simpa only [Text.trim, String.toList_ofList] using h line hl

end Terminal

namespace Solver

/-- What somebody keeps from one question to the next holds of all that is answered. -/
theorem forall_exchanges {σ : Type} {ask : Question → StateM σ (Option String)} {J : σ → Prop}
    {P : Question × Option String → Prop}
    (hask : ∀ question w, J w → J ((ask question).run w).2 ∧ P (question, ((ask question).run w).1))
    (moves : ℕ) (m : Move) (w : σ) (hw : J w) : ∀ e ∈ exchanges (diary ask moves m w), P e := by
  induction moves generalizing m w with
  | zero => simp [diary, exchanges]
  | succ n ih =>
    cases m with
    | finished s => simp [diary, exchanges]
    | failed e s => simp [diary, exchanges]
    | next run =>
      rw [diary, exchanges_pass]
      exact ih _ _ hw
    | ask question run =>
      obtain ⟨hkept, hanswer⟩ := hask question w hw
      rw [diary, exchanges_put]
      exact List.forall_mem_cons.mpr ⟨hanswer, ih _ _ hkept⟩

end Solver
end TaxReturn
