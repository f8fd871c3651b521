import TaxReturn.Proofs.Terminal

/-! A terminal at which text is entered. Each question is answered with the first line that it
accepts, so that the questions of a solve use up the lines one after another, each a stretch of its
own. -/
namespace TaxReturn

namespace Terminal

variable {bytes acc : List UInt8} {q : Question} {t : Terminal} {before after lines : List String}
  {line text : String}

/-- Text as it is read line by line. A line has its line feed, which the last one may lack. -/
structure LinesOf (text : String) (lines : List String) : Prop where
  joined : String.join lines = text
  nonempty : "" ∉ lines
  unbroken : ∀ line ∈ lines, '\n' ∉ line.toList.dropLast
  ended : ∀ line ∈ lines.dropLast, line.toList.getLast? = some '\n'

/-- Cut text behind each line feed, as bytes are, where the start of a line is read already. -/
def cutLines (line : List Char) : List Char → List (List Char)
  | [] => if line.isEmpty then [] else [line]
  | c :: rest => if c = '\n' then (line ++ [c]) :: cutLines [] rest else cutLines (line ++ [c]) rest

theorem flatten_cutLines (line cs : List Char) : (cutLines line cs).flatten = line ++ cs := by
  induction cs generalizing line with
  | nil => cases line <;> simp [cutLines]
  | cons c cs ih =>
    rw [cutLines]
    split <;> simp [ih]

theorem mem_cutLines {line cs piece : List Char} (hl : '\n' ∉ line) (h : piece ∈ cutLines line cs) :
    piece ≠ [] ∧ '\n' ∉ piece.dropLast := by
  induction cs generalizing line with
  | nil =>
    rw [cutLines] at h
    split at h
    · cases h
    · rename_i hne
      obtain rfl := List.mem_singleton.mp h
      exact ⟨by simpa using hne, fun hm => hl (List.dropLast_subset _ hm)⟩
  | cons c cs ih =>
    rw [cutLines] at h
    split at h
    · rcases List.mem_cons.mp h with rfl | h
      · exact ⟨by simp, by simpa using hl⟩
      · exact ih List.not_mem_nil h
    · rename_i hc
      exact ih (by simp [hl, Ne.symm hc]) h

theorem mem_dropLast_cutLines {line cs piece : List Char}
    (h : piece ∈ (cutLines line cs).dropLast) : piece.getLast? = some '\n' := by
  induction cs generalizing line with
  | nil =>
    rw [cutLines] at h
    split at h <;> simp at h
  | cons c cs ih =>
    rw [cutLines] at h
    split at h
    · rename_i hc
      cases hrest : cutLines [] cs with
      | nil => simp [hrest] at h
      | cons first rest =>
        rw [List.dropLast_cons_of_ne_nil (by simp [hrest])] at h
        rcases List.mem_cons.mp h with rfl | h
        · simp [hc]
        · exact ih h
    · exact ih h

/-- A byte of a character that is no line feed is no line feed either. -/
theorem notMem_utf8EncodeChar {c : Char} (hc : c ≠ '\n') :
    (10 : UInt8) ∉ String.utf8EncodeChar c := by
  have hten : c.val.toNat ≠ 10 := fun h => hc (Char.ext (UInt32.toNat_inj.mp h))
  have hbyte : ∀ v, v < 256 → v ≠ 10 → (10 : UInt8) ≠ UInt8.ofNat v := by
    intro v hv hne h
    have h := congrArg UInt8.toNat h
    rw [UInt8.toNat_ofNat_of_lt' hv] at h
    exact hne h.symm
  unfold String.utf8EncodeChar
  simp only
  generalize c.val.toNat = v at hten
  split
  · simp only [List.mem_singleton]
    exact hbyte _ (by omega) hten
  · split
    · simp only [List.mem_cons, List.not_mem_nil, or_false, not_or]
      exact ⟨hbyte _ (by omega) (by omega), hbyte _ (by omega) (by omega)⟩
    · split
      · simp only [List.mem_cons, List.not_mem_nil, or_false, not_or]
        exact ⟨hbyte _ (by omega) (by omega), hbyte _ (by omega) (by omega),
          hbyte _ (by omega) (by omega)⟩
      · simp only [List.mem_cons, List.not_mem_nil, or_false, not_or]
        exact ⟨hbyte _ (by omega) (by omega), hbyte _ (by omega) (by omega),
          hbyte _ (by omega) (by omega), hbyte _ (by omega) (by omega)⟩

theorem splitLines_append (h : 10 ∉ bytes) (rest : List UInt8) :
    splitLines acc (bytes ++ rest) = splitLines (bytes.reverse ++ acc) rest := by
  induction bytes generalizing acc with
  | nil => rfl
  | cons b bytes ih =>
    obtain ⟨hb, hrest⟩ := not_or.mp (List.mem_cons.not.mp h)
    rw [List.cons_append, splitLines, if_neg (Ne.symm hb), ih hrest, List.reverse_cons,
      List.append_assoc, List.singleton_append]

/-- The bytes of text are cut where the text is. -/
theorem splitLines_encode (line cs : List Char) :
    splitLines (line.flatMap String.utf8EncodeChar).reverse (cs.flatMap String.utf8EncodeChar) =
      (cutLines line cs).map (·.flatMap String.utf8EncodeChar) := by
  induction cs generalizing line with
  | nil =>
    cases line with
    | nil => rfl
    | cons c line => simp [splitLines, cutLines, String.utf8EncodeChar_ne_nil]
  | cons c cs ih =>
    rw [cutLines, List.flatMap_cons]
    by_cases hc : c = '\n'
    · subst hc
      have hfeed : String.utf8EncodeChar '\n' = [10] := by decide
      have hrest := ih []
      rw [List.flatMap_nil, List.reverse_nil] at hrest
      simp only [if_true, List.map_cons, List.flatMap_append, List.flatMap_singleton, hfeed]
      simp [splitLines, hrest]
    · rw [if_neg hc, splitLines_append (notMem_utf8EncodeChar hc), ← ih, List.flatMap_append,
        List.reverse_append, List.flatMap_singleton]

theorem toList_eq_data (bytes : ByteArray) : bytes.toList = bytes.data.toList := by
  have hloop : ∀ i acc, ByteArray.toList.loop bytes i acc =
      acc.reverse ++ bytes.data.toList.drop i := by
    intro i acc
    induction i, acc using ByteArray.toList.loop.induct bytes with
    | case1 i acc hi ih =>
      have hdrop : bytes.data.toList.drop i =
          bytes.get! i :: bytes.data.toList.drop (i + 1) := by
        rw [List.drop_eq_getElem_cons (by simpa using hi)]
        have hi' : i < bytes.data.size := hi
        simp [ByteArray.get!, getElem!_pos bytes.data i hi']
      rw [ByteArray.toList.loop, if_pos hi, ih, hdrop]
      simp
    | case2 i acc hi =>
      rw [ByteArray.toList.loop, if_neg hi,
        List.drop_of_length_le (by simpa using Nat.le_of_not_lt hi), List.append_nil]
  rw [ByteArray.toList, hloop]
  rfl

theorem toList_toUTF8 (text : String) :
    text.toUTF8.toList = text.toList.flatMap String.utf8EncodeChar := by
  have h : text.toUTF8 = text.toList.utf8Encode := by
    rw [← String.toByteArray_ofList, String.ofList_toList]
    rfl
  rw [toList_eq_data, h, List.utf8Encode, List.data_toByteArray]

theorem fromUTF8?_encode (cs : List Char) :
    String.fromUTF8? ⟨(cs.flatMap String.utf8EncodeChar).toArray⟩ = some (String.ofList cs) := by
  have h : (⟨(cs.flatMap String.utf8EncodeChar).toArray⟩ : ByteArray) = cs.utf8Encode :=
    ByteArray.ext List.data_toByteArray.symm
  rw [h, String.fromUTF8?, dif_pos ByteArray.isValidUTF8_utf8Encode]
  rfl

/-- Text that is entered is read line by line. -/
theorem exists_linesOf (text : String) : ∃ lines, LinesOf text lines ∧
    (ofBytes text.toUTF8).lines = lines.map some := by
  obtain ⟨pieces, hp⟩ : ∃ pieces, cutLines [] text.toList = pieces := ⟨_, rfl⟩
  have hflat := flatten_cutLines [] text.toList
  have hmem : ∀ piece ∈ pieces, piece ≠ [] ∧ '\n' ∉ piece.dropLast :=
    fun piece h => mem_cutLines List.not_mem_nil (hp ▸ h)
  have hended : ∀ piece ∈ pieces.dropLast, piece.getLast? = some '\n' :=
    fun piece h => mem_dropLast_cutLines (hp ▸ h)
  refine ⟨pieces.map String.ofList, ⟨?_, ?_, ?_, ?_⟩, ?_⟩
  · apply String.toList_injective
    rw [String.toList_join, List.flatMap_map]
    simpa [hp] using hflat
  · intro h
    obtain ⟨piece, hm, he⟩ := List.mem_map.mp h
    exact (hmem piece hm).1 (by simpa using he)
  · intro line h
    obtain ⟨piece, hm, rfl⟩ := List.mem_map.mp h
    rw [String.toList_ofList]
    exact (hmem piece hm).2
  · intro line h
    rw [← List.map_dropLast] at h
    obtain ⟨piece, hm, rfl⟩ := List.mem_map.mp h
    rw [String.toList_ofList]
    exact hended piece hm
  · have hcut := splitLines_encode [] text.toList
    rw [List.flatMap_nil, List.reverse_nil, hp] at hcut
    simp only [ofBytes, toList_toUTF8, hcut, List.map_map, Function.comp_def, fromUTF8?_encode]

/-- A line is accepted if it can be read without the blanks around it. -/
def accepts (q : Question) (line : String) : Bool := q.spec.accepts (Text.trim line)

theorem readEntry_of_accepts (h : accepts q line = true) :
    readEntry q line = .ok (Text.trim line) := by
  unfold accepts InputSpec.accepts at h
  cases hp : q.spec.parse (Text.trim line) with
  | ok v => simp only [readEntry, hp]
  | error fault => simp [hp, Except.isOk, Except.toBool] at h

theorem exists_readEntry (h : accepts q line = false) :
    ∃ complaint, readEntry q line = .error complaint := by
  unfold accepts InputSpec.accepts at h
  cases hp : q.spec.parse (Text.trim line) with
  | ok v => simp [hp, Except.isOk, Except.toBool] at h
  | error fault =>
    exact ⟨"  " ++ fault.text ++ "\n", by simp only [readEntry, hp]⟩

/-- Lines that are not accepted are passed over. -/
theorem readAnswer_passes {left : List (Option String)}
    (h : ∀ line ∈ before, accepts q line = false) :
    ∃ shown, readAnswer q (before.map some ++ left) =
      ((readAnswer q left).1, shown, (readAnswer q left).2.2) := by
  induction before with
  | nil => exact ⟨_, rfl⟩
  | cons line before ih =>
    obtain ⟨hline, hrest⟩ := List.forall_mem_cons.mp h
    obtain ⟨complaint, hc⟩ := exists_readEntry hline
    obtain ⟨shown, hs⟩ := ih hrest
    refine ⟨invitation q ++ complaint ++ shown, ?_⟩
    simp only [List.map_cons, List.cons_append, readAnswer, hc, hs]

/-- What is answered to a question at a terminal with these lines, and where the reader then
stands. -/
structure FirstAccepted (q : Question) (t : Terminal) (lines : List String) : Prop where
  answered : (∃ e, (t.ask q).1 = some e) ↔ ∃ line ∈ lines, accepts q line = true
  first : ∀ (before : List String) (line : String) (after : List String),
    lines = before ++ line :: after → (∀ l ∈ before, accepts q l = false) →
    accepts q line = true →
    (t.ask q).1 = some (Text.trim line) ∧ (t.ask q).2.lines = after.map some
  refused : (t.ask q).1 = none → (t.ask q).2.lines = []

theorem ask_of_first (ht : t.lines = (before ++ line :: after).map some)
    (hb : ∀ l ∈ before, accepts q l = false) (hl : accepts q line = true) :
    (t.ask q).1 = some (Text.trim line) ∧ (t.ask q).2.lines = after.map some := by
  obtain ⟨shown, hs⟩ := @readAnswer_passes q before (some line :: after.map some) hb
  have hread : readAnswer q (some line :: after.map some) =
      (some (Text.trim line), invitation q, after.map some) := by
    simp only [readAnswer, readEntry_of_accepts hl]
  rw [hread] at hs
  simp only [List.map_append, List.map_cons] at ht
  simp only [ask, ht, hs, and_self]

theorem ask_of_none (ht : t.lines = lines.map some) (hn : ∀ l ∈ lines, accepts q l = false) :
    (t.ask q).1 = none ∧ (t.ask q).2.lines = [] := by
  obtain ⟨shown, hs⟩ := @readAnswer_passes q lines [] hn
  rw [List.append_nil] at hs
  simp only [ask, ht, hs, readAnswer, and_self]

/-- Of some lines there is a first one that is accepted, or none is. -/
theorem first_or_none (q : Question) (lines : List String) :
    (∀ l ∈ lines, accepts q l = false) ∨ ∃ before line after, lines = before ++ line :: after ∧
      (∀ l ∈ before, accepts q l = false) ∧ accepts q line = true := by
  cases h : lines.find? (accepts q) with
  | none => exact .inl (by simpa using List.find?_eq_none.mp h)
  | some line =>
    obtain ⟨hl, before, after, he, hb⟩ := List.find?_eq_some_iff_append.mp h
    exact .inr ⟨before, line, after, he, by simpa using hb, hl⟩

theorem firstAccepted (q : Question) (ht : t.lines = lines.map some) : FirstAccepted q t lines := by
  refine ⟨?_, fun before line after he hb hl => ask_of_first (he ▸ ht) hb hl, fun hn => ?_⟩
  · rcases first_or_none q lines with hn | ⟨before, line, after, rfl, hb, hl⟩
    · rw [(ask_of_none ht hn).1]
      simpa using hn
    · rw [(ask_of_first ht hb hl).1]
      exact iff_of_true ⟨_, rfl⟩ ⟨line, by simp, hl⟩
  · rcases first_or_none q lines with hn | ⟨before, line, after, rfl, hb, hl⟩
    · exact (ask_of_none ht hn).2
    · rw [(ask_of_first ht hb hl).1] at hn
      cases hn

/-- The lines that a question uses up: those up to the first one that is accepted, which is the
answer, or lines none of which is accepted. -/
inductive Consumes (q : Question) : Option String → List String → Prop
  | answered {before : List String} {line : String} (hb : ∀ l ∈ before, accepts q l = false)
      (hl : accepts q line = true) : Consumes q (some (Text.trim line)) (before ++ [line])
  | refused {lines : List String} (hn : ∀ l ∈ lines, accepts q l = false) : Consumes q none lines

theorem exists_segment (q : Question) (ht : t.lines = lines.map some) :
    ∃ segment rest, Consumes q (t.ask q).1 segment ∧ lines = segment ++ rest ∧
      (t.ask q).2.lines = rest.map some ∧ ((t.ask q).1 = none → rest = []) := by
  rcases first_or_none q lines with hn | ⟨before, line, after, rfl, hb, hl⟩
  · obtain ⟨hanswer, hleft⟩ := ask_of_none ht hn
    exact ⟨lines, [], hanswer ▸ .refused hn, by simp, hleft, fun _ => rfl⟩
  · obtain ⟨hanswer, hleft⟩ := ask_of_first ht hb hl
    exact ⟨before ++ [line], after, hanswer ▸ .answered hb hl, by simp, hleft, by simp [hanswer]⟩

end Terminal

namespace Solver

open Terminal

variable {t : Terminal} {lines : List String}

/-- The questions that a run puts at a terminal use up its lines from the first one on, each a
stretch of its own behind that of the question before. -/
theorem exists_segments (moves : ℕ) (m : Move) (ht : t.lines = lines.map some) :
    ∃ segments rest, List.Forall₂ (fun e segment => Consumes e.1 e.2 segment)
        (exchanges (diary prompter moves m t)) segments ∧
      lines = segments.flatten ++ rest ∧
      ((follow prompter moves m).run t).2.lines = rest.map some ∧
      ((∃ e ∈ exchanges (diary prompter moves m t), e.2 = none) → rest = []) := by
  induction moves generalizing m t lines with
  | zero =>
    refine ⟨[], lines, ?_, rfl, ?_, ?_⟩
    · simp [diary, exchanges]
    · cases m <;> exact ht
    · simp [diary, exchanges]
  | succ n ih =>
    cases m with
    | finished s => exact ⟨[], lines, .nil, rfl, ht, by simp [diary, exchanges]⟩
    | failed e s => exact ⟨[], lines, .nil, rfl, ht, by simp [diary, exchanges]⟩
    | next run =>
      rw [diary, exchanges_pass]
      exact ih _ ht
    | ask question run =>
      obtain ⟨segment, rest, hsegment, rfl, hrest, hnone⟩ := exists_segment question ht
      obtain ⟨segments, left, hall, rfl, hleft, hrefused⟩ :=
        ih (run.answer question (t.ask question).1) hrest
      rw [diary, exchanges_put]
      refine ⟨segment :: segments, left, .cons hsegment hall, by simp, hleft, ?_⟩
      rintro ⟨e, he, hn⟩
      rcases List.mem_cons.mp he with rfl | he
      · exact (List.append_eq_nil_iff.mp (hnone hn)).2
      · exact hrefused ⟨e, he, hn⟩

end Solver
end TaxReturn
