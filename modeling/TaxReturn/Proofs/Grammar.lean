import TaxReturn.Proofs.Stores
import TaxReturn.Proofs.Text
import TaxReturn.Sections

/-! What sectioned text may look like, line by line, and that reading it accepts this and nothing
else: it stops at the first line with a defect and tells which one it is, and a text without any
is read as what its lines say. -/
namespace TaxReturn

namespace Text

variable {sep : Char} {cs : List Char} {parts : List String}

theorem piecesOf_of_notMem (h : sep ∉ cs) : piecesOf sep cs = [cs] := by
  induction cs with
  | nil => rfl
  | cons c cs ih =>
    simp only [List.mem_cons, not_or] at h
    simp [piecesOf, Ne.symm h.1, ih h.2]

/-- Lines that are joined come apart into themselves. -/
theorem lines_join (hne : parts ≠ []) (h : ∀ p ∈ parts, '\n' ∉ p.toList) :
    lines (join "\n" parts) = parts := by
  induction parts with
  | nil => exact absurd rfl hne
  | cons p parts ih =>
    have hp := h p List.mem_cons_self
    by_cases hps : parts = []
    · subst hps
      simp [lines, join, piecesOf_of_notMem hp]
    · have ih := ih hps fun q hq => h q (List.mem_cons_of_mem _ hq)
      have hjoin : (join "\n" (p :: parts)).toList = p.toList ++ '\n' :: (join "\n" parts).toList := by
        rw [join, String.intercalate_cons_of_ne_nil hps]
        simp [join]
      rw [lines, hjoin, piecesOf_append hp, List.map_cons, String.ofList_toList]
      exact congrArg _ ih

theorem map_toList_lines (s : String) : (lines s).map String.toList = piecesOf '\n' s.toList := by
  simp [lines, Function.comp_def]

theorem notMem_of_mem_lines {s line : String} (h : line ∈ lines s) : '\n' ∉ line.toList := by
  obtain ⟨piece, hp, rfl⟩ := List.mem_map.mp h
  rw [String.toList_ofList]
  exact notMem_of_mem_piecesOf hp

end Text

namespace Sections

variable {line name key value : String} {before : List String} {fault : LineFault}

/-- A line that says nothing: blanks alone, or a comment. -/
def Silent (line : String) : Prop :=
  ∀ c ∈ (Text.trim line).toList.head?, c = '#' ∨ c = ';'

/-- A line that begins as a header does. -/
def Opens (line : String) : Prop := (Text.trim line).toList.head? = some '['

/-- The header of a section, with the name in brackets. -/
def Heads (line name : String) : Prop :=
  ∃ inner, Text.trim line = "[" ++ inner ++ "]" ∧ name = Text.trim inner

/-- A key and its value, on the two sides of the first `=`. -/
def Assigns (line key value : String) : Prop :=
  ¬Silent line ∧ ¬Opens line ∧ ∃ left right, Text.trim line = left ++ "=" ++ right ∧
    '=' ∉ left.toList ∧ key = Text.trim left ∧ value = Text.trim right

/-- After these lines a section is open: the last header names it. -/
def Opened (before : List String) (name : String) : Prop :=
  ∃ earlier header since, before = earlier ++ header :: since ∧ Heads header name ∧
    ∀ line ∈ since, ∀ other, ¬Heads line other

/-- The line with so many lines before it gives a key of a section its value. -/
def Gives (lines : List String) (n : Nat) (name key value : String) : Prop :=
  ∃ before line after, lines = before ++ line :: after ∧ before.length = n ∧
    Opened before name ∧ Assigns line key value

/-- What is wrong with a line that stands behind others. -/
inductive Defect (before : List String) (line : String) : LineFault → Prop
  | unterminated (ho : Opens line) (hend : (Text.trim line).toList.getLast? ≠ some ']') :
      Defect before line .unterminatedHeader
  | unnamed (h : Heads line "") : Defect before line .emptySection
  | undivided (hs : ¬Silent line) (ho : ¬Opens line) (hd : '=' ∉ (Text.trim line).toList) :
      Defect before line .noAssignment
  | unkeyed {value : String} (h : Assigns line "" value) : Defect before line .emptyKey
  | outside {key value : String} (h : Assigns line key value) (hk : key ≠ "")
      (ho : ∀ name, ¬Opened before name) : Defect before line .outsideSection
  | duplicate {name key value given : String} {n : Nat} (h : Assigns line key value)
      (hk : key ≠ "") (ho : Opened before name) (hg : Gives before n name key given) :
      Defect before line (.duplicateKey key name)

/-! ### Single lines -/

theorem toList_trim (line : String) : (Text.trim line).toList = Text.trimChars line.toList :=
  String.toList_ofList

theorem Opens.not_silent (h : Opens line) : ¬Silent line := fun hs =>
  absurd (hs '[' h) (by decide)

theorem Heads.opens (h : Heads line name) : Opens line := by
  obtain ⟨inner, ht, -⟩ := h
  simp [Opens, ht]

theorem Heads.unique {other : String} (h : Heads line name) (h' : Heads line other) :
    name = other := by
  obtain ⟨inner, ht, rfl⟩ := h
  obtain ⟨inner', ht', rfl⟩ := h'
  have he := congrArg String.toList (ht.symm.trans ht')
  simp only [String.toList_append, List.append_cancel_right_eq, List.append_cancel_left_eq,
    String.toList_inj] at he
  rw [he]

theorem Silent.read (h : Silent line) : Line.read line.toList = .skipped := by
  rw [Silent, toList_trim] at h
  unfold Line.read
  generalize Text.trimChars line.toList = cs at h
  cases cs with
  | nil => rfl
  | cons c cs => rcases h c rfl with rfl | rfl <;> rfl

theorem read_of_opens {cs : List Char} (h : (Text.trim line).toList = '[' :: cs) :
    Line.read line.toList = Line.ofHeader cs := by
  rw [toList_trim] at h
  simp [Line.read, h]

theorem read_key (hs : ¬Silent line) (ho : ¬Opens line) :
    Line.read line.toList = Line.ofEntry (Text.trim line).toList := by
  rw [Silent, toList_trim] at hs
  rw [Opens, toList_trim] at ho
  rw [toList_trim, Line.read]
  generalize Text.trimChars line.toList = cs at hs ho
  split <;> simp_all

theorem Heads.read (h : Heads line name) : Line.read line.toList =
    if name = "" then .bad .emptySection else .header name.toList := by
  obtain ⟨inner, ht, rfl⟩ := h
  have hopen : (Text.trim line).toList = '[' :: (inner.toList ++ [']']) := by simp [ht]
  rw [read_of_opens hopen, Line.ofHeader, List.reverse_append]
  simp only [List.reverse_singleton, List.singleton_append, List.reverse_reverse,
    ← toList_trim, List.isEmpty_iff, String.toList_eq_nil_iff]

theorem read_unterminated (ho : Opens line) (hend : (Text.trim line).toList.getLast? ≠ some ']') :
    Line.read line.toList = .bad .unterminatedHeader := by
  obtain ⟨cs, hcs⟩ := List.head?_eq_some_iff.mp ho
  rw [read_of_opens hcs, Line.ofHeader]
  split
  · rename_i name hr
    refine absurd ?_ hend
    rw [hcs, ← List.reverse_reverse cs, hr, List.reverse_cons, ← List.cons_append,
      List.getLast?_concat]
  · rfl

theorem read_undivided (hs : ¬Silent line) (ho : ¬Opens line)
    (hd : '=' ∉ (Text.trim line).toList) : Line.read line.toList = .bad .noAssignment := by
  rw [read_key hs ho, Line.ofEntry]
  cases hc : Text.cutChars '=' (Text.trim line).toList with
  | none => rfl
  | some p => exact absurd (by simp [(Text.cutChars_eq_some hc).1]) hd

theorem Assigns.cut (h : Assigns line key value) : ∃ left right : String,
    Text.cutChars '=' (Text.trim line).toList = some (left.toList, right.toList) ∧
      key = Text.trim left ∧ value = Text.trim right := by
  obtain ⟨-, -, left, right, ht, hno, hk, hv⟩ := h
  refine ⟨left, right, ?_, hk, hv⟩
  rw [ht]
  simpa using Text.cutChars_append (b := right.toList) hno

theorem Assigns.unique {key' value' : String} (h : Assigns line key value)
    (h' : Assigns line key' value') : key' = key ∧ value' = value := by
  obtain ⟨left, right, hcut, rfl, rfl⟩ := h.cut
  obtain ⟨left', right', hcut', rfl, rfl⟩ := h'.cut
  simp only [hcut, Option.some.injEq, Prod.mk.injEq, String.toList_inj] at hcut'
  rw [hcut'.1, hcut'.2]
  exact ⟨rfl, rfl⟩

theorem Assigns.read (h : Assigns line key value) : Line.read line.toList =
    if key = "" then .bad .emptyKey else .entry key.toList value.toList := by
  obtain ⟨left, right, hcut, rfl, rfl⟩ := h.cut
  rw [read_key h.1 h.2.1, Line.ofEntry, hcut]
  simp only [← toList_trim, List.isEmpty_iff, String.toList_eq_nil_iff]

/-- There are five sorts of lines. -/
theorem line_cases (line : String) : Silent line ∨
    Opens line ∧ (Text.trim line).toList.getLast? ≠ some ']' ∨ (∃ name, Heads line name) ∨
    (¬Silent line ∧ ¬Opens line ∧ '=' ∉ (Text.trim line).toList) ∨
    ∃ key value, Assigns line key value := by
  by_cases hs : Silent line
  · exact .inl hs
  by_cases ho : Opens line
  · by_cases hend : (Text.trim line).toList.getLast? = some ']'
    · obtain ⟨front, hfront⟩ := List.getLast?_eq_some_iff.mp hend
      obtain ⟨cs, hcs⟩ := List.head?_eq_some_iff.mp ho
      -- the two brackets are different ones
      obtain ⟨inner, rfl⟩ : ∃ inner, front = '[' :: inner := by
        rw [hcs] at hfront
        cases front with
        | nil => simp at hfront
        | cons c inner =>
          rw [List.cons_append, List.cons.injEq] at hfront
          exact ⟨inner, by rw [hfront.1]⟩
      refine .inr (.inr (.inl ⟨_, String.ofList inner, ?_, rfl⟩))
      rw [← String.toList_inj, hfront]
      simp
    · exact .inr (.inl ⟨ho, hend⟩)
  by_cases hd : '=' ∈ (Text.trim line).toList
  · obtain ⟨left, right, ht, hno⟩ := List.eq_append_cons_of_mem hd
    refine .inr (.inr (.inr (.inr ⟨_, _, hs, ho, String.ofList left, String.ofList right,
      ?_, ?_, rfl, rfl⟩)))
    · rw [← String.toList_inj, ht]
      simp
    · rwa [String.toList_ofList]
  · exact .inr (.inr (.inr (.inl ⟨hs, ho, hd⟩)))

/-! ### Lines behind others -/

theorem concat_eq_append_cons {earlier since : List String} {other : String} :
    before ++ [line] = earlier ++ other :: since ↔
      (since = [] ∧ before = earlier ∧ line = other) ∨
        ∃ rest, since = rest ++ [line] ∧ before = earlier ++ other :: rest := by
  constructor
  · intro h
    obtain rfl | ⟨rest, last, rfl⟩ := List.eq_nil_or_concat since
    · obtain ⟨rfl, hline⟩ := List.append_inj' h rfl
      exact .inl ⟨rfl, rfl, List.singleton_inj.mp hline⟩
    · rw [List.concat_eq_append, ← List.cons_append, ← List.append_assoc] at h
      obtain ⟨rfl, hline⟩ := List.append_inj' h rfl
      cases hline
      exact .inr ⟨rest, List.concat_eq_append, rfl⟩
  · rintro (⟨rfl, rfl, rfl⟩ | ⟨rest, rfl, rfl⟩) <;> simp

theorem opened_concat : Opened (before ++ [line]) name ↔
    Heads line name ∨ (∀ other, ¬Heads line other) ∧ Opened before name := by
  constructor
  · rintro ⟨earlier, header, since, he, hh, hno⟩
    obtain ⟨rfl, rfl, rfl⟩ | ⟨rest, rfl, rfl⟩ := concat_eq_append_cons.mp he
    · exact .inl hh
    · exact .inr ⟨hno line (by simp), earlier, header, rest, rfl, hh,
        fun l hl => hno l (List.mem_append_left _ hl)⟩
  · rintro (h | ⟨hline, earlier, header, since, rfl, hh, hno⟩)
    · exact ⟨before, line, [], rfl, h, by simp⟩
    · refine ⟨earlier, header, since ++ [line], by simp, hh, fun l hl => ?_⟩
      rcases List.mem_append.mp hl with hl | hl
      · exact hno l hl
      · rwa [List.mem_singleton.mp hl]

theorem gives_concat {n : ℕ} : Gives (before ++ [line]) n name key value ↔
    Gives before n name key value ∨
      n = before.length ∧ Opened before name ∧ Assigns line key value := by
  constructor
  · rintro ⟨earlier, giving, after, he, rfl, ho, ha⟩
    obtain ⟨rfl, rfl, rfl⟩ | ⟨rest, rfl, rfl⟩ := concat_eq_append_cons.mp he
    · exact .inr ⟨rfl, ho, ha⟩
    · exact .inl ⟨earlier, giving, rest, rfl, rfl, ho, ha⟩
  · rintro (⟨earlier, giving, after, rfl, rfl, ho, ha⟩ | ⟨rfl, ho, ha⟩)
    · exact ⟨earlier, giving, after ++ [line], by simp, rfl, ho, ha⟩
    · exact ⟨before, line, [], rfl, rfl, ho, ha⟩

/-- What is read is what the lines say, and no key of a section stands in two of them. -/
structure Reading.Follows (r : Reading) (before : List String) : Prop where
  current : ∀ name, r.current = some name ↔ Opened before name
  names : ∀ name, name ∈ r.sections.names ↔ ∃ line ∈ before, Heads line name
  get? : ∀ name key value,
    r.sections.get? name key = some value ↔ ∃ n, Gives before n name key value
  once : ∀ name key value value' n n',
    Gives before n name key value → Gives before n' name key value' → n = n'

theorem Reading.follows_nil : Reading.Follows ⟨empty, none⟩ [] where
  current name := by simp [Opened]
  names name := by simp [Sections.names, empty]
  get? name key value := by simp [Sections.get?, empty, Gives]
  once := by
    rintro _ _ _ _ _ _ ⟨before, line, after, he, -⟩
    simp at he

theorem Defect.step {r : Reading} (hr : r.Follows before) (h : Defect before line fault) :
    r.step line.toList = .error fault := by
  unfold Reading.step
  cases h with
  | unterminated ho hend => rw [read_unterminated ho hend]
  | unnamed h => rw [h.read, if_pos rfl]
  | undivided hs ho hd => rw [read_undivided hs ho hd]
  | unkeyed h => rw [h.read, if_pos rfl]
  | outside h hk ho =>
    have hcur : r.current = none :=
      Option.eq_none_iff_forall_ne_some.mpr fun name hn => ho name ((hr.current name).mp hn)
    rw [h.read, if_neg hk]
    simp [hcur]
  | @duplicate name key value given n h hk ho hg =>
    have hgiven := (hr.get? name key given).mpr ⟨n, hg⟩
    rw [h.read, if_neg hk]
    simp [(hr.current name).mpr ho, hgiven]

namespace Reading.Follows

variable {r : Reading}

/-- A line that is neither a header nor gives a value changes nothing. -/
theorem concat (hr : r.Follows before) (hh : ∀ other, ¬Heads line other)
    (ha : ∀ key value, ¬Assigns line key value) : r.Follows (before ++ [line]) where
  current name := by simp [opened_concat, hh, hr.current]
  names name := by simp [hr.names, hh]
  get? name key value := by simp [gives_concat, ha, hr.get?]
  once name key value value' n n' := by
    simpa only [gives_concat, ha, and_false, or_false] using hr.once name key value value' n n'

theorem touch (hr : r.Follows before) (h : Heads line name) :
    Follows ⟨r.sections.touch name, some name⟩ (before ++ [line]) := by
  have ha : ∀ key value, ¬Assigns line key value := fun _ _ ha => ha.2.1 h.opens
  refine ⟨fun other => ?_, fun other => ?_, fun other key value => ?_, ?_⟩
  · rw [opened_concat, Option.some_inj]
    constructor
    · rintro rfl
      exact .inl h
    · rintro (h' | ⟨hno, -⟩)
      · exact h.unique h'
      · exact absurd h (hno name)
  · rw [mem_names_touch, hr.names]
    constructor
    · rintro (rfl | ⟨l, hl, hh⟩)
      · exact ⟨line, by simp, h⟩
      · exact ⟨l, by simp [hl], hh⟩
    · rintro ⟨l, hl, hh⟩
      rcases List.mem_append.mp hl with hl | hl
      · exact .inr ⟨l, hl, hh⟩
      · rw [List.mem_singleton.mp hl] at hh
        exact .inl (hh.unique h)
  · simp [get?_touch, gives_concat, ha, hr.get?]
  · simpa only [gives_concat, ha, and_false, or_false] using hr.once

theorem set (hr : r.Follows before) (h : Assigns line key value) (ho : Opened before name)
    (hnew : ∀ n given, ¬Gives before n name key given) :
    Follows { r with sections := r.sections.set name key value } (before ++ [line]) := by
  have hh : ∀ other, ¬Heads line other := fun _ hh => h.2.1 hh.opens
  have hopen : ∀ {other}, Opened before other ↔ other = name := by
    intro other
    rw [← hr.current, (hr.current name).mpr ho, Option.some_inj, eq_comm]
  have hline : ∀ {key' value'}, Assigns line key' value' ↔ key' = key ∧ value' = value :=
    ⟨h.unique, fun he => he.1 ▸ he.2 ▸ h⟩
  have hname : name ∈ r.sections.names := by
    obtain ⟨earlier, header, since, rfl, hheader, -⟩ := ho
    exact (hr.names name).mpr ⟨header, by simp, hheader⟩
  refine ⟨fun other => ?_, fun other => ?_, fun other key' value' => ?_, ?_⟩
  · simp [opened_concat, hh, hr.current]
  · rw [mem_names_set, or_iff_right_of_imp fun he : other = name => he ▸ hname, hr.names]
    simp [hh]
  · simp only [get?_set, gives_concat, hopen, hline]
    by_cases hp : other = name ∧ key' = key
    · obtain ⟨rfl, rfl⟩ := hp
      simp [hnew, eq_comm]
    · have hother : ∀ n, ¬(n = before.length ∧ other = name ∧ key' = key ∧ value' = value) :=
        fun n he => hp ⟨he.2.1, he.2.2.1⟩
      simp only [hp, hother, if_false, or_false, hr.get?]
  · intro other key' given given' n n' h₁ h₂
    rw [gives_concat, hopen, hline] at h₁ h₂
    rcases h₁ with h₁ | ⟨rfl, rfl, rfl, -⟩ <;> rcases h₂ with h₂ | ⟨rfl, h₂, h₃, -⟩
    · exact hr.once _ _ _ _ _ _ h₁ h₂
    · exact absurd (h₂ ▸ h₃ ▸ h₁) (hnew _ _)
    · exact absurd h₂ (hnew _ _)
    · rfl

/-- After lines that can be read, a line either has a defect or is taken in. -/
theorem next (hr : r.Follows before) (line : String) : (∃ fault, Defect before line fault) ∨
    ∃ r', r.step line.toList = .ok r' ∧ r'.Follows (before ++ [line]) := by
  obtain hs | ⟨ho, hend⟩ | ⟨name, hh⟩ | ⟨hs, ho, hd⟩ | ⟨key, value, ha⟩ := line_cases line
  · refine .inr ⟨r, ?_, hr.concat (fun _ hh => hh.opens.not_silent hs) fun _ _ ha => ha.1 hs⟩
    rw [Reading.step, hs.read]
  · exact .inl ⟨_, .unterminated ho hend⟩
  · by_cases hne : name = ""
    · subst hne
      exact .inl ⟨_, .unnamed hh⟩
    · refine .inr ⟨_, ?_, hr.touch hh⟩
      rw [Reading.step, hh.read, if_neg hne]
      simp
  · exact .inl ⟨_, .undivided hs ho hd⟩
  · by_cases hk : key = ""
    · subst hk
      exact .inl ⟨_, .unkeyed ha⟩
    cases hcur : r.current with
    | none =>
      refine .inl ⟨_, .outside ha hk fun name ho => ?_⟩
      rw [(hr.current name).mpr ho] at hcur
      cases hcur
    | some name =>
      have ho := (hr.current name).mp hcur
      by_cases hg : ∃ n given, Gives before n name key given
      · obtain ⟨n, given, hg⟩ := hg
        exact .inl ⟨_, .duplicate ha hk ho hg⟩
      · push Not at hg
        have hnone : r.sections.get? name key = none :=
          Option.eq_none_iff_forall_ne_some.mpr fun given hs => by
            obtain ⟨n, hn⟩ := (hr.get? name key given).mp hs
            exact hg n given hn
        refine .inr ⟨_, ?_, hr.set ha ho hg⟩
        rw [Reading.step, ha.read, if_neg hk]
        simp [hcur, hnone]

end Reading.Follows

theorem Reading.Follows.defect_iff {r : Reading} (hr : r.Follows before) :
    r.step line.toList = .error fault ↔ Defect before line fault := by
  refine ⟨fun h => ?_, fun h => h.step hr⟩
  obtain ⟨fault', h'⟩ | ⟨r', h', -⟩ := hr.next line
  · rw [h'.step hr] at h
    cases h
    exact h'
  · rw [h'] at h
    cases h

/-! ### Whole texts -/

variable {r r' : Reading} {lines : List String} {n : ℕ} {e : TaxError}

theorem readLines_follows (hr : r.Follows before)
    (h : readLines r n (lines.map String.toList) = .ok r') : r'.Follows (before ++ lines) := by
  induction lines generalizing r n before with
  | nil =>
    cases h
    simpa using hr
  | cons line lines ih =>
    rw [List.map_cons, readLines] at h
    obtain ⟨fault, hd⟩ | ⟨r₁, hstep, hr₁⟩ := hr.next line
    · simp [hd.step hr] at h
    · rw [hstep] at h
      simpa using ih hr₁ h

/-- Reading fails at a line with a defect that stands behind lines that can be read. -/
theorem readLines_eq_error (hr : r.Follows before) :
    readLines r n (lines.map String.toList) = .error e ↔
      ∃ front line back fault, lines = front ++ line :: back ∧
        e = .badLine (n + front.length) fault ∧
        (∃ r', readLines r n (front.map String.toList) = .ok r') ∧
        Defect (before ++ front) line fault := by
  induction lines generalizing r n before with
  | nil => simp [readLines]
  | cons first lines ih =>
    rw [List.map_cons, readLines]
    obtain ⟨fault, hd⟩ | ⟨r₁, hstep, hr₁⟩ := hr.next first
    · have hstep := hd.step hr
      simp only [hstep, Except.error.injEq]
      constructor
      · rintro rfl
        exact ⟨[], first, lines, fault, rfl, rfl, ⟨r, rfl⟩, by simpa using hd⟩
      · rintro ⟨front, line, back, fault', hl, rfl, ⟨r', hread⟩, hd'⟩
        cases front with
        | nil =>
          cases hl
          rw [List.append_nil, ← hr.defect_iff, hstep] at hd'
          cases hd'
          rfl
        | cons l front =>
          cases hl
          simp [readLines, hstep] at hread
    · simp only [hstep, ih hr₁]
      constructor
      · rintro ⟨front, line, back, fault, rfl, rfl, ⟨r', hread⟩, hd⟩
        refine ⟨first :: front, line, back, fault, rfl, ?_, ⟨r', ?_⟩, by simpa using hd⟩
        · rw [List.length_cons, Nat.add_assoc, Nat.add_comm 1]
        · simpa [readLines, hstep] using hread
      · rintro ⟨front, line, back, fault, hl, rfl, ⟨r', hread⟩, hd⟩
        cases front with
        | nil =>
          cases hl
          rw [List.append_nil, ← hr.defect_iff, hstep] at hd
          cases hd
        | cons l front =>
          cases hl
          refine ⟨front, line, back, fault, rfl, ?_, ⟨r', ?_⟩, by simpa using hd⟩
          · rw [List.length_cons, Nat.add_assoc, Nat.add_comm 1]
          · simpa [readLines, hstep] using hread

theorem parse_eq (text : String) : parse text =
    (readLines ⟨empty, none⟩ 1 ((Text.lines text).map String.toList)).map (·.sections) := by
  rw [parse, Text.map_toList_lines]

/-- Lines alone are read from a text that consists of them. -/
theorem parse_join (h : ∀ line ∈ lines, '\n' ∉ line.toList) :
    (∃ s, parse (Text.join "\n" lines) = .ok s) ↔
      ∃ r, readLines ⟨empty, none⟩ 1 (lines.map String.toList) = .ok r := by
  by_cases hne : lines = []
  · subst hne
    exact iff_of_true ⟨_, rfl⟩ ⟨_, rfl⟩
  · rw [parse_eq, Text.lines_join hne h]
    cases readLines ⟨empty, none⟩ 1 (lines.map String.toList) <;> simp [Except.map]

theorem parse_eq_error {text : String} : parse text = .error e ↔
    ∃ before line after fault, Text.lines text = before ++ line :: after ∧
      e = .badLine (before.length + 1) fault ∧
      (∃ s, parse (Text.join "\n" before) = .ok s) ∧ Defect before line fault := by
  have hmap : parse text = .error e ↔
      readLines ⟨empty, none⟩ 1 ((Text.lines text).map String.toList) = .error e := by
    rw [parse_eq]
    cases readLines ⟨empty, none⟩ 1 ((Text.lines text).map String.toList) <;> simp [Except.map]
  rw [hmap, readLines_eq_error Reading.follows_nil]
  refine exists_congr fun before => exists_congr fun line => exists_congr fun after =>
    exists_congr fun fault => and_congr_right fun hl => ?_
  have hbefore : ∀ l ∈ before, '\n' ∉ l.toList := fun l hm =>
    Text.notMem_of_mem_lines (hl ▸ List.mem_append_left _ hm)
  rw [parse_join hbefore, List.nil_append, Nat.add_comm 1]

theorem exists_follows_of_parse {text : String} {s : Sections} (h : parse text = .ok s) :
    ∃ r : Reading, r.sections = s ∧ r.Follows (Text.lines text) := by
  rw [parse_eq] at h
  cases hr : readLines ⟨empty, none⟩ 1 ((Text.lines text).map String.toList) with
  | error e => simp [hr, Except.map] at h
  | ok r =>
    simp only [hr, Except.map, Except.ok.injEq] at h
    exact ⟨r, h, readLines_follows Reading.follows_nil hr⟩

/-- A text is read if and only if no line has a defect behind the lines before it; the first line
that has one is reported, by its number, for what is wrong with it. What is read are the sections
that have headers, and under each key of a section the value from the one line that gives it. -/
theorem parse_accepts_grammar (text : String) :
    (∀ n fault, parse text = .error (.badLine n fault) ↔
      ∃ before line after, Text.lines text = before ++ line :: after ∧ n = before.length + 1 ∧
        (∃ s, parse (Text.join "\n" before) = .ok s) ∧ Defect before line fault) ∧
    ((∃ n fault, parse text = .error (.badLine n fault)) ∨
      ∃ s, parse text = .ok s ∧
        (∀ name, name ∈ s.names ↔ ∃ line ∈ Text.lines text, Heads line name) ∧
        ∀ name key value, (s.get? name key = some value ↔
          ∃ n, Gives (Text.lines text) n name key value) ∧
          ∀ value' n n', Gives (Text.lines text) n name key value →
            Gives (Text.lines text) n' name key value' → n = n') := by
  constructor
  · intro n fault
    rw [parse_eq_error]
    constructor
    · rintro ⟨before, line, after, fault', hl, he, hb, hd⟩
      cases he
      exact ⟨before, line, after, hl, rfl, hb, hd⟩
    · rintro ⟨before, line, after, hl, rfl, hb, hd⟩
      exact ⟨before, line, after, fault, hl, rfl, hb, hd⟩
  · cases hp : parse text with
    | error e =>
      obtain ⟨before, line, after, fault, -, rfl, -, -⟩ := parse_eq_error.mp hp
      exact .inl ⟨_, fault, rfl⟩
    | ok s =>
      obtain ⟨r, rfl, hr⟩ := exists_follows_of_parse hp
      exact .inr ⟨_, rfl, hr.names, fun name key value =>
        ⟨hr.get? name key value, hr.once name key value⟩⟩

/-- A section that is opened again, and in it a key that was given when it was first open. -/
def reopened : String := "[x]\na = 1\n[y]\n[ x ]\n; again\na = 2"

theorem parse_rejects_reopened : parse reopened = .error (.badLine 6 (.duplicateKey "a" "x")) ∧
    ∃ before line after, Text.lines reopened = before ++ line :: after ∧
      6 = before.length + 1 ∧ (∃ s, parse (Text.join "\n" before) = .ok s) ∧
      Defect before line (.duplicateKey "a" "x") := by
  have hsize : (parse reopened).map size = .error (.badLine 6 (.duplicateKey "a" "x")) := by
    decide +kernel
  have h : parse reopened = .error (.badLine 6 (.duplicateKey "a" "x")) := by
    cases hp : parse reopened with
    | error e => simpa [hp, Except.map] using hsize
    | ok s => simp [hp, Except.map] at hsize
  exact ⟨h, ((parse_accepts_grammar reopened).1 _ _).mp h⟩

end Sections
end TaxReturn
