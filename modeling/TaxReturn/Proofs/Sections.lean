import TaxReturn.Proofs.Stores
import TaxReturn.Proofs.Text
import TaxReturn.Sections

/-! Sectioned text comes back from being written exactly when its names, keys and values stand on a
line as they are; what was read from a text does. -/
namespace TaxReturn

/-- Text that a line gives back as it is: no blanks around it, and no line break in it. -/
structure OneLine (s : String) : Prop where
  trimmed : Text.trim s = s
  unbroken : '\n' ∉ s.toList

instance {text : String} : Decidable (OneLine text) :=
  decidable_of_iff (Text.trim text = text ∧ '\n' ∉ text.toList)
    ⟨fun h => ⟨h.1, h.2⟩, fun h => ⟨h.1, h.2⟩⟩

namespace Sections

variable {s s' : Sections} {q key value : String} {r r' : Reading} {line : List Char}

/-- A key that is not taken for a comment or a header and ends before the first `=`. -/
structure PlainKey (key : String) : Prop extends OneLine key where
  nonempty : key ≠ ""
  undivided : '=' ∉ key.toList
  first : ∀ c ∈ key.toList.head?, c ≠ '#' ∧ c ≠ ';' ∧ c ≠ '['

instance {key : String} : Decidable (PlainKey key) :=
  -- The first character is looked at alone: all characters are too many to go through.
  decidable_of_iff (OneLine key ∧ key ≠ "" ∧ '=' ∉ key.toList ∧
      key.toList.head?.all (fun c => c ≠ '#' ∧ c ≠ ';' ∧ c ≠ '[') = true)
    ⟨fun h => ⟨h.1, h.2.1, h.2.2.1, by simpa [Option.all_eq_true] using h.2.2.2⟩,
      fun h => ⟨h.toOneLine, h.nonempty, h.undivided, by simpa [Option.all_eq_true] using h.first⟩⟩

/-- Names, keys and values that text can hold. -/
structure Plain (s : Sections) : Prop where
  name : ∀ q ∈ s.names, q ≠ "" ∧ OneLine q
  key : ∀ {q key value}, s.get? q key = some value → PlainKey key
  value : ∀ {q key value}, s.get? q key = some value → OneLine value

theorem plain_empty : Plain empty :=
  ⟨fun _ hq => absurd hq (by simp [names, empty]),
    fun h => absurd h (by simp [get?, empty]), fun h => absurd h (by simp [get?, empty])⟩

theorem Plain.touch (hs : s.Plain) (hne : q ≠ "") (hq : OneLine q) : (s.touch q).Plain := by
  refine ⟨fun p hp => ?_, fun h => hs.key (get?_touch.symm.trans h),
    fun h => hs.value (get?_touch.symm.trans h)⟩
  rcases mem_names_touch.mp hp with rfl | hp
  · exact ⟨hne, hq⟩
  · exact hs.name p hp

theorem Plain.set (hs : s.Plain) (hq : q ≠ "" ∧ OneLine q) (hk : PlainKey key)
    (hv : OneLine value) : (s.set q key value).Plain := by
  refine ⟨fun p hp => ?_, fun {p k v} h => ?_, fun {p k v} h => ?_⟩
  · rcases mem_names_set.mp hp with rfl | hp
    · exact hq
    · exact hs.name p hp
  all_goals
    rw [get?_set] at h
    split at h
  · rename_i he
    exact he.2 ▸ hk
  · exact hs.key h
  · cases h
    exact hv
  · exact hs.value h

namespace Line

variable {name k v : List Char}

theorem read_header (hne : name ≠ []) (ht : Text.Trimmed name) :
    read ('[' :: name ++ [']']) = .header name := by
  have htrim : Text.trimChars ('[' :: name ++ [']']) = '[' :: name ++ [']'] :=
    (Text.trimmed_of_ends (by decide) (by decide)).trimChars
  rw [read, htrim]
  simp [ofHeader, ht.trimChars, hne]

/-- A line without blanks around it that opens neither a header nor a comment is an entry. -/
theorem read_of_first (hne : k ≠ []) (hf : ∀ c ∈ k.head?, c ≠ '#' ∧ c ≠ ';' ∧ c ≠ '[')
    (hl : Text.trimChars line = k ++ v) : read line = ofEntry (k ++ v) := by
  cases k with
  | nil => exact absurd rfl hne
  | cons c k =>
    have hc := hf c rfl
    rw [read, hl]
    simp only [List.cons_append]
    split <;> simp_all

theorem read_entry (hk : Text.Trimmed k) (hne : k ≠ []) (hd : '=' ∉ k)
    (hf : ∀ c ∈ k.head?, c ≠ '#' ∧ c ≠ ';' ∧ c ≠ '[') (hv : Text.Trimmed v) :
    read (k ++ [' ', '=', ' '] ++ v) = .entry k v := by
  have hblank : Text.isBlank ' ' = true := by decide
  have hcut : ∀ tail, Text.trimChars tail = v →
      ofEntry (k ++ ' ' :: '=' :: tail) = .entry k v := by
    intro tail htail
    have hc : Text.cutChars '=' (k ++ ' ' :: '=' :: tail) = some (k ++ [' '], tail) := by
      have hd' : '=' ∉ k ++ [' '] := by simp [hd]
      simpa using Text.cutChars_append (b := tail) hd'
    simp [ofEntry, hc, Text.trimChars_concat hblank, hk.trimChars, hne, htail]
  by_cases hvne : v = []
  · -- the blank that stands behind the `=` goes with the end of the line
    subst hvne
    have htrim : Text.trimChars (k ++ [' ', '=', ' '] ++ []) = k ++ [' ', '='] := by
      have ht : Text.Trimmed (k ++ [' '] ++ ['=']) :=
        Text.trimmed_append hk (Text.trimmed_singleton (by decide)) hne (by simp) _
      have hdrop := (Text.trimChars_concat hblank).trans ht.trimChars
      simpa using hdrop
    rw [read_of_first hne hf htrim]
    exact hcut [] rfl
  · have htrim := (Text.trimmed_append hk hv hne hvne [' ', '=', ' ']).trimChars
    rw [List.append_assoc] at htrim
    rw [List.append_assoc, read_of_first hne hf htrim]
    exact hcut (' ' :: v) ((Text.trimChars_cons hblank).trans hv.trimChars)

theorem of_read_header (h : read line = .header name) :
    name ≠ [] ∧ Text.Trimmed name ∧ name ⊆ line := by
  unfold read at h
  split at h
  · cases h
  · cases h
  · cases h
  · rename_i cs hcs
    unfold ofHeader at h
    split at h
    · rename_i name' hr
      simp only at h
      split at h
      · cases h
      · rename_i hne
        cases h
        refine ⟨by simpa using hne, Text.trimmed_trimChars, fun c hc => ?_⟩
        have hc := Text.mem_of_mem_trimChars hc
        have hm : c ∈ cs := by
          rw [← List.mem_reverse, hr]
          exact List.mem_cons_of_mem _ (List.mem_reverse.mp hc)
        exact Text.mem_of_mem_trimChars (hcs ▸ List.mem_cons_of_mem _ hm)
    · cases h
  · unfold ofEntry at h
    split at h
    · cases h
    · split at h <;> cases h

theorem of_read_entry (h : read line = .entry k v) :
    (k ≠ [] ∧ Text.Trimmed k ∧ k ⊆ line ∧ '=' ∉ k ∧
      ∀ c ∈ k.head?, c ≠ '#' ∧ c ≠ ';' ∧ c ≠ '[') ∧ Text.Trimmed v ∧ v ⊆ line := by
  unfold read at h
  split at h
  · cases h
  · cases h
  · cases h
  · unfold ofHeader at h
    split at h
    · simp only at h
      split at h <;> cases h
    · cases h
  · rename_i hsharp hsemi hopen
    unfold ofEntry at h
    split at h
    · cases h
    · rename_i k' v' hcut
      split at h
      · cases h
      · rename_i hne
        cases h
        obtain ⟨heq, hno⟩ := Text.cutChars_eq_some hcut
        have hsub : ∀ c, c ∈ k' ∨ c ∈ v' → c ∈ line := by
          intro c hc
          apply Text.mem_of_mem_trimChars
          rw [heq]
          rcases hc with hc | hc <;> simp [hc]
        have hne : Text.trimChars k' ≠ [] := by simpa using hne
        have hkne : k' ≠ [] := by
          rintro rfl
          exact hne rfl
        have hhead : k'.head? = (Text.trimChars line).head? :=
          Text.head?_of_isPrefix ⟨_, heq.symm⟩ hkne
        -- the line has no blank in front, so the key begins where the line does
        have hpre : Text.trimChars k' <+: k' := by
          apply Text.isPrefix_trimChars
          intro c hc
          exact Text.trimmed_trimChars.1 c (hhead ▸ hc)
        refine ⟨⟨hne, Text.trimmed_trimChars, fun c hc => hsub c (.inl (hpre.subset hc)),
          fun hm => hno (hpre.subset hm), fun c hc => ?_⟩, Text.trimmed_trimChars,
          fun c hc => hsub c (.inr (Text.mem_of_mem_trimChars hc))⟩
        rw [Text.head?_of_isPrefix hpre hne, hhead] at hc
        obtain ⟨tail, ht⟩ : ∃ tail, Text.trimChars line = c :: tail := by
          cases hl : Text.trimChars line with
          | nil => simp [hl] at hc
          | cons d tail =>
            rw [hl] at hc
            cases hc
            exact ⟨tail, rfl⟩
        refine ⟨?_, ?_, ?_⟩
        all_goals
          rintro rfl
        · exact hsharp tail ht
        · exact hsemi tail ht
        · exact hopen tail ht

end Line

theorem oneLine_ofList {cs : List Char} (ht : Text.Trimmed cs) (hn : '\n' ∉ cs) :
    OneLine (String.ofList cs) :=
  ⟨Text.trimmed_toList_iff.mp (by rwa [String.toList_ofList]), by rwa [String.toList_ofList]⟩

/-- What was read so far is plain, and the open section is there. -/
structure Reading.Plain (r : Reading) : Prop where
  sections : r.sections.Plain
  current : ∀ q, r.current = some q → q ∈ r.sections.names

theorem Reading.Plain.step (hr : r.Plain) (hl : '\n' ∉ line) (h : r.step line = .ok r') :
    r'.Plain := by
  unfold Reading.step at h
  split at h
  · cases h
    exact hr
  · cases h
  · rename_i name hread
    cases h
    obtain ⟨hne, ht, hsub⟩ := Line.of_read_header hread
    refine ⟨hr.sections.touch (by simpa using hne)
      (oneLine_ofList ht fun hm => hl (hsub hm)), fun q hq => ?_⟩
    cases hq
    exact mem_names_touch.mpr (.inl rfl)
  · rename_i k v hread
    split at h
    · cases h
    · rename_i q hcur
      simp only at h
      split at h
      · cases h
      · cases h
        obtain ⟨⟨hne, ht, hsub, hno, hfirst⟩, htv, hsubv⟩ := Line.of_read_entry hread
        have hk : PlainKey (String.ofList k) :=
          ⟨oneLine_ofList ht fun hm => hl (hsub hm), by simpa using hne,
            by rwa [String.toList_ofList], by rwa [String.toList_ofList]⟩
        refine ⟨hr.sections.set (hr.sections.name q (hr.current q hcur)) hk
          (oneLine_ofList htv fun hm => hl (hsubv hm)), fun p hp => ?_⟩
        exact mem_names_set.mpr (.inr (hr.current p hp))

theorem Reading.Plain.lines {n : Nat} {lines : List (List Char)} (hr : r.Plain)
    (hl : ∀ line ∈ lines, '\n' ∉ line) (h : readLines r n lines = .ok r') : r'.Plain := by
  induction lines generalizing r n with
  | nil =>
    cases h
    exact hr
  | cons line lines ih =>
    rw [readLines] at h
    split at h
    · rename_i r₁ hstep
      exact ih (hr.step (hl line List.mem_cons_self) hstep)
        (fun l hm => hl l (List.mem_cons_of_mem _ hm)) h
    · cases h

/-- Whatever is read from a text can be written. -/
theorem plain_of_parse {text : String} (h : parse text = .ok s) : s.Plain := by
  unfold parse at h
  cases hr : readLines ⟨empty, none⟩ 1 (Text.piecesOf '\n' text.toList) with
  | error e => simp [hr, Except.map] at h
  | ok r =>
    simp only [hr, Except.map, Except.ok.injEq] at h
    subst h
    exact (Reading.Plain.lines ⟨plain_empty, by simp⟩
      (fun _ hl => Text.notMem_of_mem_piecesOf hl) hr).sections

/-- Sections are given by their names and by what stands under them. -/
theorem ext_get? (hn : ∀ q, q ∈ s.names ↔ q ∈ s'.names)
    (hg : ∀ q key, s.get? q key = s'.get? q key) : s = s' := by
  obtain ⟨t⟩ := s
  obtain ⟨t'⟩ := s'
  congr 1
  apply Std.ExtTreeMap.ext_getElem?
  intro q
  have hq := hn q
  simp only [names, Std.ExtTreeMap.mem_keys, Std.ExtTreeMap.mem_iff_isSome_getElem?] at hq
  cases h : t[q]? with
  | none =>
    rw [h] at hq
    cases h' : t'[q]? with
    | none => rfl
    | some entries => simp [h'] at hq
  | some entries =>
    rw [h] at hq
    obtain ⟨entries', h'⟩ := Option.isSome_iff_exists.mp (hq.mp rfl)
    rw [h', Option.some.injEq]
    apply Std.ExtTreeMap.ext_getElem?
    intro key
    simpa [get?, h, h'] using hg q key

theorem mem_toList {es : List (String × String)} :
    (q, es) ∈ s.toList ↔ ∃ entries, s.table[q]? = some entries ∧ entries.toList = es := by
  simp only [toList, List.mem_map, Prod.exists, Prod.mk.injEq,
    Std.ExtTreeMap.mem_toList_iff_getElem?_eq_some]
  constructor
  · rintro ⟨_, entries, h, rfl, he⟩
    exact ⟨entries, h, he⟩
  · rintro ⟨entries, h, he⟩
    exact ⟨q, entries, h, rfl, he⟩

theorem eq_of_mem_toList {es es' : List (String × String)} (h : (q, es) ∈ s.toList)
    (h' : (q, es') ∈ s.toList) : es = es' := by
  obtain ⟨entries, he, rfl⟩ := mem_toList.mp h
  obtain ⟨entries', he', rfl⟩ := mem_toList.mp h'
  rw [he] at he'
  cases he'
  rfl

theorem exists_mem_toList :
    (∃ es, (q, es) ∈ s.toList ∧ (key, value) ∈ es) ↔ s.get? q key = some value := by
  simp only [mem_toList, get?, Option.bind_eq_some_iff]
  constructor
  · rintro ⟨_, ⟨entries, h, rfl⟩, hm⟩
    exact ⟨entries, h, Std.ExtTreeMap.mem_toList_iff_getElem?_eq_some.mp hm⟩
  · rintro ⟨entries, h, hv⟩
    exact ⟨_, ⟨entries, h, rfl⟩, Std.ExtTreeMap.mem_toList_iff_getElem?_eq_some.mpr hv⟩

theorem map_fst_toList : s.toList.map Prod.fst = s.names := by
  rw [toList, List.map_map]
  exact Std.ExtTreeMap.map_fst_toList_eq_keys

theorem nodup_keys_of_mem_toList {es : List (String × String)} (h : (q, es) ∈ s.toList) :
    (es.map Prod.fst).Nodup := by
  obtain ⟨entries, -, rfl⟩ := mem_toList.mp h
  rw [Std.ExtTreeMap.map_fst_toList_eq_keys]
  exact Std.ExtTreeMap.nodup_keys

/-- Set the entries of a section, one after the other. -/
def setAll (s : Sections) (q : String) (es : List (String × String)) : Sections :=
  es.foldl (fun s e => s.set q e.1 e.2) s

/-- Take in a section as a text has it: the header first. -/
def put (s : Sections) (p : String × List (String × String)) : Sections :=
  (s.touch p.1).setAll p.1 p.2

variable {es : List (String × String)} {ps : List (String × List (String × String))}

theorem mem_names_setAll (hq : q ∈ s.names) {p : String} :
    p ∈ (s.setAll q es).names ↔ p ∈ s.names := by
  induction es generalizing s with
  | nil => exact .rfl
  | cons e es ih =>
    refine (ih (mem_names_set.mpr (.inr hq))).trans (mem_names_set.trans ⟨?_, .inr⟩)
    rintro (rfl | hp)
    · exact hq
    · exact hp

theorem get?_setAll (hd : (es.map Prod.fst).Nodup) (hf : ∀ e ∈ es, s.get? q e.1 = none)
    {p : String} : (s.setAll q es).get? p key = some value ↔
      p = q ∧ (key, value) ∈ es ∨ s.get? p key = some value := by
  induction es generalizing s with
  | nil => simp [setAll]
  | cons e es ih =>
    obtain ⟨hnew, hd⟩ := List.nodup_cons.mp hd
    have hf' : ∀ e' ∈ es, (s.set q e.1 e.2).get? q e'.1 = none := by
      intro e' he'
      have hne : e'.1 ≠ e.1 := fun h => hnew (h ▸ List.mem_map_of_mem he')
      simp [get?_set, hne, hf e' (List.mem_cons_of_mem _ he')]
    refine (ih hd hf').trans ?_
    have hfree := hf e List.mem_cons_self
    rw [get?_set, List.mem_cons, Prod.ext_iff]
    by_cases hp : p = q ∧ key = e.1
    · obtain ⟨rfl, rfl⟩ := hp
      have hno : (e.1, value) ∉ es := by
        intro hm
        exact hnew (List.mem_map.mpr ⟨_, hm, rfl⟩)
      simp [hfree, hno, eq_comm]
    · rw [if_neg hp]
      grind

theorem mem_names_foldl_put {p : String} :
    p ∈ (ps.foldl put s).names ↔ p ∈ ps.map Prod.fst ∨ p ∈ s.names := by
  induction ps generalizing s with
  | nil => simp
  | cons e ps ih =>
    rw [List.foldl_cons, ih, put, mem_names_setAll (mem_names_touch.mpr (.inl rfl)),
      mem_names_touch, List.map_cons, List.mem_cons]
    tauto

theorem get?_put {p : String × List (String × String)} (hd : (p.2.map Prod.fst).Nodup)
    (hf : ∀ key, s.get? p.1 key = none) : (s.put p).get? q key = some value ↔
      q = p.1 ∧ (key, value) ∈ p.2 ∨ s.get? q key = some value := by
  rw [put, get?_setAll hd fun e _ => get?_touch.trans (hf e.1), get?_touch]

theorem free_put {p : String × List (String × String)} (hd : (p.2.map Prod.fst).Nodup)
    (hf : ∀ key, s.get? p.1 key = none) (hne : q ≠ p.1) (hq : ∀ key, s.get? q key = none) :
    ∀ key, (s.put p).get? q key = none := by
  intro key
  rw [Option.eq_none_iff_forall_ne_some]
  intro value h
  rcases (get?_put hd hf).mp h with ⟨he, -⟩ | h
  · exact hne he
  · rw [hq] at h
    cases h

theorem get?_foldl_put (hd : (ps.map Prod.fst).Nodup) (hk : ∀ p ∈ ps, (p.2.map Prod.fst).Nodup)
    (hf : ∀ p ∈ ps, ∀ key, s.get? p.1 key = none) :
    (ps.foldl put s).get? q key = some value ↔
      (∃ es, (q, es) ∈ ps ∧ (key, value) ∈ es) ∨ s.get? q key = some value := by
  induction ps generalizing s with
  | nil => simp
  | cons p ps ih =>
    obtain ⟨hnew, hd⟩ := List.nodup_cons.mp hd
    have hp := hk p List.mem_cons_self
    have hfp := hf p List.mem_cons_self
    have hf' : ∀ p' ∈ ps, ∀ key, (s.put p).get? p'.1 key = none := by
      intro p' hp'
      refine free_put hp hfp (fun he => hnew ?_) (hf p' (List.mem_cons_of_mem _ hp'))
      exact he ▸ List.mem_map_of_mem hp'
    rw [List.foldl_cons, ih hd (fun p' hp' => hk p' (List.mem_cons_of_mem _ hp')) hf',
      get?_put hp hfp]
    constructor
    · rintro (⟨es, hes, hm⟩ | ⟨rfl, hm⟩ | h)
      · exact .inl ⟨es, List.mem_cons_of_mem _ hes, hm⟩
      · exact .inl ⟨p.2, List.mem_cons_self, hm⟩
      · exact .inr h
    · rintro (⟨es, hes, hm⟩ | h)
      · rcases List.mem_cons.mp hes with rfl | hes
        · exact .inr (.inl ⟨rfl, hm⟩)
        · exact .inl ⟨es, hes, hm⟩
      · exact .inr (.inr h)

/-- Sections taken in one by one as they are listed are the sections. -/
theorem foldl_put_toList : s.toList.foldl put empty = s := by
  have hfree : ∀ q key, empty.get? q key = none := by simp [get?, empty]
  apply ext_get?
  · intro q
    rw [mem_names_foldl_put, map_fst_toList]
    simp [names, empty]
  · intro q key
    apply Option.ext
    intro value
    rw [get?_foldl_put (map_fst_toList ▸ nodup_names) (fun p hp => nodup_keys_of_mem_toList hp)
      (fun p _ => hfree p.1), exists_mem_toList, hfree]
    simp

def headerLine (q : String) : List Char := '[' :: q.toList ++ [']']

def entryLine (e : String × String) : List Char := e.1.toList ++ [' ', '=', ' '] ++ e.2.toList

/-- The lines of a section. -/
def sectionLines (p : String × List (String × String)) : List (List Char) :=
  headerLine p.1 :: p.2.map entryLine

theorem toList_sectionText {p : String × List (String × String)} :
    (sectionText p.1 p.2).toList = (sectionLines p).flatMap (· ++ ['\n']) := by
  simp [sectionText, sectionLines, headerLine, entryLine, List.flatMap_map, String.toList_join]

/-- The lines of a text are the lines of its sections, with an empty line after each. -/
theorem piecesOf_join (hl : ∀ p ∈ ps, ∀ line ∈ sectionLines p, '\n' ∉ line) (hne : ps ≠ []) :
    Text.piecesOf '\n' (Text.join "\n" (ps.map fun p => sectionText p.1 p.2)).toList =
      ps.flatMap fun p => sectionLines p ++ [[]] := by
  induction ps with
  | nil => exact absurd rfl hne
  | cons p ps ih =>
    have hp := hl p List.mem_cons_self
    rw [List.map_cons, Text.join]
    by_cases hps : ps = []
    · subst hps
      have hpieces : Text.piecesOf '\n' ((sectionLines p).flatMap (· ++ ['\n']) ++ []) =
          sectionLines p ++ [[]] := Text.piecesOf_closed hp
      rw [List.append_nil] at hpieces
      rw [List.map_nil, String.intercalate_singleton, toList_sectionText, hpieces]
      simp
    · have ih := ih (fun p' hp' => hl p' (List.mem_cons_of_mem _ hp')) hps
      rw [String.intercalate_cons_of_ne_nil (by simpa using hps), String.toList_append,
        String.toList_append, toList_sectionText, List.append_assoc, Text.piecesOf_closed hp,
        List.flatMap_cons, List.append_assoc, ← ih]
      rfl

/-- Entries and sections that text can hold. -/
def PlainEntries (es : List (String × String)) : Prop :=
  (es.map Prod.fst).Nodup ∧ ∀ e ∈ es, PlainKey e.1 ∧ OneLine e.2

theorem read_headerLine (hne : q ≠ "") (hq : OneLine q) :
    Line.read (headerLine q) = .header q.toList :=
  Line.read_header (by simpa using hne) (Text.trimmed_toList_iff.mpr hq.trimmed)

theorem read_entryLine {e : String × String} (hk : PlainKey e.1) (hv : OneLine e.2) :
    Line.read (entryLine e) = .entry e.1.toList e.2.toList :=
  Line.read_entry (Text.trimmed_toList_iff.mpr hk.trimmed) (by simpa using hk.nonempty)
    hk.undivided hk.first (Text.trimmed_toList_iff.mpr hv.trimmed)

theorem readLines_entries {n : Nat} {lines : List (List Char)} (hcur : r.current = some q)
    (he : PlainEntries es) (hf : ∀ e ∈ es, r.sections.get? q e.1 = none) :
    readLines r n (es.map entryLine ++ lines) =
      readLines { r with sections := r.sections.setAll q es } (n + es.length) lines := by
  induction es generalizing r n with
  | nil => rfl
  | cons e es ih =>
    obtain ⟨hnew, hd⟩ := List.nodup_cons.mp he.1
    obtain ⟨hk, hv⟩ := he.2 e List.mem_cons_self
    have hstep : r.step (entryLine e) = .ok { r with sections := r.sections.set q e.1 e.2 } := by
      simp [Reading.step, read_entryLine hk hv, hcur, hf e List.mem_cons_self]
    have hf' : ∀ e' ∈ es, (r.sections.set q e.1 e.2).get? q e'.1 = none := by
      intro e' he'
      have hne : e'.1 ≠ e.1 := fun h => hnew (h ▸ List.mem_map_of_mem he')
      simp [get?_set, hne, hf e' (List.mem_cons_of_mem _ he')]
    simp only [List.map_cons, List.cons_append, readLines, hstep]
    rw [ih (r := { r with sections := r.sections.set q e.1 e.2 }) hcur
      ⟨hd, fun e' he' => he.2 e' (List.mem_cons_of_mem _ he')⟩ hf', List.length_cons,
      Nat.add_assoc, Nat.add_comm 1]
    rfl

theorem readLines_section {n : Nat} {p : String × List (String × String)}
    {lines : List (List Char)} (hne : p.1 ≠ "") (hq : OneLine p.1) (he : PlainEntries p.2)
    (hf : ∀ key, r.sections.get? p.1 key = none) :
    readLines r n (sectionLines p ++ lines) =
      readLines ⟨r.sections.put p, some p.1⟩ (n + 1 + p.2.length) lines := by
  have hstep : r.step (headerLine p.1) = .ok ⟨r.sections.touch p.1, some p.1⟩ := by
    simp [Reading.step, read_headerLine hne hq]
  rw [sectionLines, List.cons_append, readLines, hstep]
  exact readLines_entries rfl he fun e _ => get?_touch.trans (hf e.1)

theorem readLines_blank {n : Nat} {lines : List (List Char)} :
    readLines r n ([] :: lines) = readLines r (n + 1) lines := rfl

/-- Reading the lines of sections takes in one section after the other. -/
theorem readLines_sections {n : Nat}
    (hp : ∀ p ∈ ps, (p.1 ≠ "" ∧ OneLine p.1) ∧ PlainEntries p.2) (hd : (ps.map Prod.fst).Nodup)
    (hf : ∀ p ∈ ps, ∀ key, r.sections.get? p.1 key = none) :
    ∃ r', readLines r n (ps.flatMap fun p => sectionLines p ++ [[]]) = .ok r' ∧
      r'.sections = ps.foldl put r.sections := by
  induction ps generalizing r n with
  | nil => exact ⟨r, rfl, rfl⟩
  | cons p ps ih =>
    obtain ⟨hnew, hd⟩ := List.nodup_cons.mp hd
    obtain ⟨⟨hne, hq⟩, he⟩ := hp p List.mem_cons_self
    have hfp := hf p List.mem_cons_self
    rw [List.flatMap_cons, List.append_assoc, List.singleton_append,
      readLines_section hne hq he hfp, readLines_blank]
    refine ih (fun p' hp' => hp p' (List.mem_cons_of_mem _ hp')) hd fun p' hp' => ?_
    refine free_put he.1 hfp (fun h => hnew ?_) (hf p' (List.mem_cons_of_mem _ hp'))
    exact h ▸ List.mem_map_of_mem hp'

theorem Plain.entries (hs : s.Plain) (h : (q, es) ∈ s.toList) :
    (q ≠ "" ∧ OneLine q) ∧ PlainEntries es := by
  have hq : q ∈ s.names := map_fst_toList ▸ List.mem_map_of_mem h
  refine ⟨hs.name q hq, nodup_keys_of_mem_toList h, fun e he => ?_⟩
  have hg := exists_mem_toList.mp ⟨es, h, he⟩
  exact ⟨hs.key hg, hs.value hg⟩

theorem unbroken_sectionLines {p : String × List (String × String)} (hq : OneLine p.1)
    (he : PlainEntries p.2) : ∀ line ∈ sectionLines p, '\n' ∉ line := by
  intro line hline
  rcases List.mem_cons.mp hline with rfl | hline
  · simp [headerLine, hq.unbroken]
  · obtain ⟨e, hm, rfl⟩ := List.mem_map.mp hline
    obtain ⟨hk, hv⟩ := he.2 e hm
    simp [entryLine, hk.unbroken, hv.unbroken]

/-- Sections that text can hold are read back from their text. -/
theorem parse_text (hs : s.Plain) : parse s.text = .ok s := by
  have hp : ∀ p ∈ s.toList, (p.1 ≠ "" ∧ OneLine p.1) ∧ PlainEntries p.2 :=
    fun p hp => hs.entries hp
  have hread : ∃ r, readLines ⟨empty, none⟩ 1 (Text.piecesOf '\n' s.text.toList) = .ok r ∧
      r.sections = s.toList.foldl put empty := by
    by_cases hne : s.toList = []
    · refine ⟨⟨empty, none⟩, ?_, by rw [hne]; rfl⟩
      rw [text, hne]
      rfl
    · rw [text, piecesOf_join (fun p h => unbroken_sectionLines (hp p h).1.2 (hp p h).2) hne]
      exact readLines_sections hp (map_fst_toList ▸ nodup_names) (by simp [get?, empty])
  obtain ⟨r, hr, he⟩ := hread
  rw [parse, hr, Except.map, he, foldl_put_toList]

/-- Sections come back from their text if and only if names, keys and values stand on a line as they
are. What is read from a text does, so writing and reading it again changes nothing. -/
theorem round_trip :
    (∀ s : Sections, parse s.text = .ok s ↔ s.Plain) ∧
      ∀ text s, parse text = .ok s → s.Plain ∧ parse s.text = .ok s :=
  ⟨fun _ => ⟨plain_of_parse, parse_text⟩,
    fun _ _ h => ⟨plain_of_parse h, parse_text (plain_of_parse h)⟩⟩

/-- Comments, blanks and the order of sections go; a section without keys and a second `=` stay. -/
theorem round_trip_tidied : ∃ s,
    parse "# kept\r\n [ w-2:acme ]\t\nbox_1=  1 = 2 \n\n[8889:self]" = .ok s ∧
      s.toList = [("8889:self", []), ("w-2:acme", [("box_1", "1 = 2")])] ∧ s.Plain ∧
      parse s.text = .ok s := by
  have hlist : (parse "# kept\r\n [ w-2:acme ]\t\nbox_1=  1 = 2 \n\n[8889:self]").map toList =
      .ok [("8889:self", []), ("w-2:acme", [("box_1", "1 = 2")])] := by decide +kernel
  cases h : parse "# kept\r\n [ w-2:acme ]\t\nbox_1=  1 = 2 \n\n[8889:self]" with
  | error e => simp [h, Except.map] at hlist
  | ok s =>
    rw [h] at hlist
    exact ⟨s, rfl, Except.ok.inj hlist, round_trip.2 _ s h⟩

end Sections
end TaxReturn
