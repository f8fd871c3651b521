import TaxReturn.Proofs.Encoding
import TaxReturn.Proofs.Names

/-! Names that are accepted, and the text they are stored in. Every name of a form can head a
section. A base name can be any word without a point, but a line holds it as a key only if the line
is not taken for something else. -/
namespace TaxReturn

namespace Name

variable {base : String}

/-- A base name that a line can begin with: the first `=` comes after it, and its first character
opens neither a comment nor a header. -/
def Writable (base : String) : Prop :=
  '=' ∉ base.toList ∧ ∀ c ∈ base.toList.head?, c ≠ '#' ∧ c ≠ ';' ∧ c ≠ '['

theorem unblank_of_checkBase (h : checkBase base = .ok ()) :
    base ≠ "" ∧ ∀ c ∈ base.toList, Text.isBlank c = false := by
  unfold checkBase at h
  split at h
  · rename_i hb
    simp only [isBase, Bool.and_eq_true, Bool.not_eq_true', List.all_eq_true] at hb
    exact ⟨by simpa [String.isEmpty_iff] using hb.1, fun c hc => (hb.2 c hc).2⟩
  · cases h

/-- Of what text asks of a key, a base name can lack nothing else. -/
theorem plainKey_iff_writable (h : checkBase base = .ok ()) :
    Sections.PlainKey base ↔ Writable base := by
  obtain ⟨hne, hblank⟩ := unblank_of_checkBase h
  exact ⟨fun hk => ⟨hk.undivided, hk.first⟩, fun hw => ⟨.of_unblank hblank, hne, hw.1, hw.2⟩⟩

end Name

namespace Sections

variable {s : Sections} {name base value q : String} {tag : Option String} {f : FormName}

/-- Sections under names of forms, with base names for keys and values that stand on a line: what
is given for the forms of some library, or computed of them. -/
structure Accepted (s : Sections) : Prop where
  name : ∀ q ∈ s.names, ∃ name tag f, FormName.make name tag = .ok f ∧ f.text = q
  key : ∀ {q base value}, s.get? q base = some value → Name.checkBase base = .ok ()
  value : ∀ {q base value}, s.get? q base = some value → OneLine value

theorem accepted_empty : Accepted empty :=
  ⟨fun _ hq => absurd hq (by simp [names, empty]),
    fun h => absurd h (by simp [get?, empty]), fun h => absurd h (by simp [get?, empty])⟩

/-- Any accepted names and any value on a line may be added. -/
theorem Accepted.set (hs : s.Accepted) (hf : FormName.make name tag = .ok f)
    (hb : Name.checkBase base = .ok ()) (hv : OneLine value) :
    (s.set f.text base value).Accepted := by
  refine ⟨fun p hp => ?_, fun {p k v} h => ?_, fun {p k v} h => ?_⟩
  · rcases mem_names_set.mp hp with rfl | hp
    · exact ⟨name, tag, f, hf, rfl⟩
    · exact hs.name p hp
  all_goals
    rw [get?_set] at h
    split at h
  · rename_i he
    exact he.2 ▸ hb
  · exact hs.key h
  · cases h
    exact hv
  · exact hs.value h

/-- Nothing but its keys can keep accepted sections from standing in a text. -/
theorem Accepted.plain_iff (hs : s.Accepted) :
    s.Plain ↔ ∀ q base value, s.get? q base = some value → Name.Writable base := by
  constructor
  · intro h q base value hg
    exact (Name.plainKey_iff_writable (hs.key hg)).mp (h.key hg)
  · intro h
    refine ⟨fun q hq => ?_, fun hg => (Name.plainKey_iff_writable (hs.key hg)).mpr (h _ _ _ hg),
      hs.value⟩
    obtain ⟨name, tag, f, hf, rfl⟩ := hs.name q hq
    obtain ⟨hne, hblank⟩ := FormName.unblank_of_make hf
    exact ⟨hne, .of_unblank hblank⟩

/-- Accepted sections are read back from their text exactly if each of their keys can begin a line;
a key that cannot is read from no text, whatever comes of the line that was written for it. -/
theorem accepted_read_back_iff (hs : s.Accepted) :
    (parse s.text = .ok s ↔ ∀ q base value, s.get? q base = some value → Name.Writable base) ∧
    ∀ q base, ¬ Name.Writable base → ∀ s', parse s.text = .ok s' → s'.get? q base = none := by
  refine ⟨?_, fun q base hb s' h => ?_⟩
  · rw [← hs.plain_iff]
    exact ⟨plain_of_parse, parse_text⟩
  · cases hg : s'.get? q base with
    | none => rfl
    | some value =>
      have hk := (plain_of_parse h).key hg
      exact absurd ⟨hk.undivided, hk.first⟩ hb

/-- Behind a key that can begin a line anything may stand. -/
theorem accepted_read_back_boxed : ∃ s : Sections, s.Accepted ∧
    s.toList = [("w-2:acme", [("box_1", "[1] = #2")])] ∧ parse s.text = .ok s := by
  have hf : FormName.make "w-2" (some "acme") = .ok ⟨"w-2", some "acme"⟩ := rfl
  have hs : (empty.set "w-2:acme" "box_1" "[1] = #2").Accepted :=
    accepted_empty.set hf rfl (by decide)
  refine ⟨_, hs, by decide +kernel, (accepted_read_back_iff hs).1.mpr fun q base value hg => ?_⟩
  simp only [get?_set] at hg
  split at hg
  · rename_i he
    rw [he.2]
    refine ⟨by decide, fun c hc => ?_⟩
    obtain rfl : 'b' = c := by simpa using hc
    decide
  · cases hg

-- A key that looks like a comment is dropped, and one that looks like a header spoils the text.
example : (parse (empty.set "f" "#1" "x").text).map toList = .ok [("f", [])] ∧
    ((parse (empty.set "f" "[1" "x").text).map toList).isOk = false := by decide +kernel

/-- An input can have a name with an `=` in it, and what is stored for it is read back as another
input's. -/
theorem not_read_back_divided : ∃ f spec again, FormName.make "f" none = .ok f ∧
    InputSpec.make "a=b" .text "" = .ok spec ∧ OneLine "1" ∧
    parse (empty.set f.text spec.name "1").text = .ok again ∧
    again ≠ empty.set f.text spec.name "1" ∧ again.get? "f" "a=b" = none ∧
    again.toList = [("f", [("a", "b = 1")])] := by
  have hlist :
      (parse (empty.set "f" "a=b" "1").text).map toList = .ok [("f", [("a", "b = 1")])] := by
    decide +kernel
  cases h : parse (empty.set "f" "a=b" "1").text with
  | error e => simp [h, Except.map] at hlist
  | ok again =>
    simp only [h, Except.map, Except.ok.injEq] at hlist
    have hnone : again.get? "f" "a=b" = none := by
      cases hg : again.get? "f" "a=b" with
      | none => rfl
      | some value =>
        obtain ⟨es, hm, he⟩ := exists_mem_toList.mpr hg
        simp only [hlist, List.mem_singleton, Prod.mk.injEq] at hm
        simp [hm] at he
    refine ⟨⟨"f", none⟩, ⟨"a=b", .text, ""⟩, again, rfl, rfl, by decide, h, ?_, hnone, hlist⟩
    rintro rfl
    simp [FormName.text, get?_set] at hnone

end Sections
end TaxReturn
