import TaxReturn.Proofs.Decimal.Bounds
import TaxReturn.Proofs.Decimal.Plain
import TaxReturn.Proofs.Encoding
import TaxReturn.Solution

/-! Reading what is written. A decimal that has no more places than are read comes back from its
text digit by digit, so every value that a field keeps comes back from what the field writes, and a
solution from which every field can be read gives all the values that it was written from. -/
namespace TaxReturn

namespace Decimal

variable {a : Decimal} {cs whole fraction : List Char} {m scale places : ℕ}

theorem le_ofDigitChars (cs : List Char) (m : ℕ) : m ≤ Nat.ofDigitChars 10 cs m := by
  rw [Nat.ofDigitChars_eq_ofDigitChars_zero]
  have : 1 * m ≤ 10 ^ cs.length * m := Nat.mul_le_mul_right m (Nat.one_le_pow _ _ (by decide))
  omega

/-- Digits are read one by one as long as the number has room. -/
theorem readWhole_eq (h : Nat.ofDigitChars 10 cs m < limit) :
    readWhole m (cs.map digitOf) = .ok (Nat.ofDigitChars 10 cs m) := by
  induction cs generalizing m with
  | nil => rfl
  | cons c cs ih =>
    rw [Nat.ofDigitChars_cons] at h ⊢
    have hroom : 10 * m + digitOf c < limit := (le_ofDigitChars cs _).trans_lt h
    rw [List.map_cons, readWhole, if_pos hroom]
    exact ih h

theorem readFraction_eq (h : Nat.ofDigitChars 10 cs m < limit) (hs : scale + cs.length ≤ maxScale) :
    readFraction m scale (cs.map digitOf) = .ok (Nat.ofDigitChars 10 cs m, scale + cs.length) := by
  induction cs generalizing m scale with
  | nil => rfl
  | cons c cs ih =>
    rw [Nat.ofDigitChars_cons] at h ⊢
    rw [List.length_cons] at hs ⊢
    have hroom : 10 * m + digitOf c < limit := (le_ofDigitChars cs _).trans_lt h
    rw [List.map_cons, readFraction, if_pos ⟨by omega, hroom⟩, ← Nat.add_assoc,
      Nat.add_right_comm]
    exact ih h (by omega)

theorem readDigits_eq (h : Nat.ofDigitChars 10 (whole ++ fraction) 0 < limit)
    (hs : fraction.length ≤ maxScale) : readDigits whole fraction =
      .ok (Nat.ofDigitChars 10 (whole ++ fraction) 0, fraction.length) := by
  rw [Nat.ofDigitChars_append] at h ⊢
  have hwhole := readWhole_eq ((le_ofDigitChars fraction _).trans_lt h)
  have hfraction := readFraction_eq h ((Nat.zero_add _).trans_le hs)
  rw [Nat.zero_add] at hfraction
  exact readDigits_eq_ok_iff.mpr ⟨_, hwhole, hfraction⟩

/-- A decimal is printed as a number in plain digits. -/
theorem exists_plain (a : Decimal) : ∃ whole fraction : List Char, fraction.length = a.scale ∧
    Nat.ofDigitChars 10 (whole ++ fraction) 0 = a.magnitude ∧
    Plain a.negative whole fraction a.toChars := by
  obtain ⟨whole, fraction, hne, hlength, hdigits, hvalue, he⟩ := a.exists_digits
  have hpointed :
      Pointed whole fraction (whole ++ if fraction.isEmpty then [] else '.' :: fraction) := by
    cases fraction with
    | nil => simpa using Pointed.missing
    | cons c fraction => exact .there
  have hsigned : ∀ body, Signed a.negative body ((if a.negative then ['-'] else []) ++ body) := by
    intro body
    cases a.negative with
    | true => exact .minus
    | false => exact .bare
  refine ⟨whole, fraction, hlength, hvalue, ⟨_, ?_, hpointed⟩, hdigits, by simp [hne]⟩
  rw [he, List.append_assoc]
  exact hsigned _

theorem trimChars_text (a : Decimal) : Text.trimChars a.text.toList = a.toChars := by
  rw [(Text.trimmed_toList_iff.mpr a.oneLine_text.trimmed).trimChars, text, String.toList_ofList]

/-- A number is printed with some digit, so its text is not taken for nothing. -/
theorem isEmpty_text (a : Decimal) : a.text.isEmpty = false := by
  obtain ⟨whole, fraction, hne, -, -, -, he⟩ := a.exists_digits
  rw [← Bool.not_eq_true, String.isEmpty_iff, ← String.toList_inj, text, String.toList_ofList, he]
  simp [hne]

/-- A decimal with no more places than are read is read back from its text, with the sign of a
zero and with the zeros at its end. -/
theorem parse_text (h : a.scale ≤ maxScale) : parse a.text = .ok a := by
  obtain ⟨whole, fraction, hlength, hvalue, hplain⟩ := a.exists_plain
  rw [← a.trimChars_text] at hplain
  refine parse_eq_ok_iff.mpr ⟨whole, fraction, hplain, ?_⟩
  rw [← hvalue, ← hlength]
  exact readDigits_eq (hvalue ▸ a.magnitude_lt) (hlength ▸ h)

theorem scale_pad_le (a : Decimal) (n : ℕ) : (a.pad n).scale ≤ a.scale + n := by
  induction n generalizing a with
  | zero => exact le_rfl
  | succ n ih =>
    rw [pad]
    split
    · exact (ih _).trans (by simp only; omega)
    · omega

/-- There may be fewer places where there is no room for them. -/
theorem scale_fixPlaces_le (a : Decimal) (places : ℕ) : (a.fixPlaces places).scale ≤ places := by
  have hround := a.scale_round_le .toEven places
  rw [fixPlaces, extend]
  split
  · exact hround
  · split
    · exact min_le_left _ _
    · exact (scale_pad_le _ _).trans (by omega)

theorem magnitude_pad_ne_zero (h : a.magnitude ≠ 0) (n : ℕ) : (a.pad n).magnitude ≠ 0 := by
  induction n generalizing a with
  | zero => exact h
  | succ n ih =>
    rw [pad]
    split
    · exact ih (Nat.mul_ne_zero h (by decide))
    · exact h

/-- Zeros are appended until there are enough places or there is no room for another one. -/
theorem limit_le_of_pad {n : ℕ} (h : (a.pad n).scale ≠ a.scale + n) :
    limit ≤ (a.pad n).magnitude * 10 := by
  induction n generalizing a with
  | zero => exact absurd rfl h
  | succ n ih =>
    rw [pad] at h ⊢
    split
    · rename_i hroom
      rw [dif_pos hroom] at h
      exact ih fun he => h (by rw [he]; simp only; omega)
    · rename_i hroom
      exact Nat.le_of_not_lt hroom

theorem pad_of_limit_le (h : limit ≤ a.magnitude * 10) (n : ℕ) : a.pad n = a := by
  cases n with
  | zero => rfl
  | succ n => rw [pad, dif_neg (Nat.not_lt.mpr h)]

theorem extend_extend (a : Decimal) (places : ℕ) :
    (a.extend places).extend places = a.extend places := by
  by_cases hge : places ≤ a.scale
  · rw [show a.extend places = a from if_pos hge, extend, if_pos hge]
  by_cases hz : a.magnitude = 0
  · have he : a.extend places = { a with scale := min places maxScale } := by
      rw [extend, if_neg hge, if_pos hz]
    rw [he, extend, if_pos hz]
    split <;> rfl
  · have he : a.extend places = a.pad (places - a.scale) := by rw [extend, if_neg hge, if_neg hz]
    rw [he, extend]
    split
    · rfl
    · rename_i hlt
      rw [if_neg (magnitude_pad_ne_zero hz _)]
      exact pad_of_limit_le (limit_le_of_pad (by omega)) _

/-- Places that are fixed stay fixed. -/
theorem fixPlaces_fixPlaces (a : Decimal) (places : ℕ) :
    (a.fixPlaces places).fixPlaces places = a.fixPlaces places := by
  have hround : (a.fixPlaces places).round .toEven places = a.fixPlaces places :=
    dif_pos (a.scale_fixPlaces_le places)
  have hextend := extend_extend (a.round .toEven places) places
  rw [← fixPlaces] at hextend
  calc (a.fixPlaces places).fixPlaces places = (a.fixPlaces places).extend places := by
        rw [fixPlaces, hround]
    _ = a.fixPlaces places := hextend

end Decimal

namespace Scalar

variable {cs : List Char} {max n : ℕ} {above : IntegerFault}

theorem parseBool_boolText (b : Bool) : parseBool (boolText b) = some b := by
  cases b <;> decide

theorem readDigits_eq (hd : ∀ c ∈ cs, c.isDigit = true) (h : Nat.ofDigitChars 10 cs n ≤ max) :
    readDigits max above n cs = .ok (Nat.ofDigitChars 10 cs n) := by
  induction cs generalizing n with
  | nil => rfl
  | cons c cs ih =>
    rw [Nat.ofDigitChars_cons] at h ⊢
    have hroom : 10 * n + (c.toNat - '0'.toNat) ≤ max := (Decimal.le_ofDigitChars cs _).trans h
    rw [readDigits, if_pos (hd c List.mem_cons_self)]
    simp only [hroom, if_true]
    exact ih (fun c hc => hd c (List.mem_cons_of_mem _ hc)) h

theorem readDigits_toDigits (h : n ≤ max) : readDigits max above 0 (Nat.toDigits 10 n) = .ok n := by
  have hvalue := @Nat.ofDigitChars_ten_toDigits n
  have hread : readDigits max above 0 (Nat.toDigits 10 n) = _ :=
    readDigits_eq (fun _ => isDigit_of_mem_toDigits) (hvalue.trans_le h)
  rwa [hvalue] at hread

/-- An integer is read back from its text. -/
theorem parseInt_intText (i : Int64) : parseInt (intText i) = .ok i := by
  have hlow := i.le_toInt
  have hhigh := i.toInt_lt
  have hback : Int64.ofInt i.toInt = i := Int64.ofInt_toInt i
  unfold intText
  generalize i.toInt = k at hlow hhigh hback
  cases k with
  | ofNat n =>
    have hchars : (toString (Int.ofNat n)).toList = Nat.toDigits 10 n := by
      simp [toString, Int.repr, Nat.repr]
    have hread : readDigits maxInt .aboveRange 0 (Nat.toDigits 10 n) = .ok n :=
      readDigits_toDigits (by simp only [Int.ofNat_eq_natCast, maxInt] at hhigh ⊢; omega)
    -- no digit is taken for a sign
    have hdigits : ∀ c ∈ Nat.toDigits 10 n, c ≠ '-' ∧ c ≠ '+' := by
      intro c hc
      have hc := isDigit_of_mem_toDigits hc
      constructor <;> rintro rfl <;> exact absurd hc (by decide)
    have hne := @Nat.toDigits_ne_nil n 10
    unfold parseInt
    rw [hchars]
    generalize Nat.toDigits 10 n = cs at hread hdigits hne
    split <;> simp_all [Except.map]
  | negSucc n =>
    have hchars : (toString (Int.negSucc n)).toList = '-' :: Nat.toDigits 10 (n + 1) := by
      simp [toString, Int.repr, Nat.repr]
    have hread : readDigits (maxInt + 1) .belowRange 0 (Nat.toDigits 10 (n + 1)) = .ok (n + 1) :=
      readDigits_toDigits (by simp only [Int.negSucc_eq, maxInt] at hlow ⊢; omega)
    have hne := @Nat.toDigits_ne_nil (n + 1) 10
    unfold parseInt
    rw [hchars]
    generalize Nat.toDigits 10 (n + 1) = cs at hread hne
    split
    case h_4 _ hcs =>
      cases hcs
      rw [hread]
      exact congrArg Except.ok hback
    all_goals simp_all

/-- An integer is printed with some digit, so its text is not taken for nothing. -/
theorem isEmpty_intText (i : Int64) : (intText i).isEmpty = false := by
  have hparse := parseInt_intText i
  rw [← Bool.not_eq_true, String.isEmpty_iff]
  intro he
  rw [he] at hparse
  cases hparse

end Scalar

/-- Text without the blanks around it, and every other value as it is. -/
def Value.trimmed : Value → Value
  | .text s => .text (Text.trim s)
  | v => v

namespace ValueKind

variable {kind : ValueKind} {v w : Value} {d : Decimal} {places : ℕ}

/-- A decimal is kept with the places of its field. -/
theorem fixPlaces_of_canonicalize (h : (decimal places).canonicalize w = .ok (.number d)) :
    d.fixPlaces places = d ∧ d.scale ≤ places := by
  obtain ⟨a, rfl⟩ : ∃ a : Decimal, d = a.fixPlaces places := by
    cases keeps_of_canonicalize h with
    | blank => exact ⟨0, rfl⟩
    | decimal => exact ⟨_, rfl⟩
  exact ⟨a.fixPlaces_fixPlaces places, a.scale_fixPlaces_le places⟩

/-- What a field keeps is read back from what the field writes, but for the blanks around text. -/
theorem decode_encode (hkey : ∀ key, v = .choice (some key) → key ≠ "" ∧ Text.trim key = key)
    (hplaces : ∀ d, v = .number d → d.scale ≤ Decimal.maxScale)
    (h : kind.canonicalize w = .ok v) : kind.decode (kind.encode v) = .ok v.trimmed := by
  have hholds := holds_of_canonicalize h
  cases kind with
  | text | ssn =>
    cases v <;> cases hholds
    rfl
  | boolean =>
    cases v <;> cases hholds
    rename_i b
    cases b <;> decide
  | integer =>
    cases v <;> cases hholds
    rename_i i
    simp only [decode, encode, (Scalar.oneLine_intText i).trimmed, Scalar.isEmpty_intText,
      Scalar.parseInt_intText, Value.trimmed, Bool.false_eq_true, if_false]
  | float =>
    cases v <;> cases hholds
    rename_i d
    simp only [decode, encode, d.oneLine_text.trimmed, d.isEmpty_text,
      Decimal.parse_text (hplaces d rfl), Value.trimmed, Bool.false_eq_true, if_false]
  | decimal places =>
    cases v <;> cases hholds
    rename_i d
    have hfixed := (fixPlaces_of_canonicalize h).1
    simp only [decode, encode, hfixed, d.oneLine_text.trimmed, d.isEmpty_text,
      Decimal.parse_text (hplaces d rfl), Value.trimmed, Bool.false_eq_true, if_false]
  | enumeration keys =>
    cases v with
    | choice key =>
      cases key with
      | none => rfl
      | some key =>
        have hmem : key ∈ keys := key_mem_of_holds hholds
        obtain ⟨hne, htrim⟩ := hkey key rfl
        have hne : key.isEmpty = false := by rwa [← Bool.not_eq_true, String.isEmpty_iff]
        simp only [decode, encode, Option.getD_some, htrim, hne, hmem, Value.trimmed,
          Bool.false_eq_true, if_false, if_true]
    | _ => cases hholds

/-- Kinds of fields whose values are all read back: their decimals have no more places than are
read, and their keys are not taken for nothing. -/
def Recoverable : ValueKind → Prop
  | float => False
  | decimal places => places ≤ Decimal.maxScale
  | enumeration keys => ∀ key ∈ keys, key ≠ "" ∧ OneLine key
  | _ => True

instance : DecidablePred Recoverable
  | float => inferInstanceAs (Decidable False)
  | decimal places => inferInstanceAs (Decidable (places ≤ Decimal.maxScale))
  | enumeration keys => inferInstanceAs (Decidable (∀ key ∈ keys, key ≠ "" ∧ OneLine key))
  | text | ssn | boolean | integer => inferInstanceAs (Decidable True)

theorem Recoverable.decode_encode (hk : kind.Recoverable) (h : kind.canonicalize w = .ok v) :
    kind.decode (kind.encode v) = .ok v.trimmed := by
  have hholds := holds_of_canonicalize h
  apply ValueKind.decode_encode _ _ h
  · rintro key rfl
    have hmem := key_mem_of_holds hholds
    cases kind with
    | enumeration keys => exact (hk key hmem).imp_right OneLine.trimmed
    | _ => cases hmem
  · rintro d rfl
    cases kind with
    | float => cases hk
    | decimal places => exact (fixPlaces_of_canonicalize h).2.trans hk
    | _ => cases hholds

end ValueKind

/-- Where a key stands for one thing, what is found under it is what stands under it. -/
theorem lookup_eq_some_iff_mem {α : Type} {l : List (String × α)} {n : String} {v : α}
    (hone : ∀ v v', (n, v) ∈ l → (n, v') ∈ l → v = v') : l.lookup n = some v ↔ (n, v) ∈ l := by
  have hmem : ∀ v, l.lookup n = some v → (n, v) ∈ l := by
    intro v h
    obtain ⟨l₁, l₂, he, -⟩ := List.lookup_eq_some_iff.mp h
    rw [he]
    simp
  refine ⟨hmem v, fun h => ?_⟩
  obtain ⟨v', hv'⟩ : ∃ v', l.lookup n = some v' := by
    rw [← Option.isSome_iff_exists, List.lookup_isSome_iff]
    exact ⟨(n, v), h, by simp⟩
  rw [hv', hone v v' h (hmem v' hv')]

namespace Library

variable {library : Library} {sol : Solution} {values values' : ValueStore}
  {l : List (String × String × String)} {q base raw n : String} {p : String × Value}

theorem name_of_decodeField (h : library.decodeField q base raw = .ok p) :
    p.1 = q ++ "." ++ base := by
  unfold decodeField at h
  simp only at h
  split at h
  · cases h
  · rename_i field _
    cases hd : field.decode (q ++ "." ++ base) raw with
    | error e => simp [hd, Except.map] at h
    | ok v =>
      simp only [hd, Except.map, Except.ok.injEq] at h
      exact h ▸ rfl

/-- What is read of those fields that can be read. -/
def decodable (library : Library) (l : List (String × String × String)) : List (String × Value) :=
  l.filterMap fun e => (library.decodeField e.1 e.2.1 e.2.2).toOption

theorem mem_decodable :
    p ∈ library.decodable l ↔ ∃ e ∈ l, library.decodeField e.1 e.2.1 e.2.2 = .ok p := by
  simp only [decodable, List.mem_filterMap]
  refine exists_congr fun e => and_congr_right fun _ => ?_
  cases library.decodeField e.1 e.2.1 e.2.2 <;> simp [Except.toOption]

/-- Fields are read one by one, and each of them has to be readable. -/
theorem decodeFields_eq_ok : library.decodeFields values l = .ok values' ↔
    (∀ e ∈ l, ∃ p, library.decodeField e.1 e.2.1 e.2.2 = .ok p) ∧
      (library.decodable l).foldl (fun values p => values.commit p.1 p.2) values = values' := by
  induction l generalizing values with
  | nil => simp [decodeFields, decodable]
  | cons e l ih =>
    obtain ⟨q, base, raw⟩ := e
    rw [decodeFields]
    cases hd : library.decodeField q base raw with
    | error e => simp [hd]
    | ok p =>
      have hcons : library.decodable ((q, base, raw) :: l) = p :: library.decodable l :=
        List.filterMap_cons_some (by simp [hd, Except.toOption])
      simp only [ih, hcons, List.foldl_cons, List.forall_mem_cons, hd, Except.ok.injEq,
        exists_eq', true_and]

theorem mem_entries {raw : String} : (q, base, raw) ∈
    sol.toList.flatMap (fun p => p.2.map fun f => (p.1, f.1, f.2)) ↔
      sol.get? q base = some raw := by
  rw [Solution.get?, ← Sections.exists_mem_toList]
  simp [Solution.toList]

/-- Every field of a solution that is read as a whole can be read. -/
theorem exists_decodeField (h : library.decode sol = .ok values)
    (hg : sol.get? q base = some raw) : ∃ p, library.decodeField q base raw = .ok p := by
  unfold decode at h
  exact (decodeFields_eq_ok.mp h).1 (q, base, raw) (mem_entries.mpr hg)

/-- A solution of fields that can all be read is read as a whole, if the names of its forms end
before the first point: what is read are the values of its fields and no others. -/
theorem exists_decode (hpoint : ∀ q base raw, sol.get? q base = some raw → '.' ∉ q.toList)
    (hread : ∀ q base raw, sol.get? q base = some raw →
      ∃ p, library.decodeField q base raw = .ok p) :
    ∃ values, library.decode sol = .ok values ∧ ∀ n v, values.get? n = some v ↔
      ∃ q base raw, sol.get? q base = some raw ∧ library.decodeField q base raw = .ok (n, v) := by
  obtain ⟨l, hl⟩ : ∃ l, sol.toList.flatMap (fun p => p.2.map fun f => (p.1, f.1, f.2)) = l :=
    ⟨_, rfl⟩
  have hmem : ∀ q base raw, (q, base, raw) ∈ l ↔ sol.get? q base = some raw := by
    intro q base raw
    rw [← hl, mem_entries]
  have hentry : ∀ n v, (n, v) ∈ library.decodable l ↔
      ∃ q base raw, sol.get? q base = some raw ∧ library.decodeField q base raw = .ok (n, v) := by
    intro n v
    simp only [mem_decodable, Prod.exists, hmem]
  -- The name of a field tells its form, so that no two fields are read under one name.
  have hone : ∀ n v v', (n, v) ∈ library.decodable l → (n, v') ∈ library.decodable l → v = v' := by
    intro n v v' h h'
    obtain ⟨q, base, raw, hg, hd⟩ := (hentry n v).mp h
    obtain ⟨q', base', raw', hg', hd'⟩ := (hentry n v').mp h'
    have hs := @Name.split_scoped _ base (hpoint q base raw hg)
    rw [← name_of_decodeField hd, name_of_decodeField hd',
      Name.split_scoped (hpoint q' base' raw' hg')] at hs
    cases hs
    rw [hg] at hg'
    cases hg'
    rw [hd] at hd'
    cases hd'
    rfl
  refine ⟨_, decodeFields_eq_ok.mpr ⟨?_, rfl⟩, fun n v => ?_⟩
  · rw [hl]
    exact fun e he => hread e.1 e.2.1 e.2.2 ((hmem _ _ _).mp he)
  · rw [hl, ValueStore.get?_foldl_commit, ← hentry]
    have hempty : ValueStore.empty.get? n = none := by simp [ValueStore.get?, ValueStore.empty]
    rw [hempty, Option.none_or]
    exact lookup_eq_some_iff_mem (hone n)

end Library
end TaxReturn
