import TaxReturn.Decimal.Text
import TaxReturn.Proofs.Text

/-! The texts that are taken for numbers: digits with at most one point before, between or behind
them, and a sign or none in front. A text is so in one way only, and reading finds it or refuses
the text. -/
namespace TaxReturn.Decimal

variable {negative : Bool} {whole fraction body cs : List Char} {raw : String} {a : Decimal}

/-- A text with a sign in front, or with none. -/
inductive Signed : Bool → List Char → List Char → Prop
  | bare {body : List Char} : Signed false body body
  | plus {body : List Char} : Signed false body ('+' :: body)
  | minus {body : List Char} : Signed true body ('-' :: body)

/-- What stands before a point and behind it. With nothing behind it the point may be missing. -/
inductive Pointed (whole : List Char) : List Char → List Char → Prop
  | missing : Pointed whole [] whole
  | there {fraction : List Char} : Pointed whole fraction (whole ++ '.' :: fraction)

/-- A number in plain digits, of which there is at least one. -/
structure Plain (negative : Bool) (whole fraction cs : List Char) : Prop where
  written : ∃ body, Signed negative body cs ∧ Pointed whole fraction body
  digits : ∀ c ∈ whole ++ fraction, c.isDigit = true
  nonempty : whole ++ fraction ≠ []

theorem signed_signOf (cs : List Char) : Signed (signOf cs).1 (signOf cs).2 cs := by
  unfold signOf
  split
  · exact .minus
  · exact .plus
  · exact .bare

theorem signOf_of_head (h : ∀ c ∈ cs.head?, c ≠ '-' ∧ c ≠ '+') : signOf cs = (false, cs) := by
  unfold signOf
  split
  · exact absurd rfl (h '-' rfl).1
  · exact absurd rfl (h '+' rfl).2
  · rfl

theorem point_notMem (hd : ∀ c ∈ whole ++ fraction, c.isDigit = true) : '.' ∉ whole := by
  intro hm
  have := hd '.' (List.mem_append_left _ hm)
  simp at this

/-- Neither a digit nor a point is taken for a sign. -/
theorem signOf_of_pointed (hp : Pointed whole fraction body)
    (hd : ∀ c ∈ whole ++ fraction, c.isDigit = true) (hne : whole ++ fraction ≠ []) :
    signOf body = (false, body) := by
  have hsign : ∀ c : Char, c.isDigit = true → c ≠ '-' ∧ c ≠ '+' := by
    rintro c hc
    constructor <;> rintro rfl <;> simp at hc
  apply signOf_of_head
  intro c hc
  cases whole with
  | nil =>
    cases hp with
    | missing => exact absurd rfl hne
    | there =>
      cases hc
      decide
  | cons d whole =>
    have hdigit := hd d List.mem_cons_self
    cases hp with
    | missing | there =>
      cases hc
      exact hsign _ hdigit

theorem pointed_cut (body : List Char) :
    Pointed ((Text.cutChars '.' body).getD (body, [])).1
      ((Text.cutChars '.' body).getD (body, [])).2 body := by
  cases hc : Text.cutChars '.' body with
  | none => exact .missing
  | some p =>
    obtain ⟨hbody, -⟩ := Text.cutChars_eq_some hc
    have hthere : Pointed p.1 p.2 (p.1 ++ '.' :: p.2) := .there
    rwa [← hbody] at hthere

theorem cut_of_pointed (hp : Pointed whole fraction body) (hpoint : '.' ∉ whole) :
    (Text.cutChars '.' body).getD (body, []) = (whole, fraction) := by
  cases hp with
  | missing => rw [Text.cutChars_eq_none_iff.mpr hpoint, Option.getD_none]
  | there => rw [Text.cutChars_append hpoint, Option.getD_some]

/-- Digits are found around the first point. -/
theorem plain?_eq_some_iff : plain? body = some (whole, fraction) ↔ Pointed whole fraction body ∧
    (∀ c ∈ whole ++ fraction, c.isDigit = true) ∧ whole ++ fraction ≠ [] := by
  have hpointed := pointed_cut body
  unfold plain?
  constructor
  · intro h
    generalize (Text.cutChars '.' body).getD (body, []) = p at h hpointed
    obtain ⟨⟨hd, hne⟩, hp⟩ := Option.ite_none_right_eq_some.mp h
    cases hp
    exact ⟨hpointed, List.all_eq_true.mp hd, hne⟩
  · rintro ⟨hp, hd, hne⟩
    rw [cut_of_pointed hp (point_notMem hd)]
    exact if_pos ⟨List.all_eq_true.mpr hd, hne⟩

/-- A text is a number in one way only. -/
theorem plain_iff : Plain negative whole fraction cs ↔
    (signOf cs).1 = negative ∧ plain? (signOf cs).2 = some (whole, fraction) := by
  rw [plain?_eq_some_iff]
  constructor
  · rintro ⟨⟨body, hs, hp⟩, hd, hne⟩
    cases hs with
    | bare =>
      rw [signOf_of_pointed hp hd hne]
      exact ⟨rfl, hp, hd, hne⟩
    | plus => exact ⟨rfl, hp, hd, hne⟩
    | minus => exact ⟨rfl, hp, hd, hne⟩
  · rintro ⟨rfl, hp, hd, hne⟩
    exact ⟨⟨_, signed_signOf cs, hp⟩, hd, hne⟩

/-- The digits behind a point are read on top of those before it. -/
theorem readDigits_eq_ok_iff {r : ℕ × ℕ} : readDigits whole fraction = .ok r ↔
    ∃ m, readWhole 0 (whole.map digitOf) = .ok m ∧
      readFraction m 0 (fraction.map digitOf) = .ok r := by
  rw [readDigits]
  cases readWhole 0 (whole.map digitOf) <;> simp [bind, Except.bind]

/-- A number is read from the digits around its point. -/
theorem parse_eq_ok_iff : parse raw = .ok a ↔ ∃ whole fraction,
    Plain a.negative whole fraction (Text.trimChars raw.toList) ∧
      readDigits whole fraction = .ok (a.magnitude, a.scale) := by
  simp only [plain_iff]
  unfold parse
  dsimp only
  split
  · rename_i hnone
    simp [hnone]
  · rename_i whole fraction hsome
    simp only [hsome, Option.some.injEq, Prod.mk.injEq]
    split
    · rename_i fault hr
      constructor
      · rintro ⟨⟩
      · rintro ⟨_, _, ⟨-, rfl, rfl⟩, hok⟩
        rw [hr] at hok
        cases hok
    · rename_i r hr
      constructor
      · rintro ⟨rfl⟩
        exact ⟨whole, fraction, ⟨rfl, rfl, rfl⟩, hr⟩
      · rintro ⟨_, _, ⟨hneg, rfl, rfl⟩, hok⟩
        rw [hr] at hok
        cases a
        cases hok
        cases hneg
        rfl

/-- A text that is no number is refused as it stands, without the blanks around it. -/
theorem parse_eq_notPlain
    (h : ∀ negative whole fraction, ¬ Plain negative whole fraction (Text.trimChars raw.toList)) :
    parse raw = .error (.notPlain (Text.trim raw)) := by
  have hnone : plain? (signOf (Text.trimChars raw.toList)).2 = none := by
    cases hp : plain? (signOf (Text.trimChars raw.toList)).2 with
    | none => rfl
    | some p => exact absurd (plain_iff.mpr ⟨rfl, hp⟩) (h _ p.1 p.2)
  unfold parse
  simp only [hnone, Text.trim]

end TaxReturn.Decimal
