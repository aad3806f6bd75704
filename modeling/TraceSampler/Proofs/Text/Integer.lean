import Mathlib.Algebra.Group.Nat.Defs
import TraceSampler.Text.Integer

/-!
# Decimal numerals

A numeral is a run of decimal digits, and what it denotes does not depend on how it is read.

* `readNat?_eq_some_iff`: what reads as a number is a numeral for it.
* `readUnsigned64?_eq_some_iff`: so it is for a number of 64 bits, where a plus sign may precede the
  digits.
-/

namespace TraceSampler.Text.Integer

/-- The text is a run of decimal digits, and they denote the number. -/
structure Numeral (s : List Char) (n : Nat) : Prop where
  nonempty : s ≠ []
  digits : ∀ c ∈ s, c.isDigit = true
  value : Nat.ofDigitChars 10 s 0 = n

theorem value?_eq_some_iff {c : Char} {v : Nat} :
    value? c = some v ↔ c.isDigit = true ∧ c.toNat - '0'.toNat = v := by
  have hdigit : '0' ≤ c ∧ c ≤ '9' ↔ c.isDigit = true := by
    rw [Char.isDigit, Bool.and_eq_true, decide_eq_true_iff, decide_eq_true_iff]
    rfl
  rw [value?, Option.ite_none_right_eq_some, hdigit, Option.some.injEq]
  rfl

/-- Digits go on from the number that was read before them. -/
theorem readFrom_eq_some_iff {acc n : Nat} {s : List Char} :
    readFrom acc s = some n ↔ (∀ c ∈ s, c.isDigit = true) ∧ Nat.ofDigitChars 10 s acc = n := by
  induction s generalizing acc with
  | nil => simp [readFrom]
  | cons c r ih =>
    rw [readFrom, List.forall_mem_cons, Nat.ofDigitChars_cons]
    cases hv : value? c with
    | none =>
      have hnot : ¬ c.isDigit = true := by
        intro hdigit
        rw [value?_eq_some_iff.2 ⟨hdigit, rfl⟩] at hv
        exact Option.some_ne_none _ hv
      simp [hnot]
    | some v =>
      obtain ⟨hdigit, rfl⟩ := value?_eq_some_iff.1 hv
      rw [ih, Nat.mul_comm acc 10]
      simp only [hdigit, true_and]

/-- What reads as a number is a numeral for it. -/
theorem readNat?_eq_some_iff {s : List Char} {n : Nat} : readNat? s = some n ↔ Numeral s n := by
  constructor
  · intro h
    cases s with
    | nil => simp [readNat?] at h
    | cons c r =>
      obtain ⟨hdigits, hvalue⟩ := readFrom_eq_some_iff.1 h
      exact ⟨List.cons_ne_nil c r, hdigits, hvalue⟩
  · intro h
    cases s with
    | nil => exact absurd rfl h.nonempty
    | cons c r => exact readFrom_eq_some_iff.2 ⟨h.digits, h.value⟩

/-- A plus sign is no digit. -/
theorem Numeral.ne_plus {s r : List Char} {n : Nat} (h : Numeral s n) : s ≠ '+' :: r := by
  rintro rfl
  exact absurd (h.digits '+' List.mem_cons_self) (by decide)

/-- What reads as a number of 64 bits is a numeral for it, alone or behind a plus sign. -/
theorem readUnsigned64?_eq_some_iff {s : List Char} {n : Nat} :
    readUnsigned64? s = some n ↔
      (Numeral s n ∨ ∃ digits, s = '+' :: digits ∧ Numeral digits n) ∧ n < 2 ^ 64 := by
  unfold readUnsigned64?
  rw [Option.filter_eq_some_iff, readNat?_eq_some_iff, decide_eq_true_iff]
  refine and_congr ?_ Iff.rfl
  split
  · next r =>
    constructor
    · exact fun h => .inr ⟨r, rfl, h⟩
    · rintro (h | ⟨digits, hs, h⟩)
      · exact absurd rfl h.ne_plus
      · obtain rfl : r = digits := List.tail_eq_of_cons_eq hs
        exact h
  · next hs =>
    constructor
    · exact .inl
    · rintro (h | ⟨digits, rfl, -⟩)
      · exact h
      · exact absurd rfl (hs digits)

end TraceSampler.Text.Integer
