import Mathlib.Data.Bool.AllAny
import Mathlib.Data.List.Induction
import TraceSampler.Proofs.Text

/-!
# Hexadecimal digits in either case

A run of hexadecimal digits is read in either case and written in lower case, so what is written
for a number that was read is the text that it was read from, in lower case.

* `exists_readFrom`: a run of digits denotes a number that fits its width, and that number is
  written as the run in lower case.
* `readFrom_map_lowerDigit`: the case of the digits makes no difference to the number.
* `readFrom_eq_zero_iff`: only zeros denote zero.
* `readByte?_eq_some_iff`: what is read as a byte.
-/

namespace TraceSampler.Text.Hex

/-! ## One digit -/

/-- The digits that have two cases. -/
def letters : List Char := "abcdefABCDEF".toList

/-- A hexadecimal digit in lower case; any other character as it is. -/
def lowerDigit (c : Char) : Char := if isDigit c then c.toLower else c

/-- A digit denotes a number below sixteen, which is written as the digit in lower case. -/
theorem exists_value?_of_isDigit {c : Char} (h : isDigit c = true) :
    ∃ v < 16, value? c = some v ∧ digit v = c.toLower := by
  have hall : ∀ d ∈ digits, ∃ v < 16, value? d = some v ∧ digit v = d.toLower :=
    List.all_iff_forall_prop.1 (by decide)
  exact hall c (isDigit_iff_mem_digits.1 h)

/-- Zero is the only digit that denotes zero. -/
theorem value?_eq_zero_iff {c : Char} : value? c = some 0 ↔ c = '0' := by
  constructor
  · intro h
    have hall : ∀ d ∈ digits, value? d = some 0 → d = '0' :=
      List.all_iff_forall_prop.1 (by decide)
    have hdigit : isDigit c = true := by simp [isDigit, h]
    exact hall c (isDigit_iff_mem_digits.1 hdigit) h
  · rintro rfl
    decide

theorem lowerDigit_of_isDigit {c : Char} (h : isDigit c = true) : lowerDigit c = c.toLower := by
  rw [lowerDigit, if_pos h]

theorem lowerDigit_of_not_isDigit {c : Char} (h : isDigit c = false) : lowerDigit c = c := by
  rw [lowerDigit, h]
  rfl

/-- A digit denotes the same in lower case, and what is no digit does not become one. -/
theorem value?_lowerDigit (c : Char) : value? (lowerDigit c) = value? c := by
  cases h : isDigit c with
  | false => rw [lowerDigit_of_not_isDigit h]
  | true =>
    have hall : ∀ d ∈ digits, value? d.toLower = value? d :=
      List.all_iff_forall_prop.1 (by decide)
    rw [lowerDigit_of_isDigit h, hall c (isDigit_iff_mem_digits.1 h)]

@[simp] theorem isDigit_lowerDigit (c : Char) : isDigit (lowerDigit c) = isDigit c := by
  rw [isDigit, value?_lowerDigit, isDigit]

@[simp] theorem isBlank_lowerDigit (c : Char) : isBlank (lowerDigit c) = isBlank c := by
  cases h : isDigit c with
  | false => rw [lowerDigit_of_not_isDigit h]
  | true =>
    have hlower : isDigit (lowerDigit c) = true := by rw [isDigit_lowerDigit, h]
    rw [isBlank_of_isDigit h, isBlank_of_isDigit hlower]

/-- Only letters change their case: any other character comes from itself. -/
theorem lowerDigit_eq_iff {c x : Char} (hx : x ∉ letters) : lowerDigit c = x ↔ c = x := by
  cases h : isDigit c with
  | false => rw [lowerDigit_of_not_isDigit h]
  | true =>
    have hall : ∀ d ∈ digits, d.toLower = d ∨ d ∈ letters ∧ d.toLower ∈ letters :=
      List.all_iff_forall_prop.1 (by decide)
    rw [lowerDigit_of_isDigit h]
    rcases hall c (isDigit_iff_mem_digits.1 h) with hsame | ⟨hc, hlower⟩
    · rw [hsame]
    · constructor
      · rintro rfl
        exact absurd hlower hx
      · rintro rfl
        exact absurd hc hx

theorem map_lowerDigit_eq_iff {s t : List Char} (ht : ∀ c ∈ t, c ∉ letters) :
    s.map lowerDigit = t ↔ s = t := by
  induction t generalizing s with
  | nil => exact List.map_eq_nil_iff
  | cons x t ih =>
    have hx : x ∉ letters := ht x (by simp)
    have hrest : ∀ {r : List Char}, r.map lowerDigit = t ↔ r = t :=
      ih fun c hc => ht c (List.mem_cons_of_mem x hc)
    cases s with
    | nil => simp
    | cons c r => simp [lowerDigit_eq_iff hx, hrest]

/-- Trimming does not look at the case of digits. -/
theorem trim_map_lowerDigit (s : List Char) : trim (s.map lowerDigit) = (trim s).map lowerDigit := by
  have hblank : isBlank ∘ lowerDigit = isBlank := by
    funext c
    exact isBlank_lowerDigit c
  have hstart : ∀ t : List Char, trimStart (t.map lowerDigit) = (trimStart t).map lowerDigit := by
    intro t
    rw [trimStart, List.dropWhile_map, hblank, trimStart]
  rw [trim, hstart, trimEnd_eq, ← List.map_reverse, hstart, ← List.map_reverse, ← trimEnd_eq, trim]

theorem toLower_toLower_of_isDigit {c : Char} (h : isDigit c = true) :
    c.toLower.toLower = c.toLower := by
  have hall : ∀ d ∈ digits, d.toLower.toLower = d.toLower :=
    List.all_iff_forall_prop.1 (by decide)
  exact hall c (isDigit_iff_mem_digits.1 h)

/-! ## Runs of digits -/

/-- One more digit counts for itself and moves the others up. -/
theorem readFrom_concat {s : List Char} {c : Char} {acc n v : Nat} (hs : readFrom acc s = some n)
    (hc : value? c = some v) : readFrom acc (s ++ [c]) = some (n * 16 + v) := by
  rw [readFrom_append, hs, Option.bind_some]
  simp [readFrom, hc]

/-- A run of digits denotes a number that fits its width, and that number is written as the run in
lower case. -/
theorem exists_readFrom {s : List Char} (h : ∀ c ∈ s, isDigit c = true) :
    ∃ n < room s.length, readFrom 0 s = some n ∧ fixed s.length n = s.map Char.toLower := by
  -- writing takes the last digit off first, so the induction is on the end of the run
  induction s using List.reverseRecOn with
  | nil => exact ⟨0, by decide, rfl, rfl⟩
  | append_singleton s c ih =>
    obtain ⟨n, hroom, hread, hwritten⟩ := ih fun x hx => h x (by simp [hx])
    obtain ⟨v, hv, hvalue, hdigit⟩ := exists_value?_of_isDigit (h c (by simp))
    have hdiv : (n * 16 + v) / 16 = n := by omega
    have hmod : (n * 16 + v) % 16 = v := by omega
    refine ⟨n * 16 + v, ?_, readFrom_concat hread hvalue, ?_⟩
    · rw [List.length_append, List.length_singleton, room]
      omega
    · rw [List.length_append, List.length_singleton, fixed, hdiv, hmod, hwritten, hdigit,
        List.map_append, List.map_singleton]

/-- The case of the digits makes no difference to the number. -/
theorem readFrom_map_lowerDigit (acc : Nat) (s : List Char) :
    readFrom acc (s.map lowerDigit) = readFrom acc s := by
  induction s generalizing acc with
  | nil => rfl
  | cons c r ih =>
    rw [List.map_cons, readFrom, readFrom, value?_lowerDigit]
    cases value? c with
    | none => rfl
    | some v => exact ih (acc * 16 + v)

/-- Only zeros denote zero. -/
theorem readFrom_eq_zero_iff {acc : Nat} {s : List Char} :
    readFrom acc s = some 0 ↔ acc = 0 ∧ ∀ c ∈ s, c = '0' := by
  induction s generalizing acc with
  | nil => simp [readFrom]
  | cons c r ih =>
    rw [readFrom, List.forall_mem_cons, ← value?_eq_zero_iff]
    cases value? c with
    | none => simp
    | some v =>
      have hsum : acc * 16 + v = 0 ↔ acc = 0 ∧ v = 0 := by omega
      simp only [ih, hsum, Option.some.injEq, and_assoc]

/-! ## Bytes -/

/-- Two digits, in either case, and the number that they denote. -/
inductive TwoDigits : List Char → Nat → Prop
  | intro {a b : Char} {x y : Nat} (first : value? a = some x) (second : value? b = some y) :
      TwoDigits [a, b] (16 * x + y)

/-- A plus sign before one digit, and the number that the digit denotes. -/
inductive SignedDigit : List Char → Nat → Prop
  | intro {b : Char} {y : Nat} (digit : value? b = some y) : SignedDigit ['+', b] y

/-- A byte is read from its two digits, and from a plus sign before one digit. -/
theorem readByte?_eq_some_iff {s : List Char} {n : Nat} :
    readByte? s = some n ↔ TwoDigits s n ∨ SignedDigit s n := by
  constructor
  · intro h
    unfold readByte? at h
    split at h
    · exact Or.inr ⟨h⟩
    · next a b _ =>
      cases ha : value? a with
      | none => simp [read?, readFrom, ha] at h
      | some x =>
        cases hb : value? b with
        | none => simp [read?, readFrom, ha, hb] at h
        | some y =>
          have hn : x * 16 + y = n := by simpa [read?, readFrom, ha, hb] using h
          rw [← hn, Nat.mul_comm]
          exact Or.inl ⟨ha, hb⟩
    · simp at h
  · rintro (h | h)
    · cases h with
      | @intro a b x y first second =>
        have hplus : value? '+' = none := by decide
        have hsign : a ≠ '+' := by
          rintro rfl
          simp [hplus] at first
        rw [readByte?]
        · simp [read?, readFrom, first, second, Nat.mul_comm]
        · exact hsign
    · cases h with
      | intro digit => exact digit

end TraceSampler.Text.Hex
