/-!
# Hexadecimal numbers

Identifiers travel as hexadecimal text of a fixed width: written in lower case with leading zeros,
read in either case.

* `length_fixed`: the written form has exactly the width asked for.
* `read_fixed`: reading takes back what was written, for a number that fits the width.
-/

namespace TraceSampler.Text.Hex

/-- The lower-case digit of a number below sixteen. -/
def digit (n : Nat) : Char :=
  if n < 10 then Char.ofNat (48 + n) else Char.ofNat (87 + n)

/-- The value of a digit, in either case. -/
def value? (c : Char) : Option Nat :=
  if '0' ≤ c ∧ c ≤ '9' then some (c.toNat - 48)
  else if 'a' ≤ c ∧ c ≤ 'f' then some (c.toNat - 87)
  else if 'A' ≤ c ∧ c ≤ 'F' then some (c.toNat - 55)
  else none

def isDigit (c : Char) : Bool := (value? c).isSome

/-- The last `width` digits of `n`, with leading zeros. -/
def fixed : Nat → Nat → List Char
  | 0, _ => []
  | width + 1, n => fixed width (n / 16) ++ [digit (n % 16)]

/-- The digits of `n` without leading zeros; zero is one digit. -/
def plain (n : Nat) : List Char := fixed (n.log2 / 4 + 1) n

/-- The number that a run of digits denotes after the digits already read. -/
def readFrom (acc : Nat) : List Char → Option Nat
  | [] => some acc
  | c :: r =>
    match value? c with
    | some v => readFrom (acc * 16 + v) r
    | none => none

/-- The number that a text of digits denotes; the empty text denotes none. -/
def read? : List Char → Option Nat
  | [] => none
  | c :: r => readFrom 0 (c :: r)

/-- Two digits: one byte in hexadecimal, where a plus sign may stand for the first digit. -/
def readByte? : List Char → Option Nat
  | ['+', b] => value? b
  | [a, b] => read? [a, b]
  | _ => none

@[simp] theorem length_fixed (width n : Nat) : (fixed width n).length = width := by
  induction width generalizing n with
  | zero => rfl
  | succ w ih => simp [fixed, ih]

theorem value?_digit {n : Nat} (h : n < 16) : value? (digit n) = some n := by
  have : ∀ m : Fin 16, value? (digit m.val) = some m.val := by decide
  exact this ⟨n, h⟩

theorem readFrom_append (acc : Nat) (s t : List Char) :
    readFrom acc (s ++ t) = (readFrom acc s).bind fun n => readFrom n t := by
  induction s generalizing acc with
  | nil => rfl
  | cons c r ih =>
    simp only [List.cons_append, readFrom]
    cases value? c with
    | none => rfl
    | some v => exact ih _

/-- How many numbers can be written with so many digits. -/
def room : Nat → Nat
  | 0 => 1
  | width + 1 => 16 * room width

/-- Reading goes on from what stands before the digits. -/
theorem readFrom_fixed (acc width n : Nat) :
    readFrom acc (fixed width n) = some (acc * room width + n % room width) := by
  induction width generalizing n acc with
  | zero => simp [fixed, readFrom, room, Nat.mod_one]
  | succ w ih =>
    rw [fixed, readFrom_append, ih]
    simp only [Option.bind_some, readFrom, value?_digit (Nat.mod_lt n (by decide : 16 > 0))]
    congr 1
    have hn : n % (16 * room w) = n % 16 + 16 * (n / 16 % room w) := Nat.mod_mul
    have ha : acc * (16 * room w) = acc * room w * 16 := by
      rw [Nat.mul_comm 16, Nat.mul_assoc]
    rw [room, hn, ha]
    omega

/-- Reading takes back what was written. -/
theorem read_fixed {width n : Nat} (hw : 0 < width) (h : n < room width) :
    read? (fixed width n) = some n := by
  have hne : fixed width n ≠ [] := by
    intro e
    have := congrArg List.length e
    simp at this
    omega
  obtain ⟨c, r, hcr⟩ := List.exists_cons_of_ne_nil hne
  have := readFrom_fixed 0 width n
  rw [hcr] at this ⊢
  simpa [read?, Nat.mod_eq_of_lt h] using this

/-- Written digits are digits. -/
theorem isDigit_of_mem_fixed {width n : Nat} {c : Char} (h : c ∈ fixed width n) :
    isDigit c = true := by
  induction width generalizing n with
  | zero => simp [fixed] at h
  | succ w ih =>
    rcases List.mem_append.1 h with h | h
    · exact ih h
    · rw [List.mem_singleton.1 h, isDigit, value?_digit (Nat.mod_lt n (by decide : 16 > 0))]
      rfl

end TraceSampler.Text.Hex
