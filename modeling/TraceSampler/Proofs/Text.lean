import TraceSampler.Text.Basic
import TraceSampler.Text.Hex

/-!
# Trimmed texts, cut texts and their bytes

What the header formats need to know of plain text, so that reading a header can be shown to take
back what was written.

* `trimmed_trim`, `trim_eq_self`: trimming reaches the texts without blank ends, and leaves them.
* `Solid.append`, `Solid.join`, `Solid.flatMap`: texts put together from pieces that start and end
  with a character that is not blank do so too.
* `splitFirst?_append`: a key without the delimiter is cut off exactly.
* `split_eq_iff`: the pieces of a text are those without the delimiter that it is joined from.
* `mem_join`: joining brings in no character but those of the separator.
* `joinWith_eq_intercalate`: joining strings is the library's own.
* `bytes_join_cons`: the bytes of joined pieces, the separators between them included.
* `Hex.isBlank_of_isDigit`: digits are not blank.
* `Hex.isDigit_iff_mem_digits`: which characters are digits.
* `Hex.readByte?_fixed`: a byte is read back from its two digits.
-/

namespace TraceSampler.Text

/-! ## Trimming -/

/-- No blank character stands at either end. -/
structure Trimmed (s : List Char) : Prop where
  head : ∀ c ∈ s.head?, isBlank c = false
  last : ∀ c ∈ s.getLast?, isBlank c = false

theorem trimStart_eq_self {s : List Char} (h : ∀ c ∈ s.head?, isBlank c = false) :
    trimStart s = s := by
  cases s with
  | nil => rfl
  | cons c r =>
    have hc : isBlank c = false := h c (by simp)
    exact List.dropWhile_cons_of_neg (by simp [hc])

/-- Trimming the end is trimming the start of the reversed text. -/
theorem trimEnd_eq (s : List Char) : trimEnd s = (trimStart s.reverse).reverse := rfl

theorem trimEnd_eq_self {s : List Char} (h : ∀ c ∈ s.getLast?, isBlank c = false) :
    trimEnd s = s := by
  rw [trimEnd_eq, trimStart_eq_self (by simpa using h), List.reverse_reverse]

/-- A text without blank ends has nothing to trim. -/
theorem trim_eq_self {s : List Char} (h : Trimmed s) : trim s = s := by
  rw [trim, trimStart_eq_self h.head, trimEnd_eq_self h.last]

theorem head_trimStart (s : List Char) : ∀ c ∈ (trimStart s).head?, isBlank c = false := by
  intro c hc
  have h := List.head?_dropWhile_not isBlank s
  rw [trimStart, Option.mem_def] at hc
  simpa [hc] using h

theorem trimEnd_isPrefix (s : List Char) : trimEnd s <+: s := by
  have h : trimStart s.reverse <:+ s.reverse := List.dropWhile_suffix isBlank
  simpa [trimEnd_eq] using List.reverse_prefix.2 h

/-- Trimming leaves no blank character at either end. -/
theorem trimmed_trim (s : List Char) : Trimmed (trim s) := by
  constructor
  · intro c hc
    -- trimming the end cannot change the first character of what is left
    obtain ⟨r, hr⟩ := trimEnd_isPrefix (trimStart s)
    apply head_trimStart s c
    rw [← hr]
    rw [trim] at hc
    cases ht : trimEnd (trimStart s) with
    | nil => simp [ht] at hc
    | cons x t => simpa [ht] using hc
  · intro c hc
    rw [trim, trimEnd_eq, List.getLast?_reverse] at hc
    exact head_trimStart _ c hc

theorem trim_sublist (s : List Char) : (trim s).Sublist s :=
  (trimEnd_isPrefix (trimStart s)).sublist.trans (List.dropWhile_sublist isBlank)

theorem mem_of_mem_trim {c : Char} {s : List Char} (h : c ∈ trim s) : c ∈ s :=
  (trim_sublist s).subset h

/-- A text without any blank character is trimmed. -/
theorem trimmed_of_forall {s : List Char} (h : ∀ c ∈ s, isBlank c = false) : Trimmed s :=
  ⟨fun c hc => h c (List.mem_of_mem_head? hc), fun c hc => h c (List.mem_of_mem_getLast? hc)⟩

/-- Two texts in a row have the ends of the first and of the second. -/
theorem trimmed_append {a b : List Char} (ha : a ≠ []) (hb : b ≠ [])
    (hhead : ∀ c ∈ a.head?, isBlank c = false) (hlast : ∀ c ∈ b.getLast?, isBlank c = false) :
    Trimmed (a ++ b) := by
  constructor
  · intro c hc
    cases a with
    | nil => exact absurd rfl ha
    | cons x r => exact hhead c (by simpa using hc)
  · intro c hc
    have hx : b.getLast? = some (b.getLast hb) := List.getLast?_eq_some_getLast hb
    rw [List.getLast?_append, hx, Option.some_or, ← hx] at hc
    exact hlast c hc

/-! ## Solid texts -/

/-- The text starts and ends with a character that is not blank, so there is one. -/
structure Solid (s : List Char) : Prop where
  first : ∃ c r, s = c :: r ∧ isBlank c = false
  last : ∃ r c, s = r ++ [c] ∧ isBlank c = false

theorem Solid.ne_nil {s : List Char} (h : Solid s) : s ≠ [] := by
  obtain ⟨c, r, rfl, -⟩ := h.first
  exact List.cons_ne_nil c r

theorem Solid.trimmed {s : List Char} (h : Solid s) : Trimmed s := by
  constructor
  · obtain ⟨c, r, rfl, hc⟩ := h.first
    simpa using hc
  · obtain ⟨r, c, rfl, hc⟩ := h.last
    simpa using hc

/-- Trimming makes a text solid, unless nothing is left of it. -/
theorem solid_of_trimmed {s : List Char} (hne : s ≠ []) (h : Trimmed s) : Solid s := by
  constructor
  · obtain ⟨c, r, rfl⟩ := List.exists_cons_of_ne_nil hne
    exact ⟨c, r, rfl, h.head c rfl⟩
  · have hlast : s.getLast? = some (s.getLast hne) := List.getLast?_eq_some_getLast hne
    exact ⟨s.dropLast, s.getLast hne, (List.dropLast_concat_getLast hne).symm, h.last _ hlast⟩

/-- A text without blanks is solid. Both hypotheses can be decided. -/
theorem solid_of_all {s : List Char} (hne : s ≠ []) (h : s.all (fun c => !isBlank c) = true) :
    Solid s :=
  solid_of_trimmed hne (trimmed_of_forall (by simpa using h))

/-- Whatever stands between two solid texts, the whole is solid. -/
theorem Solid.append {a b : List Char} (ha : Solid a) (m : List Char) (hb : Solid b) :
    Solid (a ++ m ++ b) := by
  constructor
  · obtain ⟨c, r, rfl, hc⟩ := ha.first
    exact ⟨c, r ++ m ++ b, by simp, hc⟩
  · obtain ⟨r, c, rfl, hc⟩ := hb.last
    exact ⟨a ++ m ++ r, c, by simp, hc⟩

/-- A join of solid pieces is solid, whatever the separator is. -/
theorem Solid.join (sep : List Char) {ps : List (List Char)} (hne : ps ≠ [])
    (h : ∀ p ∈ ps, Solid p) : Solid (join sep ps) := by
  induction ps with
  | nil => exact absurd rfl hne
  | cons p ps ih =>
    have hp : Solid p := h p (by simp)
    cases ps with
    | nil => exact hp
    | cons q qs => exact hp.append sep (ih (by simp) fun x hx => h x (List.mem_cons_of_mem p hx))

/-- Spelling every character as a solid text keeps a text solid. -/
theorem Solid.flatMap {f : Char → List Char} (hf : ∀ c, isBlank c = false → Solid (f c))
    {s : List Char} (h : Solid s) : Solid (s.flatMap f) := by
  constructor
  · obtain ⟨c, r, rfl, hc⟩ := h.first
    obtain ⟨x, t, hx, hblank⟩ := (hf c hc).first
    exact ⟨x, t ++ r.flatMap f, by simp [hx], hblank⟩
  · obtain ⟨r, c, rfl, hc⟩ := h.last
    obtain ⟨t, x, hx, hblank⟩ := (hf c hc).last
    exact ⟨r.flatMap f ++ t, x, by simp [hx], hblank⟩

/-! ## Cutting -/

/-- A first part without the delimiter is cut off exactly. -/
theorem splitFirst?_append {d : Char} {a : List Char} (h : d ∉ a) (b : List Char) :
    splitFirst? d (a ++ d :: b) = some (a, b) :=
  splitFirst?_eq_some_iff.2 ⟨rfl, h⟩

/-- The pieces of a text are those without the delimiter that it is joined from. -/
theorem split_eq_iff {d : Char} {s : List Char} {ps : List (List Char)} :
    split d s = ps ↔ ps ≠ [] ∧ s = join [d] ps ∧ ∀ p ∈ ps, d ∉ p := by
  constructor
  · rintro rfl
    exact ⟨split_ne_nil d s, (join_split d s).symm, fun p hp => not_mem_of_mem_split hp⟩
  · rintro ⟨hne, rfl, hfree⟩
    exact split_join hne hfree

/-! ## Joining -/

theorem joinWith_eq_intercalate (sep : String) (parts : List String) :
    joinWith sep parts = sep.intercalate parts := by
  have hjoin : ∀ pieces : List (List Char),
      join sep.toList pieces = sep.toList.intercalate pieces := by
    intro pieces
    induction pieces with
    | nil => rfl
    | cons p ps ih =>
      cases ps with
      | nil => simp [join]
      | cons q qs => rw [join_cons _ _ (List.cons_ne_nil q qs), ih, List.intercalate_cons_cons]
  rw [← String.toList_inj, String.toList_intercalate, ← hjoin, joinWith, String.toList_ofList]

theorem join_concat (sep q : List Char) {ps : List (List Char)} (h : ps ≠ []) :
    join sep (ps ++ [q]) = join sep ps ++ sep ++ q := by
  induction ps with
  | nil => exact absurd rfl h
  | cons p ps ih =>
    cases ps with
    | nil => rfl
    | cons r rs =>
      rw [List.cons_append, join_cons sep p (by simp), ih (by simp), join_cons sep p (by simp)]
      simp only [List.append_assoc]

/-- Every character of a join comes from a piece or from the separator. -/
theorem mem_join {c : Char} {sep : List Char} {ps : List (List Char)} (h : c ∈ join sep ps) :
    c ∈ sep ∨ ∃ p ∈ ps, c ∈ p := by
  induction ps with
  | nil => simp [join] at h
  | cons p ps ih =>
    cases ps with
    | nil => exact Or.inr ⟨p, by simp, h⟩
    | cons q qs =>
      simp only [join, List.mem_append] at h
      rcases h with (h | h) | h
      · exact Or.inr ⟨p, by simp, h⟩
      · exact Or.inl h
      · rcases ih h with hsep | ⟨piece, hpiece, hc⟩
        · exact Or.inl hsep
        · exact Or.inr ⟨piece, List.mem_cons_of_mem p hpiece, hc⟩

/-! ## Bytes -/

/-- The bytes of a text in its encoding. -/
def bytes (s : List Char) : Nat := (String.ofList s).utf8ByteSize

@[simp] theorem bytes_append (a b : List Char) : bytes (a ++ b) = bytes a + bytes b := by
  simp [bytes, String.ofList_append]

theorem bytes_cons (c : Char) (s : List Char) : bytes (c :: s) = bytes [c] + bytes s :=
  bytes_append [c] s

@[simp] theorem bytes_toList (s : String) : bytes s.toList = s.utf8ByteSize := by
  simp [bytes]

theorem bytes_singleton (c : Char) : bytes [c] = c.utf8Size := by
  rw [bytes, ← String.singleton_eq_ofList, String.utf8ByteSize_singleton]

/-- In ASCII text every character takes one byte. -/
theorem bytes_ascii {s : List Char} (h : ∀ c ∈ s, c.toNat < 0x80) : bytes s = s.length := by
  induction s with
  | nil => rfl
  | cons c r ih =>
    have hc : c.utf8Size = 1 := by
      have hlt : c.toNat < 0x80 := h c (by simp)
      rw [Char.utf8Size_eq_one_iff, UInt32.le_iff_toNat_le]
      exact Nat.le_of_lt_succ hlt
    rw [bytes_cons, bytes_singleton, hc, ih fun x hx => h x (List.mem_cons_of_mem c hx),
      List.length_cons, Nat.add_comm]

/-- A further piece of a join takes its own bytes and those of one separator. -/
theorem bytes_join_cons (sep p : List Char) {ps : List (List Char)} (h : ps ≠ []) :
    bytes (join sep (p :: ps)) = bytes p + bytes sep + bytes (join sep ps) := by
  rw [join_cons sep p h, bytes_append, bytes_append]

/-! ## Hexadecimal digits -/

namespace Hex

/-- The digits lie in three ranges of code points. -/
theorem range_of_isDigit {c : Char} (h : isDigit c = true) :
    (48 ≤ c.toNat ∧ c.toNat ≤ 57) ∨ (97 ≤ c.toNat ∧ c.toNat ≤ 102) ∨
      (65 ≤ c.toNat ∧ c.toNat ≤ 70) := by
  rw [isDigit, value?] at h
  split at h
  · next hc => exact Or.inl hc
  · split at h
    · next hc => exact Or.inr (Or.inl hc)
    · split at h
      · next hc => exact Or.inr (Or.inr hc)
      · simp at h

theorem isBlank_of_isDigit {c : Char} (h : isDigit c = true) : isBlank c = false := by
  have hr := range_of_isDigit h
  simp only [isBlank, Bool.or_eq_false_iff, Bool.and_eq_false_iff, decide_eq_false_iff_not,
    beq_eq_false_iff_ne]
  omega

theorem ascii_of_isDigit {c : Char} (h : isDigit c = true) : c.toNat < 0x80 := by
  have hr := range_of_isDigit h
  omega

/-- The digits, the letters among them in both cases. -/
def digits : List Char := "0123456789abcdefABCDEF".toList

theorem isDigit_iff_mem_digits {c : Char} : isDigit c = true ↔ c ∈ digits := by
  constructor
  · intro h
    have hranges : ∀ n ∈ List.range' 48 10 ++ List.range' 97 6 ++ List.range' 65 6,
        Char.ofNat n ∈ digits := by decide
    have hmem : c.toNat ∈ List.range' 48 10 ++ List.range' 97 6 ++ List.range' 65 6 := by
      simp only [List.mem_append, List.mem_range'_1]
      have hr := range_of_isDigit h
      omega
    simpa using hranges c.toNat hmem
  · have hdigits : digits.all isDigit = true := by decide
    exact List.all_eq_true.1 hdigits c

/-- Fields of digits can be told apart by the hyphens between them. -/
theorem hyphen_not_mem_fixed (width n : Nat) : '-' ∉ fixed width n := by
  intro h
  exact absurd (isDigit_of_mem_fixed h) (by decide)

/-- A byte is read back from its two digits. -/
theorem readByte?_fixed {n : Nat} (h : n < 256) : readByte? (fixed 2 n) = some n := by
  have htwo : fixed 2 n = [digit (n / 16 % 16), digit (n % 16)] := rfl
  have hplus : digit (n / 16 % 16) ≠ '+' := by
    intro hsign
    have hdigit : isDigit (digit (n / 16 % 16)) = true :=
      isDigit_of_mem_fixed (by rw [htwo]; exact List.mem_cons_self)
    rw [hsign] at hdigit
    exact absurd hdigit (by decide)
  have hread : read? (fixed 2 n) = some n := read_fixed (by decide) h
  rw [htwo] at hread ⊢
  rw [readByte?]
  · exact hread
  · exact hplus

end Hex

end TraceSampler.Text
