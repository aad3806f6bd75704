import TraceSampler.Text.Basic
import TraceSampler.Text.Hex

/-!
# The trace state header

An ordered list of members `key=value`. The leftmost member belongs to the vendor that last touched
the trace; this library's own member has the key `sw` and names its span and whether it was
sampled. An outbound header is bounded in size and in members, so not every foreign member may
survive: `packed` says which ones do.

* `get?_insert_self`, `get?_insert_of_ne`, `get?_erase_self`, `get?_erase_of_ne`: the state reads as
  a map.
* `entries_erase_of_nodup`: where no key is held twice, no other member of a key stays behind.
* `nodup_keys_ofHeader`: a parsed state holds no key twice.
-/

namespace TraceSampler

structure TraceState where
  entries : List (String × String) := []
  deriving DecidableEq, Repr

namespace TraceState

/-! ## Limits and keys -/

/-- The most bytes of an outbound header. -/
def maxBytes : Nat := 512

/-- The most members of an outbound header. -/
def maxMembers : Nat := 32

/-- A member of this length may be given up to make room for others. -/
def oversizeBytes : Nat := 129

/-- The key of this library's own member. -/
def vendorKey : String := "sw"

/-- The key under which the answer to a trigger-trace request travels within the process. -/
def responseKey : String := "xtrace_options_response"

/-- Members under these keys are never forwarded. -/
def isReserved (key : String) : Bool := key == vendorKey || key == responseKey

/-! ## Reading -/

/-- Reads one member. It needs a key without blank characters and a value, both not empty. -/
def readMember? (s : List Char) : Option (String × String) :=
  match Text.splitFirst? '=' (Text.trim s) with
  | none => none
  | some (k, v) =>
    let key := Text.trim k
    let value := Text.trim v
    if key.isEmpty || value.isEmpty || key.any Text.isBlank then none
    else some (String.ofList key, String.ofList value)

/-- The leftmost member of every key. -/
def keepFirst : List (String × String) → List (String × String)
  | [] => []
  | (k, v) :: r => (k, v) :: (keepFirst r).filter (·.1 != k)

/-- The members of a header; what is no member is left out, and a repeated key counts once. -/
def ofHeader (header : String) : TraceState :=
  ⟨keepFirst ((Text.split ',' header.toList).filterMap readMember?)⟩

/-! ## The state as a map -/

def keys (s : TraceState) : List String := s.entries.map (·.1)

def get? (s : TraceState) (key : String) : Option String := s.entries.lookup key

/-- Takes out the first member under a key, with its value. -/
def remove (s : TraceState) (key : String) : TraceState × Option String :=
  match s.entries.findIdx? (·.1 == key) with
  | none => (s, none)
  | some i => (⟨s.entries.eraseIdx i⟩, s.entries[i]?.map (·.2))

/-- The state without the first member under a key. -/
def erase (s : TraceState) (key : String) : TraceState := (s.remove key).1

/-- Sets a member and makes it the leftmost one. -/
def insert (s : TraceState) (key value : String) : TraceState :=
  ⟨(key, value) :: (s.erase key).entries⟩

/-! ## Writing -/

def memberText (m : String × String) : List Char := m.1.toList ++ '=' :: m.2.toList

/-- All members, without any limit. -/
def text (s : TraceState) : String :=
  String.ofList (Text.join [','] (s.entries.map memberText))

/-- The bytes of a member without the comma before it. -/
def memberBytes (m : String × String) : Nat := m.1.utf8ByteSize + 1 + m.2.utf8ByteSize

/-- The members that other vendors own. -/
def foreign (s : TraceState) : List (String × String) := s.entries.filter fun m => !isReserved m.1

/-- The members that fit behind a header of `bytes` bytes and `members` members, in their order.
While `sacrifice` is set, the first oversize member that would fit is given up. -/
def packFrom (bytes members : Nat) (sacrifice : Bool) :
    List (String × String) → List (String × String)
  | [] => []
  | m :: r =>
    let size := memberBytes m
    if members ≥ maxMembers || bytes + 1 + size > maxBytes then packFrom bytes members sacrifice r
    else if sacrifice && size ≥ oversizeBytes then packFrom bytes members false r
    else m :: packFrom (bytes + 1 + size) (members + 1) sacrifice r

/-- The bytes that members take with the commas before them. -/
def bytesWithCommas : List (String × String) → Nat
  | [] => 0
  | m :: r => memberBytes m + 1 + bytesWithCommas r

/-- The members that go out behind a vendor member with the given value. One oversize member is
given up when all of them together are too long. -/
def packed (s : TraceState) (vendorValue : String) : List (String × String) :=
  let start := memberBytes (vendorKey, vendorValue)
  packFrom start 1 (bytesWithCommas s.foreign + start > maxBytes) s.foreign

/-- The state that goes out with the given vendor value: the vendor member and then the foreign
members that fit. -/
def outbound (s : TraceState) (vendorValue : String) : TraceState :=
  ⟨(vendorKey, vendorValue) :: s.packed vendorValue⟩

/-! ## The vendor member -/

/-- The text of the flags that follow a span identifier. -/
def sampledText (sampled : Bool) : List Char := if sampled then ['0', '1'] else ['0', '0']

/-- The value of the vendor member for a span. -/
def vendorValue (spanId : BitVec 64) (sampled : Bool) : String :=
  String.ofList (Text.Hex.fixed 16 spanId.toNat ++ '-' :: sampledText sampled)

/-- The span identifier of a well-formed vendor value: sixteen hexadecimal digits, a hyphen and the
flags `00` or `01`. -/
def vendorSpan? (value : String) : Option String :=
  match Text.split '-' value.toList with
  | [span, flags] =>
    if span.length == 16 && span.all Text.Hex.isDigit &&
        (flags == ['0', '0'] || flags == ['0', '1']) then some (String.ofList span)
    else none
  | _ => none

/-- The span that this library last put into the state. -/
def vendorParent? (s : TraceState) : Option String := (s.get? vendorKey).bind vendorSpan?

/-! ## Laws of the map -/

theorem lookup_filter_ne (entries : List (String × String)) {key other : String}
    (h : other ≠ key) : (entries.filter (·.1 != key)).lookup other = entries.lookup other := by
  induction entries with
  | nil => rfl
  | cons e r ih =>
    obtain ⟨k, v⟩ := e
    by_cases ho : other = k
    · subst ho
      simp [h]
    · have hb : (other == k) = false := by simp [ho]
      by_cases hk : k = key
      · subst hk
        simp [List.lookup_cons, hb, ih]
      · simp [hk, List.lookup_cons, hb, ih]

theorem lookup_filter_self (entries : List (String × String)) (key : String) :
    (entries.filter (·.1 != key)).lookup key = none := by
  induction entries with
  | nil => rfl
  | cons e r ih =>
    obtain ⟨k, v⟩ := e
    by_cases hk : k = key
    · simp [hk, ih]
    · have hb : (key == k) = false := by simp [Ne.symm hk]
      simp [hk, List.lookup_cons, hb, ih]

theorem lookup_eraseP_ne (entries : List (String × String)) {key other : String}
    (h : other ≠ key) : (entries.eraseP (·.1 == key)).lookup other = entries.lookup other := by
  induction entries with
  | nil => rfl
  | cons e r ih =>
    obtain ⟨k, v⟩ := e
    by_cases hk : k = key
    · subst hk
      have hb : (other == k) = false := by simp [h]
      simp [List.lookup_cons, hb]
    · simp [hk, List.lookup_cons, ih]

theorem entries_erase (s : TraceState) (key : String) :
    (s.erase key).entries = s.entries.eraseP (·.1 == key) := by
  rw [List.eraseP_eq_eraseIdx, erase, remove]
  cases s.entries.findIdx? (·.1 == key) with
  | none => rfl
  | some i => rfl

@[simp] theorem get?_insert_self (s : TraceState) (key value : String) :
    (s.insert key value).get? key = some value := by
  simp [get?, insert]

/-- The first member of a key is its only one where no key is held twice. -/
theorem entries_erase_of_nodup {s : TraceState} (h : s.keys.Nodup) (key : String) :
    (s.erase key).entries = s.entries.filter (·.1 != key) := by
  rw [entries_erase]
  obtain ⟨entries⟩ := s
  induction entries with
  | nil => rfl
  | cons e r ih =>
    obtain ⟨k, v⟩ := e
    simp only [keys, List.map_cons, List.nodup_cons, List.mem_map, not_exists, not_and] at h
    obtain ⟨hnew, hrest⟩ := h
    by_cases hk : k = key
    · subst hk
      have hother : ∀ m ∈ r, (m.1 != k) = true := fun m hm => by simpa using hnew m hm
      simp [List.filter_eq_self.2 hother]
    · simp [hk, ih hrest]

theorem get?_erase_self {s : TraceState} (h : s.keys.Nodup) (key : String) :
    (s.erase key).get? key = none := by
  rw [get?, entries_erase_of_nodup h]
  exact lookup_filter_self s.entries key

theorem get?_erase_of_ne (s : TraceState) {key other : String} (h : other ≠ key) :
    (s.erase key).get? other = s.get? other := by
  rw [get?, entries_erase]
  exact lookup_eraseP_ne s.entries h

theorem get?_insert_of_ne (s : TraceState) {key other : String} (h : other ≠ key)
    (value : String) : (s.insert key value).get? other = s.get? other := by
  have hb : (other == key) = false := by simp [h]
  simp only [get?, insert, List.lookup_cons, hb]
  exact get?_erase_of_ne s h

theorem nodup_keepFirst (ms : List (String × String)) : ((keepFirst ms).map (·.1)).Nodup := by
  induction ms with
  | nil => simp [keepFirst]
  | cons m r ih =>
    obtain ⟨k, v⟩ := m
    simp only [keepFirst, List.map_cons, List.nodup_cons]
    constructor
    · simp
    · exact (List.Sublist.map _ List.filter_sublist).nodup ih

/-- A parsed state holds no key twice. -/
theorem nodup_keys_ofHeader (header : String) : (ofHeader header).keys.Nodup :=
  nodup_keepFirst _

end TraceState

end TraceSampler
