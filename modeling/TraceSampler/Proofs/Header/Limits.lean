import TraceSampler.Proofs.Header.WireFormat

/-!
# The limits of an outbound trace state

An outbound state takes at most `maxBytes` bytes and `maxMembers` members. The packing keeps a
running count of both, so the bounds are invariants of its loop; what ties them to the header is
that the running count is exactly the size of the text.

* `utf8ByteSize_text_cons`: the bytes of a text, member by member.
* `bytes_packFrom`, `length_packFrom`: what the loop keeps.
* `outbound_withinLimits`: the limits of the outbound header, and what stands between its commas.
-/

namespace TraceSampler.TraceState

/-! ## The size of a text -/

theorem bytes_memberText (m : String × String) : Text.bytes (memberText m) = memberBytes m := by
  have hequals : Text.bytes ['='] = 1 := by decide
  rw [memberText, Text.bytes_append, Text.bytes_cons, Text.bytes_toList, Text.bytes_toList, hequals,
    memberBytes, Nat.add_assoc]

/-- A text takes the bytes of its first member, and those of the others with their commas. -/
theorem utf8ByteSize_text_cons (m : String × String) (ms : List (String × String)) :
    (⟨m :: ms⟩ : TraceState).text.utf8ByteSize = memberBytes m + bytesWithCommas ms := by
  have hcomma : Text.bytes [','] = 1 := by decide
  rw [← Text.bytes_toList, toList_text]
  induction ms generalizing m with
  | nil => exact bytes_memberText m
  | cons x r ih =>
    rw [List.map_cons, Text.bytes_join_cons _ _ (by simp), ih x, bytes_memberText, hcomma,
      bytesWithCommas]
    omega

theorem bytesWithCommas_append (ms ns : List (String × String)) :
    bytesWithCommas (ms ++ ns) = bytesWithCommas ms + bytesWithCommas ns := by
  induction ms with
  | nil => simp [bytesWithCommas]
  | cons m r ih =>
    simp only [List.cons_append, bytesWithCommas, ih]
    omega

theorem memberBytes_vendor (v : String) : memberBytes (vendorKey, v) = 3 + v.utf8ByteSize := by
  have hkey : vendorKey.utf8ByteSize = 2 := by decide
  rw [memberBytes, hkey]

/-! ## What packing keeps -/

theorem packFrom_sublist (bytes members : Nat) (sacrifice : Bool) (ms : List (String × String)) :
    (packFrom bytes members sacrifice ms).Sublist ms := by
  fun_induction packFrom bytes members sacrifice ms with
  | case1 => exact List.Sublist.refl _
  | case2 _ _ _ m _ _ _ ih => exact ih.trans (List.sublist_cons_self m _)
  | case3 _ _ _ m _ _ _ _ ih => exact ih.trans (List.sublist_cons_self m _)
  | case4 _ _ _ m _ _ _ _ ih => exact List.Sublist.cons_cons m ih

/-- Packing never goes over the byte limit. -/
theorem bytes_packFrom {bytes members : Nat} {sacrifice : Bool} {ms : List (String × String)}
    (h : bytes ≤ maxBytes) :
    bytes + bytesWithCommas (packFrom bytes members sacrifice ms) ≤ maxBytes := by
  fun_induction packFrom bytes members sacrifice ms with
  | case1 => simpa [bytesWithCommas] using h
  | case2 _ _ _ _ _ _ _ ih => exact ih h
  | case3 _ _ _ _ _ _ _ _ ih => exact ih h
  | case4 bytes members _ m _ size hfits _ ih =>
    -- the member was taken because it fits behind what stands already
    simp only [Bool.or_eq_true, decide_eq_true_eq, not_or, Nat.not_lt] at hfits
    have hrest := ih hfits.2
    simp only [bytesWithCommas]
    omega

/-- Packing never goes over the member limit. -/
theorem length_packFrom {bytes members : Nat} {sacrifice : Bool} {ms : List (String × String)}
    (h : members ≤ maxMembers) :
    members + (packFrom bytes members sacrifice ms).length ≤ maxMembers := by
  fun_induction packFrom bytes members sacrifice ms with
  | case1 => simpa using h
  | case2 _ _ _ _ _ _ _ ih => exact ih h
  | case3 _ _ _ _ _ _ _ _ ih => exact ih h
  | case4 bytes members _ m _ size hfits _ ih =>
    simp only [Bool.or_eq_true, decide_eq_true_eq, not_or, Nat.not_le] at hfits
    have hrest := ih hfits.1
    simp only [List.length_cons]
    omega

/-- Members that all fit are all packed, unless one is to be given up. -/
theorem packFrom_eq_self {bytes members : Nat} {ms : List (String × String)}
    (hbytes : bytes + bytesWithCommas ms ≤ maxBytes) (hmembers : members + ms.length ≤ maxMembers) :
    packFrom bytes members false ms = ms := by
  induction ms generalizing bytes members with
  | nil => rfl
  | cons m r ih =>
    simp only [bytesWithCommas, List.length_cons] at hbytes hmembers
    have hfits : (decide (members ≥ maxMembers) ||
        decide (bytes + 1 + memberBytes m > maxBytes)) = false := by
      simp only [Bool.or_eq_false_iff, decide_eq_false_iff_not]
      omega
    have hrest : packFrom (bytes + 1 + memberBytes m) (members + 1) false r = r :=
      ih (by omega) (by omega)
    simp [packFrom, hfits, hrest]

theorem packed_sublist (s : TraceState) (v : String) : (s.packed v).Sublist s.foreign :=
  packFrom_sublist _ _ _ _

theorem foreign_sublist (s : TraceState) : s.foreign.Sublist s.entries := List.filter_sublist

/-- No foreign member has a reserved key. -/
theorem isReserved_of_mem_foreign {s : TraceState} {m : String × String} (h : m ∈ s.foreign) :
    isReserved m.1 = false := by
  simpa using (List.mem_filter.1 h).2

theorem ne_of_not_isReserved {key : String} (h : isReserved key = false) :
    key ≠ vendorKey ∧ key ≠ responseKey := by
  simpa [isReserved] using h

/-- Behind a vendor member that fits, the packed members fit too. -/
theorem bytes_packed {s : TraceState} {v : String} (h : 3 + v.utf8ByteSize ≤ maxBytes) :
    3 + v.utf8ByteSize + bytesWithCommas (s.packed v) ≤ maxBytes := by
  rw [← memberBytes_vendor] at h ⊢
  exact bytes_packFrom h

theorem length_packed (s : TraceState) (v : String) : 1 + (s.packed v).length ≤ maxMembers :=
  length_packFrom (by decide)

/-! ## The outbound state -/

/-- The foreign members of an outbound state are those that were packed. -/
theorem foreign_outbound (s : TraceState) (v : String) : (s.outbound v).foreign = s.packed v := by
  have hall : ∀ m ∈ s.packed v, (!isReserved m.1) = true := by
    intro m hm
    simp [isReserved_of_mem_foreign ((packed_sublist s v).subset hm)]
  have hvendor : isReserved vendorKey = true := by decide
  simp only [foreign, outbound, List.filter_cons, hvendor, Bool.not_true]
  exact List.filter_eq_self.2 hall

theorem get?_outbound (s : TraceState) (v : String) : (s.outbound v).get? vendorKey = some v := by
  simp [get?, outbound]

/-- Only the foreign members of a state go out. -/
theorem outbound_congr {s t : TraceState} (h : s.foreign = t.foreign) (v : String) :
    s.outbound v = t.outbound v := by
  rw [outbound, outbound, packed, packed, h]

/-- A member under a reserved key changes no foreign member. -/
theorem foreign_insert {key : String} (h : isReserved key = true) (s : TraceState)
    (value : String) : (s.insert key value).foreign = s.foreign := by
  simp only [foreign, insert, entries_erase, List.filter_cons, h, Bool.not_true]
  -- either there is no member under the key, or one that is not foreign is left out
  rcases List.exists_or_eq_self_of_eraseP (·.1 == key) s.entries with
    hnone | ⟨m, front, back, -, hm, hentries, hrest⟩
  · rw [hnone]
    rfl
  · have hkey : m.1 = key := by simpa using hm
    rw [hrest, hentries]
    simp [hkey, h]

/-- The span that an outbound state names is the one that it was written for. -/
theorem vendorParent?_outbound (s : TraceState) (spanId : BitVec 64) (sampled : Bool) :
    (s.outbound (vendorValue spanId sampled)).vendorParent? =
      some (String.ofList (Text.Hex.fixed 16 spanId.toNat)) := by
  rw [vendorParent?, get?_outbound, Option.bind_some, vendorSpan?_vendorValue]

/-- What goes out of a wire-safe state with a safe vendor value is wire-safe. -/
theorem WireSafe.outbound {s : TraceState} (hs : WireSafe s) {v : String}
    (hv : WireMember (vendorKey, v)) : WireSafe (s.outbound v) := by
  have hpacked : WireSafe ⟨s.packed v⟩ :=
    hs.of_sublist ((packed_sublist s v).trans (foreign_sublist s))
  refine hpacked.cons hv ?_
  intro hkey
  obtain ⟨m, hm, heq⟩ := List.mem_map.1 hkey
  have hne := ne_of_not_isReserved (isReserved_of_mem_foreign ((packed_sublist s v).subset hm))
  exact hne.1 heq

/-! ## The outbound header -/

/-- The key of a written member: what stands before its first equals sign. -/
def memberKey? (piece : List Char) : Option String :=
  (Text.splitFirst? '=' piece).map fun cut => String.ofList cut.1

theorem memberKey?_memberText {m : String × String} (h : '=' ∉ m.1.toList) :
    memberKey? (memberText m) = some m.1 := by
  have hcut : Text.splitFirst? '=' (memberText m) = some (m.1.toList, m.2.toList) :=
    Text.splitFirst?_append h m.2.toList
  simp [memberKey?, hcut]

/-- The pieces of the outbound header between its commas. -/
def outboundPieces (s : TraceState) (v : String) : List (List Char) :=
  Text.split ',' (s.outbound v).text.toList

/-- What an outbound header promises to whoever reads it. -/
structure WithinLimits (s : TraceState) (v : String) : Prop where
  bytes : (s.outbound v).text.utf8ByteSize ≤ 512
  members : (s.outboundPieces v).length ≤ 32
  vendorFirst : (s.outboundPieces v).head? = some ("sw=" ++ v).toList
  /-- Behind the vendor member stand members of the state whose own keys are not reserved. -/
  others : ∀ piece ∈ (s.outboundPieces v).tail, ∃ m ∈ s.entries,
    piece = memberText m ∧ m.1 ≠ "sw" ∧ m.1 ≠ "xtrace_options_response"
  /-- A key with an equals sign in it is cut short by the reader, so what the reader finds is not
  reserved only where there is no such key. -/
  keys : (∀ m ∈ s.entries, '=' ∉ m.1.toList) → ∀ piece ∈ (s.outboundPieces v).tail,
    memberKey? piece ≠ some "sw" ∧ memberKey? piece ≠ some "xtrace_options_response"

/-- Commas stand only between the members, so the pieces are the members. -/
theorem outboundPieces_eq {s : TraceState} {v : String}
    (hs : ∀ m ∈ s.entries, ',' ∉ m.1.toList ∧ ',' ∉ m.2.toList) (hv : ',' ∉ v.toList) :
    s.outboundPieces v = ("sw=" ++ v).toList :: (s.packed v).map memberText := by
  have hkey : ',' ∉ vendorKey.toList := by decide
  have hcommas : ∀ m ∈ (s.outbound v).entries, ',' ∉ memberText m := by
    intro m hm
    rcases List.mem_cons.1 hm with rfl | hm
    · exact comma_memberText hkey hv
    · obtain ⟨hk, hvalue⟩ := hs m ((foreign_sublist s).subset ((packed_sublist s v).subset hm))
      exact comma_memberText hk hvalue
  have hvendor : memberText (vendorKey, v) = ("sw=" ++ v).toList := by
    simp [memberText, vendorKey]
  rw [outboundPieces, split_text (by simp [outbound]) hcommas, outbound, List.map_cons, hvendor]

/-- An outbound header stays within its limits: 512 bytes, 32 members, the vendor member first and
no other member under a reserved key. -/
theorem outbound_withinLimits (s : TraceState) (v : String)
    (hs : ∀ m ∈ s.entries, ',' ∉ m.1.toList ∧ ',' ∉ m.2.toList) (hv : ',' ∉ v.toList)
    (hsize : 3 + v.utf8ByteSize ≤ 512) : WithinLimits s v := by
  have hpieces := outboundPieces_eq hs hv
  have hothers : ∀ piece ∈ (s.outboundPieces v).tail, ∃ m ∈ s.entries,
      piece = memberText m ∧ m.1 ≠ vendorKey ∧ m.1 ≠ responseKey := by
    intro piece hpiece
    rw [hpieces, List.tail_cons] at hpiece
    obtain ⟨m, hm, rfl⟩ := List.mem_map.1 hpiece
    have hforeign : m ∈ s.foreign := (packed_sublist s v).subset hm
    exact ⟨m, (foreign_sublist s).subset hforeign, rfl,
      ne_of_not_isReserved (isReserved_of_mem_foreign hforeign)⟩
  constructor
  · rw [outbound, utf8ByteSize_text_cons, memberBytes_vendor]
    exact bytes_packed hsize
  · have hlength : 1 + (s.packed v).length ≤ 32 := length_packed s v
    rw [hpieces, List.length_cons, List.length_map]
    omega
  · rw [hpieces, List.head?_cons]
  · exact hothers
  · -- without an equals sign in it, the key of the entry is the key that is read
    intro hequals piece hpiece
    obtain ⟨m, hentry, rfl, hsw, hresponse⟩ := hothers piece hpiece
    rw [memberKey?_memberText (hequals m hentry)]
    exact ⟨fun e => hsw (Option.some.inj e), fun e => hresponse (Option.some.inj e)⟩

/-- A parsed header that is too long, with an answer to trace options among its members. -/
theorem outbound_withinLimits_oversize :
    let header := String.ofList ("sw=0000000000000000-00,a=".toList ++ List.replicate 300 'x' ++
      ",xtrace_options_response=ok,b=".toList ++ List.replicate 300 'y')
    WithinLimits (ofHeader header) "00f067aa0ba902b7-01" := by
  intro header
  have hs : ∀ m ∈ (ofHeader header).entries, ',' ∉ m.1.toList ∧ ',' ∉ m.2.toList := by
    intro m hm
    have hwire := (wireSafe_ofHeader header).members m hm
    exact ⟨hwire.comma_key, hwire.comma_value⟩
  exact outbound_withinLimits (ofHeader header) "00f067aa0ba902b7-01" hs (by decide) (by decide)

/-- A key may hold an equals sign, for nothing checks the keys that are inserted. Such a member is
foreign by its own key and goes out, but a reader takes it for a vendor member. -/
theorem outbound_disguised_vendorKey :
    let s : TraceState := (ofHeader "").insert "sw=x" "y"
    let v := "00f067aa0ba902b7-01"
    (∀ m ∈ s.entries, ',' ∉ m.1.toList ∧ ',' ∉ m.2.toList) ∧ ',' ∉ v.toList ∧
      3 + v.utf8ByteSize ≤ 512 ∧
      (s.outbound v).text = "sw=00f067aa0ba902b7-01,sw=x=y" ∧
      ∃ piece ∈ (s.outboundPieces v).tail, memberKey? piece = some "sw" := by
  refine ⟨by decide, by decide, by decide, by decide, "sw=x=y".toList, by decide, by decide⟩

end TraceSampler.TraceState
