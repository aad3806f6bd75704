import TraceSampler.Proofs.Header.Limits

/-!
# A trace state across many hops

Every service on the way of a request reads the trace state, puts its own span in front and sends
the rest on. Members may be lost on the first hop, where the limits are met; from then on what the
other vendors wrote stays as it is.

The invariant is `Settled`: beside a vendor member all foreign members fit. The first hop reaches
it, for what goes out is within the limits, and since all vendor members are of one size every
later hop finds room for the same members again.

* `ofHeader_forward`: a hop on headers is the outbound step on parsed states.
* `foreign_headerAfter`: a run of hops changes no settled member.
* `foreign_stable_across_hops`: from the second hop on nothing is lost.
-/

namespace TraceSampler.TraceState

/-! ## Hops -/

/-- A service that continues the trace, by the span that it starts. -/
structure Hop where
  spanId : BitVec 64
  sampled : Bool
  deriving DecidableEq, Repr

def Hop.value (hop : Hop) : String := vendorValue hop.spanId hop.sampled

/-- The header that a service sends on for the one that it got. -/
def forward (header : String) (hop : Hop) : String := ((ofHeader header).outbound hop.value).text

/-- The header behind some hops. -/
def headerAfter (header : String) (hops : List Hop) : String := hops.foldl forward header

theorem headerAfter_cons (header : String) (hop : Hop) (hops : List Hop) :
    headerAfter header (hop :: hops) = headerAfter (forward header hop) hops := by
  rw [headerAfter, List.foldl_cons, headerAfter]

theorem headerAfter_concat (header : String) (hops : List Hop) (hop : Hop) :
    headerAfter header (hops ++ [hop]) = forward (headerAfter header hops) hop := by
  rw [headerAfter, List.foldl_append, List.foldl_cons, List.foldl_nil, headerAfter]

/-- Reading a forwarded header gives back the outbound state. -/
theorem ofHeader_forward (header : String) (hop : Hop) :
    ofHeader (forward header hop) = (ofHeader header).outbound hop.value :=
  ofHeader_text
    ((wireSafe_ofHeader header).outbound (wireMember_vendorValue hop.spanId hop.sampled))

/-! ## The invariant -/

/-- All these members fit beside a vendor member. -/
def Settled (ms : List (String × String)) : Prop :=
  22 + bytesWithCommas ms ≤ maxBytes ∧ 1 + ms.length ≤ maxMembers

theorem memberBytes_hop (hop : Hop) : memberBytes (vendorKey, hop.value) = 22 := by
  rw [memberBytes_vendor, Hop.value, utf8ByteSize_vendorValue]

/-- What a hop sends on is settled, whatever came in. -/
theorem settled_forward (header : String) (hop : Hop) :
    Settled (ofHeader (forward header hop)).foreign := by
  have hvalue : hop.value.utf8ByteSize = 19 := utf8ByteSize_vendorValue hop.spanId hop.sampled
  rw [ofHeader_forward, foreign_outbound]
  constructor
  · have hbytes := bytes_packed (s := ofHeader header) (v := hop.value) (by rw [hvalue]; decide)
    simpa [hvalue] using hbytes
  · exact length_packed _ _

/-- A hop sends settled members on as they are: the sacrifice is not due and each of them fits. -/
theorem foreign_forward {header : String} (h : Settled (ofHeader header).foreign) (hop : Hop) :
    (ofHeader (forward header hop)).foreign = (ofHeader header).foreign := by
  have hdue : decide (bytesWithCommas (ofHeader header).foreign +
      memberBytes (vendorKey, hop.value) > maxBytes) = false := by
    rw [memberBytes_hop, decide_eq_false_iff_not]
    have hbytes := h.1
    omega
  rw [ofHeader_forward, foreign_outbound, packed, hdue]
  apply packFrom_eq_self
  · rw [memberBytes_hop]
    exact h.1
  · exact h.2

/-- A run of hops changes no settled member. -/
theorem foreign_headerAfter {header : String} (h : Settled (ofHeader header).foreign)
    (hops : List Hop) :
    (ofHeader (headerAfter header hops)).foreign = (ofHeader header).foreign := by
  induction hops generalizing header with
  | nil => rfl
  | cons hop hops ih => rw [headerAfter_cons, ih (settled_forward header hop), foreign_forward h]

/-! ## Runs -/

/-- Behind every hop the foreign members are those behind the first one, with their values and in
their order, and the vendor member names the span of that hop. -/
theorem foreign_stable_across_hops (header : String) (hops : List Hop) (i : Nat)
    (hi : i < hops.length) :
    (ofHeader (headerAfter header (hops.take (i + 1)))).foreign =
        (ofHeader (headerAfter header (hops.take 1))).foreign ∧
      (ofHeader (headerAfter header (hops.take (i + 1)))).vendorParent? =
        some (String.ofList (Text.Hex.fixed 16 hops[i].spanId.toNat)) := by
  constructor
  · cases hops with
    | nil => simp at hi
    | cons hop hops =>
      -- the first hop settles the members, and the run behind it leaves them alone
      rw [List.take_succ_cons, List.take_succ_cons, List.take_zero, headerAfter_cons]
      exact foreign_headerAfter (settled_forward header hop) _
  · rw [List.take_succ_eq_append_getElem hi, headerAfter_concat, ofHeader_forward]
    exact vendorParent?_outbound _ _ _

/-- Two members of three hundred bytes: the first hop gives one up, and the other one stays. -/
theorem foreign_stable_oversize :
    let header := String.ofList ("a=".toList ++ List.replicate 300 'x' ++ ",b=".toList ++
      List.replicate 300 'y')
    let hops : List Hop := [⟨1, true⟩, ⟨2, false⟩, ⟨0xfedcba9876543210, true⟩]
    (ofHeader (headerAfter header (hops.take 3))).foreign =
        (ofHeader (headerAfter header (hops.take 1))).foreign ∧
      (ofHeader (headerAfter header (hops.take 3))).vendorParent? = some "fedcba9876543210" := by
  intro header hops
  have hspan : String.ofList (Text.Hex.fixed 16 (0xfedcba9876543210 : BitVec 64).toNat) =
      "fedcba9876543210" := by decide
  have hi : 2 < hops.length := by simp [hops]
  rw [← hspan]
  exact foreign_stable_across_hops header hops 2 hi

end TraceSampler.TraceState
