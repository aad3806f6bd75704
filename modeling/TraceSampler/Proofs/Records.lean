import TraceSampler.Run

/-!
# The records of a run

Some events of a run are worth a record, which tells what the event met in a part of the state and
what it left there. As long as no other event touches that part, the records of a run are linked:
each takes up what the one before it left.

* `linked_records`: the records of a run are linked, from its start to its end.
* `Linked.of_isInfix`: and so is every stretch of them.
-/

namespace TraceSampler

variable {σ ε β ρ ν : Type}

/-- The records of a run in their order. -/
def records (step : σ → ε → σ × β) (record? : σ → ε → Option ρ) (s : σ) : List ε → List ρ
  | [] => []
  | e :: r => (record? s e).toList ++ records step record? (step s e).1 r

theorem records_cons (step : σ → ε → σ × β) (record? : σ → ε → Option ρ) (s : σ) (e : ε)
    (r : List ε) : records step record? s (e :: r) =
      (record? s e).toList ++ records step record? (step s e).1 r := rfl

/-- Lawful records, each of which takes up what the one before it left. -/
def Linked (Lawful : ρ → Prop) (before after : ρ → ν) : ν → List ρ → ν → Prop
  | v, [], w => w = v
  | v, x :: xs, w => before x = v ∧ Lawful x ∧ Linked Lawful before after (after x) xs w

namespace Linked

variable {Lawful : ρ → Prop} {before after : ρ → ν} {v w : ν} {xs ys : List ρ}

theorem of_append (h : Linked Lawful before after v (xs ++ ys) w) :
    ∃ u, Linked Lawful before after v xs u ∧ Linked Lawful before after u ys w := by
  induction xs generalizing v with
  | nil => exact ⟨v, rfl, h⟩
  | cons x xs ih =>
    obtain ⟨hbefore, hlawful, hrest⟩ := h
    obtain ⟨u, hxs, hys⟩ := ih hrest
    exact ⟨u, ⟨hbefore, hlawful, hxs⟩, hys⟩

/-- A stretch of linked records is linked. -/
theorem of_isInfix (h : Linked Lawful before after v ys w) (hxs : xs <:+: ys) :
    ∃ v' w', Linked Lawful before after v' xs w' := by
  obtain ⟨front, back, rfl⟩ := hxs
  obtain ⟨w', hfront, -⟩ := h.of_append
  obtain ⟨v', -, hmiddle⟩ := hfront.of_append
  exact ⟨v', w', hmiddle⟩

theorem lawful (h : Linked Lawful before after v xs w) {x : ρ} (hx : x ∈ xs) : Lawful x := by
  induction xs generalizing v with
  | nil => simp at hx
  | cons y ys ih =>
    obtain ⟨-, hlawful, hrest⟩ := h
    rcases List.mem_cons.1 hx with rfl | hx
    · exact hlawful
    · exact ih hrest hx

end Linked

/-- The records of a run are linked, if every recorded event is lawful and every other event leaves
the part of the state alone that the records are about. An invariant of the run may be used. -/
theorem linked_records {step : σ → ε → σ × β} {record? : σ → ε → Option ρ} {Lawful : ρ → Prop}
    {before after : ρ → ν} (part : σ → ν) (P : σ → Prop) {events : List ε}
    (hstep : ∀ s, ∀ e ∈ events, P s → P (step s e).1)
    (hrecord : ∀ s, ∀ e ∈ events, P s → ∀ x, record? s e = some x →
      before x = part s ∧ Lawful x ∧ after x = part (step s e).1)
    (hother : ∀ s, ∀ e ∈ events, P s → record? s e = none → part (step s e).1 = part s)
    {s : σ} (h : P s) :
    Linked Lawful before after (part s) (records step record? s events)
      (part (run step s events).1) := by
  induction events generalizing s with
  | nil => rfl
  | cons e r ih =>
    have he : e ∈ e :: r := List.mem_cons_self
    have hrest : Linked Lawful before after (part (step s e).1)
        (records step record? (step s e).1 r) (part (run step s (e :: r)).1) :=
      ih (fun s x hx => hstep s x (List.mem_cons_of_mem e hx))
        (fun s x hx => hrecord s x (List.mem_cons_of_mem e hx))
        (fun s x hx => hother s x (List.mem_cons_of_mem e hx)) (hstep s e he h)
    rw [records_cons]
    cases hx : record? s e with
    | none => simpa [hother s e he h hx] using hrest
    | some x =>
      obtain ⟨hbefore, hlawful, hafter⟩ := hrecord s e he h x hx
      exact ⟨hbefore, hlawful, hafter ▸ hrest⟩

end TraceSampler
