/-!
# Runs

What a state goes through while events happen to it one after the other, each with an answer.

* `run_append`: a run goes on where a shorter one ended.
* `length_answers`: every event is answered.
* `run_safe`, `run_history`: an invariant of the state, and one of the state and its past.
* `run_part`: a part of the state that follows a rule of its own.
* `run_filter`: a run without some of its events, where the state does not show that they are
  missing.
* `run_simulates`: a run of another machine that answers alike.
-/

namespace TraceSampler

/-- The state after some events, and their answers in order. -/
def run {σ ε β : Type} (step : σ → ε → σ × β) (s : σ) : List ε → σ × List β
  | [] => (s, [])
  | e :: r =>
    let (s, answer) := step s e
    let (s, answers) := run step s r
    (s, answer :: answers)

variable {σ ε β : Type} (step : σ → ε → σ × β)

@[simp] theorem run_nil (s : σ) : run step s [] = (s, []) := rfl

theorem run_cons (s : σ) (e : ε) (r : List ε) :
    run step s (e :: r) =
      ((run step (step s e).1 r).1, (step s e).2 :: (run step (step s e).1 r).2) := rfl

/-- A run goes on where a shorter one ended. -/
theorem run_append (s : σ) (first second : List ε) :
    run step s (first ++ second) =
      ((run step (run step s first).1 second).1,
        (run step s first).2 ++ (run step (run step s first).1 second).2) := by
  induction first generalizing s with
  | nil => rfl
  | cons e r ih => simp [run_cons, ih]

theorem run_concat_fst (s : σ) (events : List ε) (e : ε) :
    (run step s (events ++ [e])).1 = (step (run step s events).1 e).1 := by
  rw [run_append, run_cons, run_nil]

/-- Every event is answered. -/
theorem length_answers (s : σ) (events : List ε) :
    (run step s events).2.length = events.length := by
  induction events generalizing s with
  | nil => rfl
  | cons e r ih => simp [run_cons, ih]

/-- What holds of the state and is kept by every event holds in the end, and each event is answered
as such a state answers it. -/
theorem run_safe {P : σ → Prop} {Q : β → Prop}
    (hstep : ∀ s e, P s → P (step s e).1 ∧ Q (step s e).2) {s : σ} (h : P s) (events : List ε) :
    P (run step s events).1 ∧ ∀ answer ∈ (run step s events).2, Q answer := by
  induction events generalizing s with
  | nil => exact ⟨h, by simp⟩
  | cons e r ih =>
    obtain ⟨hstate, hanswer⟩ := hstep s e h
    obtain ⟨hend, hanswers⟩ := ih hstate
    rw [run_cons]
    exact ⟨hend, List.forall_mem_cons.2 ⟨hanswer, hanswers⟩⟩

/-- What ties the state to the events so far, and is kept by one more event, ties the end of a run
to all its events. -/
theorem run_history {P : List ε → σ → Prop} {s : σ} (h : P [] s) {events : List ε}
    (hstep : ∀ past, ∀ e ∈ events, P past (run step s past).1 →
      P (past ++ [e]) (run step s (past ++ [e])).1) : P events (run step s events).1 := by
  -- some of the events are past already, and the induction is on those still to come
  have hrest : ∀ past rest : List ε, (∀ e ∈ rest, e ∈ events) → P past (run step s past).1 →
      P (past ++ rest) (run step s (past ++ rest)).1 := by
    intro past rest hmem hpast
    induction rest generalizing past with
    | nil => simpa using hpast
    | cons e r ih =>
      rw [List.append_cons]
      exact ih (past ++ [e]) (fun x hx => hmem x (List.mem_cons_of_mem e hx))
        (hstep past e (hmem e List.mem_cons_self) hpast)
  exact hrest [] events (fun _ he => he) h

/-- A part of the state that every event changes by a rule of its own goes through a run by that
rule. -/
theorem run_part {ν : Type} (part : σ → ν) (rule : ν → ε → ν)
    (hstep : ∀ s e, part (step s e).1 = rule (part s) e) (s : σ) (events : List ε) :
    part (run step s events).1 = events.foldl rule (part s) := by
  induction events generalizing s with
  | nil => rfl
  | cons e r ih =>
    have hrest : part (run step (step s e).1 r).1 = r.foldl rule (part (step s e).1) := ih _
    rw [run_cons, List.foldl_cons, ← hstep]
    exact hrest

/-- The answers to the events that are kept, out of the answers to all events. -/
def keptAnswers (keep : ε → Bool) (events : List ε) (answers : List β) : List β :=
  ((events.zip answers).filter fun pair => keep pair.1).map (·.2)

theorem keptAnswers_cons (keep : ε → Bool) (e : ε) (events : List ε) (b : β) (answers : List β) :
    keptAnswers keep (e :: events) (b :: answers) =
      if keep e then b :: keptAnswers keep events answers else keptAnswers keep events answers := by
  by_cases h : keep e = true
  · simp [keptAnswers, h]
  · simp [keptAnswers, h]

/-- Two states are related as long as the relation is kept by every event that happens in both runs,
and by every event that happens in the first run only. Then the shorter run gives the same answers,
and ends in a related state. -/
theorem run_filter {keep : ε → Bool} {R : σ → σ → Prop}
    (hkept : ∀ s t e, keep e = true → R s t →
      (step s e).2 = (step t e).2 ∧ R (step s e).1 (step t e).1)
    (hdropped : ∀ s t e, keep e = false → R s t → R (step s e).1 t)
    {s t : σ} (h : R s t) (events : List ε) :
    (run step t (events.filter keep)).2 = keptAnswers keep events (run step s events).2 ∧
      R (run step s events).1 (run step t (events.filter keep)).1 := by
  induction events generalizing s t with
  | nil => exact ⟨rfl, h⟩
  | cons e r ih =>
    rw [run_cons, keptAnswers_cons]
    cases he : keep e with
    | true =>
      obtain ⟨hanswer, hstate⟩ := hkept s t e he h
      obtain ⟨hanswers, hend⟩ := ih hstate
      rw [List.filter_cons_of_pos he, run_cons]
      exact ⟨by simp [hanswer, hanswers], hend⟩
    | false =>
      obtain ⟨hanswers, hend⟩ := ih (hdropped s t e he h)
      rw [List.filter_cons_of_neg (by simp [he])]
      exact ⟨by simp [hanswers], hend⟩

/-- Two machines answer alike in every run, if they do in related states and every event leaves
related states behind. -/
theorem run_simulates {τ : Type} {step' : τ → ε → τ × β} {R : σ → τ → Prop}
    (hstep : ∀ s t e, R s t → (step s e).2 = (step' t e).2 ∧ R (step s e).1 (step' t e).1)
    {s : σ} {t : τ} (h : R s t) (events : List ε) :
    (run step s events).2 = (run step' t events).2 ∧
      R (run step s events).1 (run step' t events).1 := by
  induction events generalizing s t with
  | nil => exact ⟨rfl, h⟩
  | cons e r ih =>
    obtain ⟨hanswer, hstate⟩ := hstep s t e h
    obtain ⟨hanswers, hend⟩ := ih hstate
    rw [run_cons, run_cons]
    exact ⟨by rw [hanswer, hanswers], hend⟩

end TraceSampler
