import Mathlib.Data.List.Forall2
import TraceSampler.Configuration
import TraceSampler.Proofs.Quota.Conditions

/-!
# Transaction settings in force

An entry of the transaction settings is usable if it has a pattern that compiles and a word for the
mode. The usable entries make the rules of the policy, one each and in their order, and the others
make none, wherever they stand. So a request is traced as the first usable entry says whose pattern
matches one of its signals, or else as the mode for all requests says.

* `readMode_eq_ok_iff`, `rule_eq_ok_iff`: which words are modes, and which entries make a rule.
* `forall₂_makes_rules`: the rules of a list are those of its usable entries.
* `prescribed_iff`: what the entries of a list prescribe is what the policy says.
* `Configuration.prescribed_ofEnvironment`: what requests come to under a configured list.
-/

namespace TraceSampler

/-! ## Entries and their rules -/

/-- The words for a mode. -/
def modeWords (on : Bool) : List String :=
  if on then ["enabled", "always"] else ["disabled", "never"]

/-- The text is a word for the mode, but for blanks at its ends and the case of ASCII letters. -/
def SpellsMode (text : String) (on : Bool) : Prop :=
  String.ofList (Text.asciiLower (Text.trim text.toList)) ∈ modeWords on

theorem readMode_eq_ok_iff {v : Variable} {text : String} {on : Bool} :
    readMode v text = .ok on ↔ SpellsMode text on := by
  unfold readMode SpellsMode
  generalize String.ofList (Text.asciiLower (Text.trim text.toList)) = word
  constructor
  · -- of the five branches the last one gives no mode
    intro h
    split at h
    all_goals cases h
    all_goals decide
  · intro h
    cases on with
    | true =>
      rcases List.mem_pair.1 h with rfl | rfl
      · rfl
      · rfl
    | false =>
      rcases List.mem_pair.1 h with rfl | rfl
      · rfl
      · rfl

/-- A text spells one mode at most. -/
theorem SpellsMode.unique {text : String} {on on' : Bool} (h : SpellsMode text on)
    (h' : SpellsMode text on') : on = on' := by
  rw [← readMode_eq_ok_iff (v := .tracingMode)] at h h'
  exact Except.ok.inj (h.symm.trans h')

namespace TransactionSetting

/-- An entry makes a rule: it has both fields, its pattern compiles, and its mode is spelled by a
word for one. -/
structure Makes (s : TransactionSetting) (rule : Quota.ResourceRule) : Prop where
  regex : ∃ source, s.regex = some source ∧ Pattern.compile? source = some rule.pattern
  tracing : ∃ text, s.tracing = some text ∧ SpellsMode text rule.tracing

/-- The entry makes a rule. -/
def Usable (s : TransactionSetting) : Prop := ∃ rule, s.Makes rule

theorem rule_eq_ok_iff {s : TransactionSetting} {rule : Quota.ResourceRule} :
    s.rule = .ok rule ↔ s.Makes rule := by
  obtain ⟨regex, tracing⟩ := s
  constructor
  · intro h
    unfold TransactionSetting.rule at h
    split at h
    · next source text hregex htracing =>
      split at h
      · simp at h
      · next on hmode =>
        split at h
        · next made hmade =>
          obtain rfl := Except.ok.inj h
          obtain ⟨pattern, hcompiled, rfl⟩ := Option.map_eq_some_iff.1 hmade
          exact ⟨⟨source, hregex, hcompiled⟩, text, htracing, readMode_eq_ok_iff.1 hmode⟩
        · simp at h
    · simp at h
  · rintro ⟨⟨source, hregex, hcompiled⟩, text, htracing, hmode⟩
    have hread := (readMode_eq_ok_iff (v := .transactionSettings)).2 hmode
    simp only at hregex htracing
    subst hregex htracing
    simp [TransactionSetting.rule, hread, Quota.ResourceRule.ofPattern?, hcompiled]

theorem toOption_rule_eq_some_iff {s : TransactionSetting} {rule : Quota.ResourceRule} :
    s.rule.toOption = some rule ↔ s.Makes rule := by
  rw [← rule_eq_ok_iff]
  cases s.rule with
  | error e => simp [Except.toOption]
  | ok made => simp [Except.toOption]

/-- An entry makes one rule at most. -/
theorem rightUnique_makes : Relator.RightUnique Makes := by
  intro s rule rule' h h'
  rw [← toOption_rule_eq_some_iff] at h h'
  exact Option.some.inj (h.symm.trans h')

theorem usable_iff {s : TransactionSetting} : s.Usable ↔ s.rule.toOption.isSome = true := by
  rw [Option.isSome_iff_exists]
  exact exists_congr fun _ => toOption_rule_eq_some_iff.symm

instance (s : TransactionSetting) : Decidable s.Usable := decidable_of_iff _ usable_iff.symm

/-! ## The rules of a list -/

theorem mem_rules_iff {entries : List TransactionSetting} {rule : Quota.ResourceRule} :
    rule ∈ rules entries ↔ ∃ s ∈ entries, s.Makes rule := by
  simp only [rules, List.mem_filterMap, toOption_rule_eq_some_iff]

theorem rules_append_cons {s : TransactionSetting} {rule : Quota.ResourceRule} (h : s.Makes rule)
    (before behind : List TransactionSetting) :
    rules (before ++ s :: behind) = rules before ++ rule :: rules behind := by
  have hrule : s.rule.toOption = some rule := toOption_rule_eq_some_iff.2 h
  have hrest : rules (s :: behind) = rule :: rules behind := List.filterMap_cons_some hrule
  rw [← hrest]
  exact List.filterMap_append

/-- The rules of a list are those that its usable entries make, in their order. -/
theorem forall₂_makes_rules (entries : List TransactionSetting) :
    List.Forall₂ Makes (entries.filter Usable) (rules entries) := by
  induction entries with
  | nil => exact .nil
  | cons s r ih =>
    by_cases husable : s.Usable
    · rw [List.filter_cons_of_pos (by simpa using husable)]
      rcases husable with ⟨rule, hmakes⟩
      have hrules : rules (s :: r) = rule :: rules r := rules_append_cons hmakes [] r
      rw [hrules]
      exact .cons hmakes ih
    · have hrule : s.rule.toOption = none := by simpa using mt usable_iff.2 husable
      have hrules : rules (s :: r) = rules r := List.filterMap_cons_none hrule
      rw [List.filter_cons_of_neg (by simpa using husable), hrules]
      exact ih

/-- Entries that are not usable may come and go. -/
theorem rules_congr {entries entries' : List TransactionSetting}
    (h : entries'.filter Usable = entries.filter Usable) : rules entries' = rules entries := by
  have hrules := forall₂_makes_rules entries'
  rw [h] at hrules
  exact List.right_unique_forall₂' rightUnique_makes hrules (forall₂_makes_rules entries)

/-! ## What a list prescribes -/

/-- The entry is usable, and its pattern matches one of the signals. -/
def Matches (s : TransactionSetting) (signals : List String) : Prop :=
  ∃ rule, s.Makes rule ∧ ∃ signal ∈ signals, rule.pattern.isMatch signal = true

/-- What the entries of a list prescribe for a request: the mode of the first that is usable and
matches one of its signals, or else the mode for all requests, which is on unless it is set. -/
inductive Prescribed (entries : List TransactionSetting) (mode : Option Bool)
    (signals : List String) : Bool → Prop
  | byEntry {before behind : List TransactionSetting} {s : TransactionSetting} {text : String}
      {on : Bool} (hsplit : entries = before ++ s :: behind)
      (hbefore : ∀ earlier ∈ before, ¬ earlier.Matches signals) (hmatches : s.Matches signals)
      (htracing : s.tracing = some text) (hmode : SpellsMode text on) :
      Prescribed entries mode signals on
  | byMode (hnone : ∀ s ∈ entries, ¬ s.Matches signals) :
      Prescribed entries mode signals (mode.getD true)

theorem Matches.usable {s : TransactionSetting} {signals : List String} (h : s.Matches signals) :
    s.Usable := h.imp fun _ hrule => hrule.1

theorem Makes.matches_iff {s : TransactionSetting} {rule : Quota.ResourceRule} (h : s.Makes rule)
    {signals : List String} : s.Matches signals ↔ rule.applies signals = true := by
  rw [Quota.ResourceRule.applies, List.any_eq_true]
  constructor
  · rintro ⟨rule', hmakes, hmatch⟩
    obtain rfl : rule' = rule := rightUnique_makes hmakes h
    exact hmatch
  · exact fun hmatch => ⟨rule, h, hmatch⟩

/-- Where no entry matches, no rule applies. -/
theorem applies_eq_false_of_mem_rules {entries : List TransactionSetting} {signals : List String}
    (h : ∀ s ∈ entries, ¬ s.Matches signals) :
    ∀ rule ∈ rules entries, rule.applies signals = false := by
  intro rule hrule
  rcases mem_rules_iff.1 hrule with ⟨s, hs, hmakes⟩
  rw [← Bool.not_eq_true, ← hmakes.matches_iff]
  exact h s hs

/-- Either there is a first entry that matches, or none does. -/
theorem firstMatch_cases (entries : List TransactionSetting) (signals : List String) :
    (∃ before s behind, entries = before ++ s :: behind ∧
      (∀ earlier ∈ before, ¬ earlier.Matches signals) ∧ s.Matches signals) ∨
    ∀ s ∈ entries, ¬ s.Matches signals := by
  induction entries with
  | nil => exact .inr fun _ hs => absurd hs List.not_mem_nil
  | cons s r ih =>
    by_cases hmatches : s.Matches signals
    · exact .inl ⟨[], s, r, rfl, fun _ hs => absurd hs List.not_mem_nil, hmatches⟩
    · rcases ih with ⟨before, first, behind, rfl, hbefore, hfirst⟩ | hnone
      · left
        exact ⟨s :: before, first, behind, rfl, List.forall_mem_cons.2 ⟨hmatches, hbefore⟩, hfirst⟩
      · exact .inr (List.forall_mem_cons.2 ⟨hmatches, hnone⟩)

section Policy

variable {p : Quota.Policy} {entries : List TransactionSetting} {signals : List String}
  (hresources : p.resources = rules entries)

include hresources

theorem allowsTracing_of_firstMatch {before behind : List TransactionSetting}
    {s : TransactionSetting} {rule : Quota.ResourceRule} (hsplit : entries = before ++ s :: behind)
    (hbefore : ∀ earlier ∈ before, ¬ earlier.Matches signals) (hmatches : s.Matches signals)
    (hmakes : s.Makes rule) : p.allowsTracing signals = rule.tracing := by
  rw [hsplit, rules_append_cons hmakes] at hresources
  exact Quota.Policy.allowsTracing_of_first hresources (applies_eq_false_of_mem_rules hbefore)
    (hmakes.matches_iff.1 hmatches)

theorem allowsTracing_of_noMatch (hnone : ∀ s ∈ entries, ¬ s.Matches signals) :
    p.allowsTracing signals = p.tracing.getD true := by
  refine Quota.Policy.allowsTracing_of_none ?_
  rw [hresources]
  exact applies_eq_false_of_mem_rules hnone

/-- What the entries prescribe is what a policy with their rules says. -/
theorem prescribed_iff {on : Bool} :
    Prescribed entries p.tracing signals on ↔ p.allowsTracing signals = on := by
  constructor
  · rintro (⟨hsplit, hbefore, hmatches, htracing, hmode⟩ | hnone)
    · obtain ⟨rule, hmakes⟩ := hmatches.usable
      obtain ⟨text, htext, hruleMode⟩ := hmakes.tracing
      obtain rfl := Option.some.inj (htracing.symm.trans htext)
      rw [allowsTracing_of_firstMatch hresources hsplit hbefore hmatches hmakes]
      exact hruleMode.unique hmode
    · exact allowsTracing_of_noMatch hresources hnone
  · rintro rfl
    rcases firstMatch_cases entries signals with
      ⟨before, s, behind, hsplit, hbefore, hmatches⟩ | hnone
    · obtain ⟨rule, hmakes⟩ := hmatches.usable
      obtain ⟨text, htext, hmode⟩ := hmakes.tracing
      rw [allowsTracing_of_firstMatch hresources hsplit hbefore hmatches hmakes]
      exact .byEntry hsplit hbefore hmatches htext hmode
    · rw [allowsTracing_of_noMatch hresources hnone]
      exact .byMode hnone

end Policy

end TransactionSetting

/-! ## Requests under a configured list -/

namespace Quota.Ledger

variable {α : Type} [Amount α] {p : Policy} {l : Ledger α} {a : Ask} {st : Settings α}

/-- A verdict tells the configuration that the request was decided on. -/
theorem verdict_of_inForce (hforce : l.InForce st) {v : Verdict α}
    (hv : (l.decide p a).2 = .ok v) :
    v.config = some (narrowed p st a.signals) ∧
      v.measured = (narrowed p st a.signals).tracing := by
  have hcurrent := current?_eq_some_iff.2 hforce
  cases hselection : l.selection? p a with
  | some c =>
    obtain ⟨hconfig, htracing, -⟩ := selection?_eq_some_iff.1 hselection
    rw [config?, hcurrent, Option.map_some] at hconfig
    rw [decide_of_selection?_eq_some hselection] at hv
    obtain rfl := Except.ok.inj hv
    exact ⟨hconfig.symm, by rw [Option.some.inj hconfig, htracing]⟩
  | none =>
    rcases unselected_cases hselection with
      hnone | ⟨st', hcurrent', hoff | ⟨hon, hselected | ⟨e, hselected⟩⟩⟩
    · simp [hnone] at hcurrent
    all_goals obtain rfl : st' = st := Option.some.inj (hcurrent'.symm.trans hcurrent)
    · simp [decide, hcurrent, hoff] at hv
      simp [← hv, hoff]
    · simp [decide, hcurrent, hon, hselected] at hv
      simp [← hv, hon]
    · simp [decide, hcurrent, hon, hselected] at hv

/-- Where there is no verdict, tracing is on for the request. -/
theorem tracing_of_error (hforce : l.InForce st) {e : VerdictError}
    (he : (l.decide p a).2 = .error e) : (narrowed p st a.signals).tracing = true := by
  have hcurrent := current?_eq_some_iff.2 hforce
  rw [← Bool.not_eq_false]
  intro hoff
  simp [decide, hcurrent, hoff] at he

end Quota.Ledger

namespace Configuration

open Quota Quota.Ledger TransactionSetting

/-- Of the transaction settings of an environment the usable entries make the rules, one each and in
their order; two environments that differ in other entries only have the same answers in every run.
Where the settings in force have tracing on, it is on or off for a request as the first usable entry
says that matches one of its signals, or else as the mode of the environment says; and the verdict
says so, or there is none, for the parent does not read while tracing is on. -/
theorem prescribed_ofEnvironment (α : Type) [Amount α] (e : Environment)
    (entries : List TransactionSetting)
    (hread : (e.get? .transactionSettings).bind readEntries? = some entries) :
    let c := ofEnvironment e
    List.Forall₂ Makes (entries.filter Usable) c.rules ∧
    (∀ e' entries', (e'.get? .transactionSettings).bind readEntries? = some entries' →
      entries'.filter Usable = entries.filter Usable →
      e'.mode? .tracingMode = e.mode? .tracingMode →
      e'.mode? .triggerTrace = e.mode? .triggerTrace →
      ∀ (l : Ledger α) events,
        Ledger.run (ofEnvironment e').policy l events = Ledger.run c.policy l events) ∧
    ∀ (l : Ledger α) st, l.InForce st → st.tracing = true → ∀ a : Ask,
      (∀ on, Prescribed entries c.tracing a.signals on ↔
        (narrowed c.policy st a.signals).tracing = on) ∧
      (∀ v, (l.decide c.policy a).2 = .ok v →
        v.config = some (narrowed c.policy st a.signals) ∧
          Prescribed entries c.tracing a.signals v.measured) ∧
      (∀ problem, (l.decide c.policy a).2 = .error problem →
        Prescribed entries c.tracing a.signals true) := by
  intro c
  have hrules : ∀ {e : Environment} {entries : List TransactionSetting},
      (e.get? .transactionSettings).bind readEntries? = some entries →
      (ofEnvironment e).rules = TransactionSetting.rules entries := by
    intro e entries hread
    simp only [ofEnvironment, hread, Option.map_some, Option.getD_some]
  have hresources : c.policy.resources = TransactionSetting.rules entries := hrules hread
  refine ⟨?_, ?_, ?_⟩
  · rw [hrules hread]
    exact forall₂_makes_rules entries
  · intro e' entries' hread' husable hmode htrigger l events
    have hpolicy : (ofEnvironment e').policy = c.policy := by
      simp only [c, policy, hrules hread', hrules hread, rules_congr husable]
      simp only [ofEnvironment, hmode, htrigger]
    rw [hpolicy]
  · intro l st hforce hremote a
    have htracing : (narrowed c.policy st a.signals).tracing =
        c.policy.allowsTracing a.signals := by
      rw [narrowed, hremote, Bool.true_and]
    have hprescribed : ∀ on, Prescribed entries c.tracing a.signals on ↔
        (narrowed c.policy st a.signals).tracing = on := by
      intro on
      rw [htracing]
      exact prescribed_iff hresources
    refine ⟨hprescribed, ?_, ?_⟩
    · intro v hv
      obtain ⟨hconfig, hmeasured⟩ := verdict_of_inForce hforce hv
      exact ⟨hconfig, (hprescribed _).2 hmeasured.symm⟩
    · intro problem hproblem
      exact (hprescribed true).2 (tracing_of_error hforce hproblem)

/-- The mode for all requests is off, and of two settings that match a request the first one turns
tracing on for it. The two before them have no effect: the pattern of one does not compile, and the
other one has no mode. -/
theorem prescribed_ofEnvironment_unusable :
    let usable := "[\"^$\", \" Always\"], [\"\", \"never\"]]"
    let mode := (Variable.tracingMode.name, "Disabled")
    let e : Environment :=
      [(Variable.transactionSettings.name, "[[\"(\", \"never\"], [\"\", null], " ++ usable), mode]
    let e' : Environment := [(Variable.transactionSettings.name, "[" ++ usable), mode]
    let entries' : List TransactionSetting :=
      [⟨some "^$", some " Always"⟩, ⟨some "", some "never"⟩]
    let entries : List TransactionSetting :=
      [⟨some "(", some "never"⟩, ⟨some "", none⟩] ++ entries'
    let c := ofEnvironment e
    let l : Ledger Float := { settings := some {} }
    let a : Ask := { name := "GET", signals := ["", "SERVER:GET"] }
    (e.get? .transactionSettings).bind readEntries? = some entries ∧
      (e'.get? .transactionSettings).bind readEntries? = some entries' ∧
      entries'.filter Usable = entries.filter Usable ∧ (entries.filter Usable).length = 2 ∧
      c.tracing = some false ∧ l.InForce {} ∧
      List.Forall₂ Makes (entries.filter Usable) c.rules ∧
      Ledger.run (ofEnvironment e').policy l [.ask a] = Ledger.run c.policy l [.ask a] ∧
      (narrowed c.policy ({} : Settings Float) a.signals).tracing = true ∧
      Prescribed entries c.tracing a.signals true := by
  intro usable mode e e' entries' entries c l a
  have hread : (e.get? .transactionSettings).bind readEntries? = some entries := by decide +kernel
  have hread' : (e'.get? .transactionSettings).bind readEntries? = some entries' := by
    decide +kernel
  have husable : entries'.filter Usable = entries.filter Usable := by decide +kernel
  have hforce : l.InForce {} := ⟨rfl, by decide⟩
  obtain ⟨hrules, hinert, htracing⟩ := prescribed_ofEnvironment Float e entries hread
  obtain ⟨hprescribed, -, -⟩ := htracing l {} hforce rfl a
  have hon : (narrowed c.policy ({} : Settings Float) a.signals).tracing = true := by
    decide +kernel
  exact ⟨hread, hread', husable, by decide +kernel, by decide +kernel, hforce, hrules,
    hinert e' entries' hread' husable (by decide +kernel) (by decide +kernel) l [.ask a], hon,
    (hprescribed true).2 hon⟩

end Configuration

end TraceSampler
