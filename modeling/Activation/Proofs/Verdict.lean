import Activation.Proofs.Resolution.Evaluation
import Mathlib.Data.List.Perm.Basic

/-!
# A verdict is a match if every rule is

The rules of a unit are evaluated kind by kind, and after a kind with a failure nothing
else is looked at.  None of this shows in the verdict itself, which is a match exactly if
every rule, evaluated by itself, matches (`Verdict.matched_ofRules_iff`).  So one rule that
does not match is enough to turn a unit down, whatever the other rules say
(`Decision.isAccepted_given_eq_false`).

Nor are the outcomes at odds with the verdict: it is a match exactly if all of them are
(`Verdict.all_outcomes_ofGroups`), and then nothing was left out and there is one for every
rule (`Verdict.outcomes_ofRules_perm`).
-/

namespace Activation

namespace Rule

theorem malformed?_eq_some_iff {unit : UnitName} {problem : Malformed} {rule : Rule} :
    rule.malformed? unit = some problem ↔
      rule.fault? = some problem.fault ∧ problem.kind = rule.kind ∧ problem.unit = unit := by
  rw [malformed?, Option.map_eq_some_iff]
  constructor
  · rintro ⟨fault, hf, rfl⟩
    exact ⟨hf, rfl, rfl⟩
  · rintro ⟨hf, hk, rfl⟩
    exact ⟨problem.fault, hf, by rw [← hk]⟩

theorem malformed?_eq_none_iff {unit : UnitName} {rule : Rule} :
    rule.malformed? unit = none ↔ rule.fault? = none := by
  rw [malformed?, Option.map_eq_none_iff]

end Rule

namespace Verdict

/-- Groups match if every outcome in them does. -/
theorem matched_ofGroups (groups : List (List Outcome)) :
    (ofGroups groups).matched = groups.all fun group => group.all Outcome.matched := by
  induction groups with
  | nil => rfl
  | cons group groups ih =>
    rw [ofGroups, List.all_cons, ← ih]
    cases group.all Outcome.matched with
    | true => rfl
    | false => rfl

/-- Every rule is in the group of its kind, and nothing else is in any group. -/
theorem exists_mem_grouped_iff {rules : List Rule} {rule : Rule} :
    (∃ group ∈ grouped rules, rule ∈ group) ↔ rule ∈ rules := by
  constructor
  · rintro ⟨group, hg, hr⟩
    obtain ⟨kind, -, rfl⟩ := List.mem_map.mp hg
    exact (List.mem_filter.mp hr).1
  · intro hr
    refine ⟨_, List.mem_map_of_mem (Kind.mem_byRank rule.kind), ?_⟩
    exact List.mem_filter.mpr ⟨hr, decide_eq_true rfl⟩

/-- **A verdict is a match** exactly if every rule by itself is. -/
theorem matched_ofRules_iff {context : Context} {rules : List Rule} :
    (ofRules context rules).matched = true ↔
      ∀ rule ∈ rules, (rule.evaluate context).matched = true := by
  rw [ofRules, matched_ofGroups, List.all_map, List.all_eq_true]
  simp only [Function.comp_apply, List.all_map, List.all_eq_true]
  constructor
  · intro h rule hr
    obtain ⟨group, hg, hr⟩ := exists_mem_grouped_iff.mpr hr
    exact h group hg rule hr
  · exact fun h group hg rule hr => h rule (exists_mem_grouped_iff.mp ⟨group, hg, hr⟩)

theorem matched_ofRules_singleton (context : Context) (rule : Rule) :
    (ofRules context [rule]).matched = (rule.evaluate context).matched := by
  rw [Bool.eq_iff_iff, matched_ofRules_iff, List.forall_mem_singleton]

/-! ## The outcomes of a verdict -/

/-- A verdict is a match exactly if all of its outcomes are. -/
theorem all_outcomes_ofGroups (groups : List (List Outcome)) :
    (ofGroups groups).outcomes.all Outcome.matched = (ofGroups groups).matched := by
  induction groups with
  | nil => rfl
  | cons group groups ih =>
    rw [ofGroups]
    split
    · next h => rw [List.all_append, h, ih, Bool.true_and]
    · next h => rw [Bool.eq_false_iff.mpr h]

/-- If all groups match, nothing is cut off. -/
theorem outcomes_ofGroups {groups : List (List Outcome)} (h : (ofGroups groups).matched = true) :
    (ofGroups groups).outcomes = groups.flatten := by
  induction groups with
  | nil => rfl
  | cons group groups ih =>
    rw [matched_ofGroups, List.all_cons, Bool.and_eq_true, ← matched_ofGroups] at h
    rw [ofGroups, if_pos h.1, List.flatten_cons, ← ih h.2]

/-- Rules of different kinds are in different groups. -/
theorem flatten_map_filter_perm {kinds : List Kind} (h : kinds.Nodup) (rules : List Rule) :
    (kinds.map fun kind => rules.filter fun rule => rule.kind = kind).flatten.Perm
      (rules.filter fun rule => rule.kind ∈ kinds) := by
  induction kinds with
  | nil => simp
  | cons kind kinds ih =>
    rw [List.nodup_cons] at h
    have hgroup : (rules.filter fun rule => rule.kind ∈ kind :: kinds).filter
        (fun rule => rule.kind = kind) = rules.filter fun rule => rule.kind = kind := by
      rw [List.filter_filter]
      refine List.filter_congr fun rule _ => ?_
      by_cases hk : rule.kind = kind <;> simp [hk]
    have hrest : (rules.filter fun rule => rule.kind ∈ kind :: kinds).filter
        (fun rule => !decide (rule.kind = kind)) = rules.filter fun rule => rule.kind ∈ kinds := by
      rw [List.filter_filter]
      refine List.filter_congr fun rule _ => ?_
      by_cases hk : rule.kind = kind
      · simp [hk, h.1]
      · simp [hk]
    have hsplit := List.filter_append_perm (fun rule : Rule => decide (rule.kind = kind))
      (rules.filter fun rule => rule.kind ∈ kind :: kinds)
    rw [hgroup, hrest] at hsplit
    rw [List.map_cons, List.flatten_cons]
    exact ((ih h.2).append_left _).trans hsplit

/-- **The groups hold every rule once.** -/
theorem flatten_grouped_perm (rules : List Rule) : (grouped rules).flatten.Perm rules := by
  have hall : (rules.filter fun rule => rule.kind ∈ Kind.byRank) = rules := by
    rw [List.filter_eq_self]
    exact fun rule _ => decide_eq_true (Kind.mem_byRank rule.kind)
  have hnodup : Kind.byRank.Nodup := by decide
  have hperm := flatten_map_filter_perm hnodup rules
  rwa [hall] at hperm

/-- **A verdict that is a match** has one outcome for every rule. -/
theorem outcomes_ofRules_perm {context : Context} {rules : List Rule}
    (h : (ofRules context rules).matched = true) :
    (ofRules context rules).outcomes.Perm (rules.map (Rule.evaluate context)) := by
  rw [ofRules] at h ⊢
  rw [outcomes_ofGroups h, ← List.map_flatten]
  exact (flatten_grouped_perm rules).map _

end Verdict

namespace Decision

/-- **A unit is accepted** exactly if every rule of its definition matches; in particular if
it has no definition, or one without rules. -/
theorem isAccepted_given_iff {context : Context} {definition : Option Definition} :
    (given context definition).isAccepted = true ↔
      ∀ declared ∈ definition, ∀ rule ∈ declared.rules, (rule.evaluate context).matched = true := by
  cases definition with
  | none => simp [given, isAccepted]
  | some declared =>
    rw [given]
    by_cases hu : declared.isUnconditional = true
    · have hnil : declared.rules = [] := List.isEmpty_iff.mp hu
      rw [if_pos hu]
      simp [isAccepted, hnil]
    · rw [if_neg hu, isAccepted, Verdict.matched_ofRules_iff]
      simp

/-- One rule that does not match turns a unit down. -/
theorem isAccepted_given_eq_false {context : Context} {definition : Option Definition}
    {declared : Definition} (hd : definition = some declared) {rule : Rule}
    (hr : rule ∈ declared.rules) (hm : (rule.evaluate context).matched = false) :
    (given context definition).isAccepted = false := by
  rw [← Bool.not_eq_true, isAccepted_given_iff]
  intro h
  rw [h declared hd rule hr] at hm
  exact nomatch hm

end Decision
end Activation
