import Activation.Proofs.Verdict

/-!
# Which rules of a unit are evaluated

A verdict is a match if every rule by itself is, and this says nothing about the order in
which rules are evaluated.  The outcomes do: the rules are taken in the order of the ranks of
their kinds, those of a kind as they were declared (`Rule.byRank`), and the list is cut off
after the last rule of the first kind of which a rule fails (`Verdict.Evaluated`).

The list is cut between kinds, never within one.  So the outcomes that fail are of one kind,
of this kind nothing is left out, and since the kinds that read the registry have the highest
ranks, no rule reads the registry once another one has failed (`Verdict.Judges`).

* `Verdict.flatten_grouped`: going through the rules kind by kind is sorting them by rank,
  where the sorting is stable.
* `Verdict.ofRules_evaluated`: what the outcomes are the outcomes of.
* `Verdict.ofUnit_judges`: the verdict on the rules of a unit, or the first of them that is
  at fault.
-/

namespace Activation

namespace Kind

theorem eq_of_rank_eq {first second : Kind} (h : first.rank = second.rank) : first = second := by
  have hplace := byRank_getElem?_rank first
  rw [h, byRank_getElem?_rank] at hplace
  exact (Option.some.inj hplace).symm

theorem pairwise_rank_byRank : byRank.Pairwise fun first second => first.rank < second.rank := by
  decide

/-- The kinds behind a kind are of higher ranks. -/
theorem rank_lt_of_byRank_eq {kind other : Kind} {earlier later : List Kind}
    (hsplit : byRank = earlier ++ kind :: later) (ho : other ∈ later) : kind.rank < other.rank := by
  have hsorted := pairwise_rank_byRank
  rw [hsplit] at hsorted
  exact (List.pairwise_cons.mp (List.pairwise_append.mp hsorted).2.1).1 other ho

/-- The kinds that read the registry are those of the highest ranks. -/
theorem readsRegistry_iff {kind : Kind} : kind.readsRegistry = true ↔ onBean.rank ≤ kind.rank := by
  cases kind <;> decide

/-- The kinds that do not read the registry stand before those that do. -/
theorem exists_byRank_eq_append :
    ∃ sparing reading, byRank = sparing ++ reading ∧
      ∀ kind, kind ∈ sparing ↔ kind.readsRegistry = false :=
  ⟨[onClass, onMissingClass, onWebApplication, onProperty],
    [onBean, onSingleCandidate, onMissingBean], rfl, fun kind => by cases kind <;> decide⟩

end Kind

namespace Rule

variable {context : Context} {rule : Rule} {rules sorted : List Rule} {kind : Kind}

/-- The outcome of a rule is of the kind of the rule. -/
theorem kind_evaluate : (rule.evaluate context).kind = rule.kind := by
  cases rule with
  | requiresSymbols symbols => rw [evaluate, evaluateRequired]; split <;> rfl
  | forbidsSymbols symbols => rw [evaluate, evaluateForbidden]; split <;> rfl
  | requiresBeans query => rw [evaluate, BeanQuery.evaluatePresent]; split <;> rfl
  | requiresSingleBean query =>
    rw [evaluate, BeanQuery.evaluateSingle]
    split
    · rfl
    · split <;> rfl
  | forbidsBeans query => rw [evaluate, BeanQuery.evaluateAbsent]; split <;> rfl
  | requiresProperties query =>
    rw [evaluate, PropertyQuery.evaluate]
    split
    · rfl
    · split <;> rfl
  | requiresWeb need => rw [evaluate, WebNeed.evaluate]; split <;> rfl

/-- A rule of a kind that does not read the registry has the same outcome with every
registry. -/
theorem evaluate_of_not_readsRegistry (h : rule.kind.readsRegistry = false)
    (registry : Registry) : rule.evaluate { context with registry } = rule.evaluate context := by
  cases rule with
  | requiresSymbols | forbidsSymbols | requiresProperties | requiresWeb => rfl
  | requiresBeans | requiresSingleBean | forbidsBeans => cases h

/-! ## Sorting by rank -/

/-- **The rules in the order of evaluation**: by the ranks of their kinds, and those of a kind
as they were declared. -/
def byRank (rules : List Rule) : List Rule :=
  rules.mergeSort fun first second => first.kind.rank ≤ second.kind.rank

theorem mem_byRank : rule ∈ byRank rules ↔ rule ∈ rules :=
  (List.mergeSort_perm rules _).mem_iff

theorem rank_le_trans (first second third : Rule)
    (hfs : decide (first.kind.rank ≤ second.kind.rank) = true)
    (hst : decide (second.kind.rank ≤ third.kind.rank) = true) :
    decide (first.kind.rank ≤ third.kind.rank) = true :=
  decide_eq_true (Nat.le_trans (of_decide_eq_true hfs) (of_decide_eq_true hst))

theorem rank_le_total (first second : Rule) :
    (decide (first.kind.rank ≤ second.kind.rank) ||
      decide (second.kind.rank ≤ first.kind.rank)) = true := by
  simpa using Nat.le_total _ _

theorem pairwise_byRank :
    (byRank rules).Pairwise fun first second => first.kind.rank ≤ second.kind.rank :=
  (List.pairwise_mergeSort rank_le_trans rank_le_total rules).imp of_decide_eq_true

/-- Rules that are put in another order and kept among each other are the same in both
orders. -/
theorem filter_eq_of_sublist (hperm : sorted.Perm rules)
    (hsub : (rules.filter fun rule => rule.kind = kind).Sublist sorted) :
    (sorted.filter fun rule => rule.kind = kind) = rules.filter fun rule => rule.kind = kind := by
  have hfilter := hsub.filter fun rule => decide (rule.kind = kind)
  rw [List.filter_filter] at hfilter
  simp only [Bool.and_self] at hfilter
  exact (hfilter.eq_of_length (hperm.filter _).length_eq.symm).symm

/-- Sorting keeps the rules of a kind as they were declared. -/
theorem filter_byRank (rules : List Rule) (kind : Kind) :
    ((byRank rules).filter fun rule => rule.kind = kind) =
      rules.filter fun rule => rule.kind = kind := by
  have hsame : (rules.filter fun rule => rule.kind = kind).Pairwise fun first second =>
      decide (first.kind.rank ≤ second.kind.rank) = true := by
    refine List.pairwise_of_forall_mem_list fun first hf second hs => ?_
    rw [of_decide_eq_true (List.mem_filter.mp hf).2, of_decide_eq_true (List.mem_filter.mp hs).2,
      decide_eq_true_eq]
  exact filter_eq_of_sublist (List.mergeSort_perm rules _)
    (List.sublist_mergeSort rank_le_trans rank_le_total hsame List.filter_sublist)

theorem mem_iff_of_filter_eq {first second : List Rule}
    (h : (first.filter fun other => other.kind = rule.kind) =
      second.filter fun other => other.kind = rule.kind) : rule ∈ first ↔ rule ∈ second := by
  have hiff : (rule ∈ first.filter fun other => other.kind = rule.kind) ↔
      rule ∈ second.filter fun other => other.kind = rule.kind := by rw [h]
  simpa only [List.mem_filter, decide_true, and_true] using hiff

/-- **There is one way to sort by rank** that keeps the rules of every kind as they were. -/
theorem eq_of_filter_eq {first second : List Rule}
    (hfirst : first.Pairwise fun rule other => rule.kind.rank ≤ other.kind.rank)
    (hsecond : second.Pairwise fun rule other => rule.kind.rank ≤ other.kind.rank)
    (h : ∀ kind, (first.filter fun rule => rule.kind = kind) =
      second.filter fun rule => rule.kind = kind) : first = second := by
  induction first generalizing second with
  | nil =>
    symm
    rw [List.eq_nil_iff_forall_not_mem]
    exact fun rule hr => List.not_mem_nil ((mem_iff_of_filter_eq (h rule.kind)).mpr hr)
  | cons rule first ih =>
    cases second with
    | nil =>
      exact absurd ((mem_iff_of_filter_eq (h rule.kind)).mp List.mem_cons_self) List.not_mem_nil
    | cons other second =>
      rw [List.pairwise_cons] at hfirst hsecond
      -- each head stands in the other list, and so both are of the least rank
      have hle : rule.kind.rank ≤ other.kind.rank := by
        rcases List.mem_cons.mp ((mem_iff_of_filter_eq (h other.kind)).mpr List.mem_cons_self)
          with rfl | hm
        · exact Nat.le_refl _
        · exact hfirst.1 other hm
      have hge : other.kind.rank ≤ rule.kind.rank := by
        rcases List.mem_cons.mp ((mem_iff_of_filter_eq (h rule.kind)).mp List.mem_cons_self)
          with rfl | hm
        · exact Nat.le_refl _
        · exact hsecond.1 rule hm
      have hkind : rule.kind = other.kind := Kind.eq_of_rank_eq (Nat.le_antisymm hle hge)
      have hheads := h other.kind
      simp only [List.filter_cons, hkind, decide_true, if_true] at hheads
      obtain rfl : rule = other := (List.cons.inj hheads).1
      rw [ih hfirst.2 hsecond.2 fun kind => ?_]
      have htails := h kind
      simp only [List.filter_cons] at htails
      split at htails
      · exact (List.cons.inj htails).2
      · exact htails

end Rule

namespace Verdict

variable {context : Context} {rules evaluated : List Rule} {kind : Kind}

/-- The groups have the kinds that they were made for. -/
theorem kind_of_mem_filter {rule : Rule} (h : rule ∈ rules.filter fun rule => rule.kind = kind) :
    rule.kind = kind :=
  of_decide_eq_true (List.mem_filter.mp h).2

/-- **Going through the rules kind by kind** is going through them sorted by rank. -/
theorem flatten_grouped (rules : List Rule) : (grouped rules).flatten = Rule.byRank rules := by
  refine Rule.eq_of_filter_eq ?_ Rule.pairwise_byRank fun kind => ?_
  · rw [grouped, List.pairwise_flatten, List.pairwise_map]
    refine ⟨?_, Kind.pairwise_rank_byRank.imp fun hlt rule hr other ho => ?_⟩
    · intro group hg
      obtain ⟨kind, -, rfl⟩ := List.mem_map.mp hg
      refine List.pairwise_of_forall_mem_list fun rule hr other ho => ?_
      rw [kind_of_mem_filter hr, kind_of_mem_filter ho]
    · rw [kind_of_mem_filter hr, kind_of_mem_filter ho]
      exact Nat.le_of_lt hlt
  · rw [Rule.filter_byRank]
    exact Rule.filter_eq_of_sublist (flatten_grouped_perm rules)
      (List.sublist_flatten_of_mem (List.mem_map_of_mem (Kind.mem_byRank kind)))

/-! ## Where the list is cut off -/

/-- **A kind is the first of which a rule fails**, in the order of ranks. -/
def FirstFailing (context : Context) (rules : List Rule) (kind : Kind) : Prop :=
  (∃ rule ∈ rules, rule.kind = kind ∧ (rule.evaluate context).matched = false) ∧
    ∀ rule ∈ rules, (rule.evaluate context).matched = false → kind.rank ≤ rule.kind.rank

/-- **The rules that are evaluated**, in their order: all of them if they match, and otherwise
those up to the last rule of the first kind of which one fails. -/
inductive Evaluated (context : Context) (rules : List Rule) : List Rule → Prop where
  | all (matching : ∀ rule ∈ rules, (rule.evaluate context).matched = true) :
    Evaluated context rules (Rule.byRank rules)
  | upTo {before : List Rule} {last : Rule} {rest : List Rule}
      (split : Rule.byRank rules = before ++ last :: rest)
      (failing : FirstFailing context rules last.kind)
      (others : ∀ rule ∈ rest, rule.kind ≠ last.kind) :
    Evaluated context rules (before ++ [last])

namespace Evaluated

variable {rule failing : Rule}

theorem mem_rules (h : Evaluated context rules evaluated) (hr : rule ∈ evaluated) :
    rule ∈ rules := by
  cases h with
  | all => exact Rule.mem_byRank.mp hr
  | upTo split =>
    rw [← Rule.mem_byRank, split, List.append_cons]
    exact List.mem_append_left _ hr

/-- **What is evaluated** stands no later than what fails. -/
theorem rank_le (h : Evaluated context rules evaluated) (hr : rule ∈ evaluated)
    (hf : failing ∈ rules) (hfails : (failing.evaluate context).matched = false) :
    rule.kind.rank ≤ failing.kind.rank := by
  cases h with
  | all matching => exact absurd (matching failing hf) (hfails ▸ Bool.false_ne_true)
  | @upTo before last rest split first others =>
    have hlast : rule.kind.rank ≤ last.kind.rank := by
      have hsorted : (before ++ last :: rest).Pairwise fun rule other =>
          rule.kind.rank ≤ other.kind.rank := split ▸ Rule.pairwise_byRank
      rcases List.mem_append.mp hr with hb | hl
      · exact (List.pairwise_append.mp hsorted).2.2 rule hb last List.mem_cons_self
      · rw [List.mem_singleton.mp hl]
    exact Nat.le_trans hlast (first.2 failing hf hfails)

/-- What is evaluated and fails is of one kind. -/
theorem kind_eq (h : Evaluated context rules evaluated)
    (hr : rule ∈ evaluated) (hrfails : (rule.evaluate context).matched = false)
    (hf : failing ∈ evaluated) (hfails : (failing.evaluate context).matched = false) :
    rule.kind = failing.kind :=
  Kind.eq_of_rank_eq (Nat.le_antisymm (h.rank_le hr (h.mem_rules hf) hfails)
    (h.rank_le hf (h.mem_rules hr) hrfails))

/-- **Of the kind that fails** every rule is evaluated. -/
theorem filter_eq (h : Evaluated context rules evaluated) (hf : failing ∈ evaluated)
    (hfails : (failing.evaluate context).matched = false) :
    (evaluated.filter fun rule => rule.kind = failing.kind) =
      rules.filter fun rule => rule.kind = failing.kind := by
  have hmem : failing ∈ rules := h.mem_rules hf
  have hle : ∀ rule ∈ rules, (rule.evaluate context).matched = false →
      failing.kind.rank ≤ rule.kind.rank := fun rule hr hfails => h.rank_le hf hr hfails
  cases h with
  | all => exact Rule.filter_byRank rules _
  | @upTo before last rest split first others =>
    obtain ⟨rule, hr, hkind, hrfails⟩ := first.1
    have hlast : failing.kind = last.kind :=
      Kind.eq_of_rank_eq (Nat.le_antisymm (hkind ▸ hle rule hr hrfails)
        (first.2 failing hmem hfails))
    have hrest : (rest.filter fun rule => rule.kind = failing.kind) = [] := by
      rw [List.filter_eq_nil_iff]
      intro rule hr
      rw [hlast, decide_eq_true_eq]
      exact others rule hr
    have hends : before ++ last :: rest = before ++ [last] ++ rest := List.append_cons ..
    rw [← Rule.filter_byRank rules, split, hends, List.filter_append _ rest, hrest,
      List.append_nil]

end Evaluated

/-- Groups that all match are reported in full; of others, the first that does not match is the
last that is reported. -/
theorem ofGroups_cases (groups : List (List Outcome)) :
    (∀ group ∈ groups, group.all Outcome.matched = true) ∧
        ofGroups groups = ⟨true, groups.flatten⟩ ∨
      ∃ before group after, groups = before ++ group :: after ∧
        (∀ other ∈ before, other.all Outcome.matched = true) ∧
        group.all Outcome.matched = false ∧
        ofGroups groups = ⟨false, before.flatten ++ group⟩ := by
  induction groups with
  | nil => exact Or.inl ⟨fun _ h => absurd h List.not_mem_nil, rfl⟩
  | cons group groups ih =>
    cases hg : group.all Outcome.matched with
    | false =>
      refine Or.inr ⟨[], group, groups, rfl, fun _ h => absurd h List.not_mem_nil, hg, ?_⟩
      rw [ofGroups, hg]
      rfl
    | true =>
      rcases ih with ⟨hall, heq⟩ | ⟨before, other, after, rfl, hbefore, hother, heq⟩
      · refine Or.inl ⟨List.forall_mem_cons.mpr ⟨hg, hall⟩, ?_⟩
        rw [ofGroups, if_pos hg, heq]
        rfl
      · refine Or.inr ⟨group :: before, other, after, rfl, List.forall_mem_cons.mpr ⟨hg, hbefore⟩,
          hother, ?_⟩
        rw [ofGroups, if_pos hg, heq, List.flatten_cons, List.append_assoc]

/-- The outcomes of the rules of a kind. -/
def outcomesOf (context : Context) (rules : List Rule) (kind : Kind) : List Outcome :=
  (rules.filter fun rule => rule.kind = kind).map (Rule.evaluate context)

theorem ofRules_eq_ofGroups (context : Context) (rules : List Rule) :
    ofRules context rules = ofGroups (Kind.byRank.map (outcomesOf context rules)) := by
  rw [ofRules, grouped, List.map_map]
  rfl

theorem all_outcomesOf_iff :
    (outcomesOf context rules kind).all Outcome.matched = true ↔
      ∀ rule ∈ rules, rule.kind = kind → (rule.evaluate context).matched = true := by
  rw [outcomesOf, List.all_map, List.all_eq_true]
  simp only [List.mem_filter, decide_eq_true_eq, and_imp, Function.comp_apply]

theorem exists_of_all_outcomesOf (h : (outcomesOf context rules kind).all Outcome.matched = false) :
    ∃ rule ∈ rules, rule.kind = kind ∧ (rule.evaluate context).matched = false := by
  rw [← Bool.not_eq_true, all_outcomesOf_iff] at h
  push Not at h
  simpa only [Bool.not_eq_true] using h

/-- The first group with a failure is the group of the first kind of which a rule fails. -/
theorem firstFailing_of_split {earlier later : List Kind}
    (hsplit : Kind.byRank = earlier ++ kind :: later)
    (hearlier : ∀ other ∈ earlier, (outcomesOf context rules other).all Outcome.matched = true)
    (hkind : (outcomesOf context rules kind).all Outcome.matched = false) :
    FirstFailing context rules kind := by
  refine ⟨exists_of_all_outcomesOf hkind, fun rule hr hfails => ?_⟩
  have hplace : rule.kind ∈ earlier ++ kind :: later := hsplit ▸ Kind.mem_byRank rule.kind
  rcases List.mem_append.mp hplace with he | hl
  · have hmatched := all_outcomesOf_iff.mp (hearlier rule.kind he) rule hr rfl
    exact absurd hmatched (hfails ▸ Bool.false_ne_true)
  · rcases List.mem_cons.mp hl with heq | hl
    · exact Nat.le_of_eq (congrArg Kind.rank heq.symm)
    · exact Nat.le_of_lt (Kind.rank_lt_of_byRank_eq hsplit hl)

/-- The rules of some kinds, kind by kind. -/
def ofKinds (rules : List Rule) (kinds : List Kind) : List Rule :=
  kinds.flatMap fun kind => rules.filter fun rule => rule.kind = kind

theorem byRank_eq_ofKinds (rules : List Rule) : Rule.byRank rules = ofKinds rules Kind.byRank := by
  rw [← flatten_grouped, grouped, ofKinds, List.flatMap_def]

theorem flatten_map_outcomesOf (kinds : List Kind) :
    (kinds.map (outcomesOf context rules)).flatten =
      (ofKinds rules kinds).map (Rule.evaluate context) := by
  rw [ofKinds, List.map_flatMap, List.flatMap_def]
  rfl

theorem kind_mem_of_mem_ofKinds {kinds : List Kind} {rule : Rule}
    (hr : rule ∈ ofKinds rules kinds) : rule.kind ∈ kinds := by
  rw [ofKinds, List.mem_flatMap] at hr
  obtain ⟨kind, hk, hr⟩ := hr
  rwa [kind_of_mem_filter hr]

/-- **The rules up to a kind** are those evaluated if it is the first kind of which one fails. -/
theorem evaluated_ofKinds {earlier later : List Kind}
    (hsplit : Kind.byRank = earlier ++ kind :: later)
    (hfirst : FirstFailing context rules kind) :
    Evaluated context rules
      (ofKinds rules earlier ++ rules.filter fun rule => rule.kind = kind) := by
  obtain ⟨failing, hf, hkind, -⟩ := hfirst.1
  have horder : Rule.byRank rules = ofKinds rules earlier ++
      ((rules.filter fun rule => rule.kind = kind) ++ ofKinds rules later) := by
    rw [byRank_eq_ofKinds, hsplit, ofKinds, List.flatMap_append, List.flatMap_cons]
    rfl
  -- a rule of the kind fails, so there is a last rule of the kind
  rcases List.eq_nil_or_concat (rules.filter fun rule => rule.kind = kind) with
    hnil | ⟨group, last, hgroup⟩
  · exact absurd (decide_eq_true hkind) (List.filter_eq_nil_iff.mp hnil failing hf)
  · rw [List.concat_eq_append] at hgroup
    have hmem : last ∈ rules.filter fun rule => rule.kind = kind := by
      rw [hgroup]
      exact List.mem_append_right _ (List.mem_singleton_self last)
    obtain rfl : last.kind = kind := kind_of_mem_filter hmem
    rw [hgroup, List.append_assoc, List.singleton_append, ← List.append_assoc] at horder
    rw [hgroup, ← List.append_assoc]
    refine .upTo horder hfirst fun rule hr heq => ?_
    have hlt := Kind.rank_lt_of_byRank_eq hsplit (kind_mem_of_mem_ofKinds hr)
    rw [heq] at hlt
    exact Nat.lt_irrefl _ hlt

/-- **What the outcomes of a verdict are the outcomes of.** -/
theorem ofRules_evaluated (context : Context) (rules : List Rule) :
    ∃ evaluated, Evaluated context rules evaluated ∧
      (ofRules context rules).outcomes = evaluated.map (Rule.evaluate context) := by
  rw [ofRules_eq_ofGroups]
  rcases ofGroups_cases (Kind.byRank.map (outcomesOf context rules)) with
    ⟨hall, heq⟩ | ⟨before, group, after, hsplit, hbefore, hgroup, heq⟩
  · refine ⟨Rule.byRank rules, .all fun rule hr => ?_, ?_⟩
    · exact all_outcomesOf_iff.mp (hall _ (List.mem_map_of_mem (Kind.mem_byRank rule.kind)))
        rule hr rfl
    · rw [heq, byRank_eq_ofKinds, flatten_map_outcomesOf]
  · obtain ⟨earlier, kinds, hkinds, rfl, hrest⟩ := List.map_eq_append_iff.mp hsplit
    obtain ⟨kind, later, rfl, rfl, rfl⟩ := List.map_eq_cons_iff.mp hrest
    have hfirst : FirstFailing context rules kind :=
      firstFailing_of_split hkinds (List.forall_mem_map.mp hbefore) hgroup
    refine ⟨_, evaluated_ofKinds hkinds hfirst, ?_⟩
    rw [heq, flatten_map_outcomesOf, List.map_append]
    rfl

/-! ## The verdict -/

/-- Groups behind one that does not match are not looked at. -/
theorem ofGroups_append {groups further : List (List Outcome)}
    (h : (ofGroups groups).matched = false) : ofGroups (groups ++ further) = ofGroups groups := by
  induction groups with
  | nil => cases h
  | cons group groups ih =>
    rw [List.cons_append, ofGroups, ofGroups]
    split
    · next hg =>
      rw [ofGroups, if_pos hg] at h
      rw [ih h]
    · rfl

/-- **What fails without the registry** fails with every registry, and in the same way. -/
theorem ofRules_withRegistry {rule : Rule} (hr : rule ∈ rules)
    (hkind : rule.kind.readsRegistry = false) (hfails : (rule.evaluate context).matched = false)
    (registry : Registry) : ofRules { context with registry } rules = ofRules context rules := by
  obtain ⟨sparing, reading, hsplit, hspares⟩ := Kind.exists_byRank_eq_append
  have hsame : sparing.map (outcomesOf { context with registry } rules) =
      sparing.map (outcomesOf context rules) := by
    refine List.map_congr_left fun kind hk => List.map_congr_left fun rule hr => ?_
    refine Rule.evaluate_of_not_readsRegistry ?_ registry
    rw [kind_of_mem_filter hr]
    exact (hspares kind).mp hk
  have hunmatched : (ofGroups (sparing.map (outcomesOf context rules))).matched = false := by
    rw [← Bool.not_eq_true, matched_ofGroups, List.all_map, List.all_eq_true]
    intro hall
    have hmatched := all_outcomesOf_iff.mp (hall rule.kind ((hspares rule.kind).mpr hkind)) rule
      hr rfl
    exact Bool.false_ne_true (hfails.symm.trans hmatched)
  rw [ofRules_eq_ofGroups, ofRules_eq_ofGroups, hsplit, List.map_append, List.map_append, hsame,
    ofGroups_append hunmatched, ofGroups_append hunmatched]

/-- **What is known of a verdict** on rules that are not at fault. -/
structure Judges (context : Context) (rules : List Rule) (verdict : Verdict) : Prop where
  /-- It is a match if every rule by itself is. -/
  matched_iff : verdict.matched = true ↔ ∀ rule ∈ rules, (rule.evaluate context).matched = true
  /-- The rules are evaluated in their order, and no further than to the first kind that fails. -/
  outcomes_eq : ∃ evaluated, Evaluated context rules evaluated ∧
    verdict.outcomes = evaluated.map (Rule.evaluate context)
  /-- The outcomes that fail are of one kind. -/
  kind_eq : ∀ outcome ∈ verdict.outcomes, outcome.matched = false →
    ∀ other ∈ verdict.outcomes, other.matched = false → outcome.kind = other.kind
  /-- Of this kind there is an outcome for every rule. -/
  filter_eq : ∀ outcome ∈ verdict.outcomes, outcome.matched = false →
    (verdict.outcomes.filter fun other => other.kind = outcome.kind) =
      (rules.filter fun rule => rule.kind = outcome.kind).map (Rule.evaluate context)
  /-- If a rule fails that does not read the registry, then no rule reads it. -/
  spares : ∀ rule ∈ rules, rule.kind.readsRegistry = false →
    (rule.evaluate context).matched = false →
      (∀ outcome ∈ verdict.outcomes, outcome.kind.readsRegistry = false) ∧
        ∀ registry, ofRules { context with registry } rules = verdict

theorem ofRules_judges (context : Context) (rules : List Rule) :
    Judges context rules (ofRules context rules) := by
  obtain ⟨evaluated, hevaluated, houtcomes⟩ := ofRules_evaluated context rules
  refine ⟨matched_ofRules_iff, ⟨evaluated, hevaluated, houtcomes⟩, ?_, ?_, ?_⟩
  · rw [houtcomes]
    simp only [List.forall_mem_map, Rule.kind_evaluate]
    exact fun rule hr hrfails other ho hofails => hevaluated.kind_eq hr hrfails ho hofails
  · rw [houtcomes]
    simp only [List.forall_mem_map, Rule.kind_evaluate, List.filter_map, Function.comp_def]
    exact fun rule hr hfails => congrArg _ (hevaluated.filter_eq hr hfails)
  · intro rule hr hkind hfails
    refine ⟨?_, ofRules_withRegistry hr hkind hfails⟩
    rw [houtcomes]
    simp only [List.forall_mem_map, Rule.kind_evaluate]
    intro other ho
    have hle : other.kind.rank ≤ rule.kind.rank := hevaluated.rank_le ho hr hfails
    rw [← Bool.not_eq_true, Kind.readsRegistry_iff] at hkind ⊢
    exact fun h => hkind (Nat.le_trans h hle)

theorem ofUnit_eq_error_iff {unit : UnitName} {problem : Malformed} :
    ofUnit unit rules context = .error problem ↔ ∃ sound rule rest, rules = sound ++ rule :: rest ∧
      (∀ other ∈ sound, other.fault? = none) ∧ ∃ fault, rule.fault? = some fault ∧
        problem = ⟨unit, rule.kind, fault⟩ := by
  have hfound : ofUnit unit rules context = .error problem ↔
      rules.findSome? (Rule.malformed? unit) = some problem := by
    rw [ofUnit]
    cases rules.findSome? (Rule.malformed? unit) with
    | some found => simp
    | none => simp
  rw [hfound, List.findSome?_eq_some_iff]
  simp only [Rule.malformed?_eq_none_iff]
  refine exists_congr fun sound => exists_congr fun rule => exists_congr fun rest => ?_
  refine and_congr_right fun _ => and_comm.trans (and_congr_right fun _ => ?_)
  rw [Rule.malformed?, Option.map_eq_some_iff]
  exact exists_congr fun fault => and_congr_right fun _ => eq_comm

theorem ofUnit_of_sound {unit : UnitName} (h : ∀ rule ∈ rules, rule.fault? = none) :
    ofUnit unit rules context = .ok (ofRules context rules) := by
  have hnone : rules.findSome? (Rule.malformed? unit) = none := by
    rw [List.findSome?_eq_none_iff]
    exact fun rule hr => Rule.malformed?_eq_none_iff.mpr (h rule hr)
  rw [ofUnit, hnone]

theorem exists_ofUnit_eq_error_iff (unit : UnitName) (rules : List Rule) (context : Context) :
    (∃ problem, ofUnit unit rules context = .error problem) ↔
      ∃ rule ∈ rules, rule.fault? ≠ none := by
  constructor
  · rintro ⟨problem, h⟩
    obtain ⟨sound, rule, rest, rfl, -, fault, hfault, -⟩ := ofUnit_eq_error_iff.mp h
    exact ⟨rule, List.mem_append_right _ List.mem_cons_self, hfault ▸ Option.some_ne_none fault⟩
  · rintro ⟨rule, hr, hfault⟩
    cases hfound : rules.findSome? (Rule.malformed? unit) with
    | some problem => exact ⟨problem, by rw [ofUnit, hfound]⟩
    | none =>
      have hnone := List.findSome?_eq_none_iff.mp hfound rule hr
      exact absurd (Rule.malformed?_eq_none_iff.mp hnone) hfault

/-- The order in which rules are declared has no influence on whether there is a verdict and
whether it is a match. -/
theorem matched_ofUnit_perm {others : List Rule} (hperm : others.Perm rules) (unit : UnitName) :
    (ofUnit unit others context).toOption.map matched =
      (ofUnit unit rules context).toOption.map matched := by
  by_cases hsound : ∀ rule ∈ rules, rule.fault? = none
  · have hothers : ∀ rule ∈ others, rule.fault? = none :=
      fun rule hr => hsound rule (hperm.mem_iff.mp hr)
    have hmatched : (ofRules context others).matched = (ofRules context rules).matched := by
      rw [Bool.eq_iff_iff, matched_ofRules_iff, matched_ofRules_iff]
      simp only [hperm.mem_iff]
    rw [ofUnit_of_sound hsound, ofUnit_of_sound hothers]
    exact congrArg some hmatched
  · push Not at hsound
    obtain ⟨problem, hproblem⟩ := (exists_ofUnit_eq_error_iff unit rules context).mpr hsound
    obtain ⟨other, hother⟩ : ∃ other, ofUnit unit others context = .error other := by
      rw [exists_ofUnit_eq_error_iff]
      simpa only [hperm.mem_iff] using hsound
    rw [hproblem, hother]
    rfl

/-- **The verdict on the rules of a unit.**  There is none exactly if a rule is at fault, and then
the first rule at fault is named.  Otherwise the verdict is a match if every rule by itself is, and
its outcomes are those of the rules in the order of the ranks of their kinds, up to the last rule
of the first kind that fails.  The order of declaration has no influence on whether there is a
verdict and whether it is a match. -/
theorem ofUnit_judges (unit : UnitName) (rules : List Rule) (context : Context) :
    (∀ problem, ofUnit unit rules context = .error problem ↔
      ∃ sound rule rest, rules = sound ++ rule :: rest ∧ (∀ other ∈ sound, other.fault? = none) ∧
        ∃ fault, rule.fault? = some fault ∧ problem = ⟨unit, rule.kind, fault⟩) ∧
    ((∃ problem, ofUnit unit rules context = .error problem) ↔
      ∃ rule ∈ rules, rule.fault? ≠ none) ∧
    ((∀ rule ∈ rules, rule.fault? = none) →
      ∃ verdict, ofUnit unit rules context = .ok verdict ∧ Judges context rules verdict) ∧
    ∀ others, others.Perm rules →
      (ofUnit unit others context).toOption.map matched =
        (ofUnit unit rules context).toOption.map matched := by
  refine ⟨fun problem => ofUnit_eq_error_iff, exists_ofUnit_eq_error_iff unit rules context,
    fun hsound => ?_, fun others hperm => matched_ofUnit_perm hperm unit⟩
  exact ⟨ofRules context rules, ofUnit_of_sound hsound, ofRules_judges context rules⟩

end Verdict
end Activation
