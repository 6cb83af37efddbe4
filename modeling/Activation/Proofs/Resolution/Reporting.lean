import Activation.Proofs.Prefilter.Partition
import Activation.Proofs.Resolution.Notifications
import Activation.Proofs.Verdict

/-!
# The report explains the result

A pass writes its report as it goes along, at four different places, and its result at
others.  They agree nevertheless.  The report is a list of notes, taken down one after the
other (`Report.note`): on every unit that was sorted out, the outcome against it, and on
every unit that was decided, its outcomes or that it has no conditions.  No unit is treated
twice, and so a note can be read back from the report as it was taken.

* `Report.exists_recorded`: outcomes are added to those of a unit, and the flag beside them
  says of all of them whether they are matches.
* `Report.units_notes`, `Report.unconditional_notes`: what a report holds after notes on
  different units.
* `Engine.Completes.exists_calls`: a decision is made with the beans of the units of
  which the host was told before.
* `Engine.Completes.outcomes?_iff`, `Engine.Completes.unconditional_report`: what the report of a
  successful pass holds.
* `Engine.resolve_reports`: so the report says of every unit why it is where it is.
-/

namespace Activation

/-! ## Outcomes and their flag -/

namespace UnitOutcomes

theorem outcomes_recordAll (entry : UnitOutcomes) (outcomes : List Outcome) :
    (entry.recordAll outcomes).outcomes = entry.outcomes ++ outcomes := by
  induction outcomes generalizing entry with
  | nil => exact (List.append_nil _).symm
  | cons outcome outcomes ih =>
    show ((entry.record outcome).recordAll outcomes).outcomes = _
    rw [ih]
    exact List.append_assoc ..

/-- What is recorded of a unit of which nothing was recorded before. -/
def of (outcomes : List Outcome) : UnitOutcomes :=
  ({} : UnitOutcomes).recordAll outcomes

theorem outcomes_of (outcomes : List Outcome) : (of outcomes).outcomes = outcomes :=
  outcomes_recordAll {} outcomes

end UnitOutcomes

namespace Report

/-- **Outcomes are recorded** at the end of those that the unit has already, and the flag, which
was kept up with each of them, says whether all of them are matches. -/
theorem exists_recorded (report : Report) (unit : UnitName) (outcomes : List Outcome) :
    ∃ recorded, (report.recordOutcomes unit outcomes).units[unit]? = some recorded ∧
      recorded.outcomes = (report.outcomes? unit).getD [] ++ outcomes ∧
      recorded.fullMatch = isFullMatch recorded.outcomes := by
  refine ⟨_, Std.ExtTreeMap.getElem?_insert_self, ?_, UnitOutcomes.fullMatch_eq _⟩
  rw [UnitOutcomes.outcomes_recordAll, outcomes?]
  cases report.units[unit]? with
  | none => rfl
  | some entry => rfl

/-! ## Notes -/

/-- A report with a note on a unit: its outcomes, or else that it has no conditions. -/
def note (report : Report) (entry : UnitName × Option (List Outcome)) : Report :=
  match entry.2 with
  | some outcomes => report.recordOutcomes entry.1 outcomes
  | none => report.recordUnconditional entry.1

/-- New names are added at the end. -/
theorem foldl_addName {names further : List UnitName} (h : (names ++ further).Nodup) :
    further.foldl addName names = names ++ further := by
  induction further generalizing names with
  | nil => rw [List.foldl_nil, List.append_nil]
  | cons name further ih =>
    have hnew : name ∉ names := fun hm =>
      (List.nodup_append.mp h).2.2 name hm name List.mem_cons_self rfl
    have hadd : addName names name = names ++ [name] := by
      rw [addName, if_neg fun hc => hnew (List.contains_iff_mem.mp hc)]
    rw [List.append_cons] at h ⊢
    rw [List.foldl_cons, hadd, ih h]

/-- Notes do not touch the exclusions. -/
theorem exclusions_notes (report : Report) (notes : List (UnitName × Option (List Outcome))) :
    (notes.foldl note report).exclusions = report.exclusions := by
  induction notes generalizing report with
  | nil => rfl
  | cons entry notes ih =>
    rw [List.foldl_cons, ih, note]
    cases entry.2 with
    | none => rfl
    | some outcomes => rfl

/-- **The units without conditions** are added one after the other. -/
theorem unconditional_notes (report : Report) (notes : List (UnitName × Option (List Outcome))) :
    (notes.foldl note report).unconditional =
      ((notes.filter fun entry => entry.2.isNone).map Prod.fst).foldl addName
        report.unconditional := by
  induction notes generalizing report with
  | nil => rfl
  | cons entry notes ih =>
    obtain ⟨unit, noted⟩ := entry
    rw [List.foldl_cons, ih, List.filter_cons]
    cases noted with
    | none => rfl
    | some outcomes => rfl

/-- **The outcomes of units** on which nothing was noted before are those that are noted. -/
theorem units_notes (report : Report) {notes : List (UnitName × Option (List Outcome))}
    (fresh : ∀ entry ∈ notes, entry.1 ∉ report.units) (h : (notes.map Prod.fst).Nodup) :
    (notes.foldl note report).units = report.units.insertMany
      (notes.filterMap fun entry => (entry.2.map UnitOutcomes.of).map fun recorded =>
        (entry.1, recorded)) := by
  induction notes generalizing report with
  | nil => rfl
  | cons entry notes ih =>
    obtain ⟨unit, noted⟩ := entry
    rw [List.map_cons, List.nodup_cons] at h
    have hfresh : ∀ entry ∈ notes, entry.1 ∉ report.units := fun entry he =>
      fresh entry (List.mem_cons_of_mem _ he)
    rw [List.foldl_cons, List.filterMap_cons]
    cases noted with
    | none => exact ih _ hfresh h.2
    | some outcomes =>
      have hnone : report.units[unit]? = none :=
        Std.ExtTreeMap.getElem?_eq_none (fresh (unit, some outcomes) List.mem_cons_self)
      have hunits : (report.recordOutcomes unit outcomes).units =
          report.units.insert unit (.of outcomes) := by
        rw [recordOutcomes, hnone]
        rfl
      have hnext : ∀ entry ∈ notes, entry.1 ∉ (report.recordOutcomes unit outcomes).units := by
        intro entry he hm
        rw [hunits, Std.ExtTreeMap.mem_insert, Std.LawfulEqCmp.compare_eq_iff_eq] at hm
        rcases hm with hsame | hm
        · exact h.1 (List.mem_map.mpr ⟨entry, he, hsame.symm⟩)
        · exact hfresh entry he hm
      rw [note, ih _ hnext h.2, hunits]
      exact (Std.ExtTreeMap.insertMany_cons ..).symm

end Report

/-- The outcomes that are noted on a unit that was decided; none if it has no conditions. -/
def Decision.noted : Decision → Option (List Outcome)
  | unconditional => none
  | judged verdict => some verdict.outcomes

theorem Decision.noted_eq_some_iff {decision : Decision} {outcomes : List Outcome} :
    decision.noted = some outcomes ↔ ∃ verdict, decision = judged verdict ∧
      verdict.outcomes = outcomes := by
  cases decision with
  | unconditional => simp [noted]
  | judged verdict => simp [noted]

namespace Engine

/-- The notes of a pass, in the order in which they are taken. -/
def notes (sorted : List (UnitName × Outcome)) (decisions : List (UnitName × Decision)) :
    List (UnitName × Option (List Outcome)) :=
  sorted.map (fun entry => (entry.1, some [entry.2])) ++
    decisions.map fun entry => (entry.1, entry.2.noted)

/-- **A report is made of notes**, after the exclusions. -/
theorem reportOn_eq (exclusions : List UnitName) (sorted : List (UnitName × Outcome))
    (decisions : List (UnitName × Decision)) :
    reportOn exclusions sorted decisions =
      (notes sorted decisions).foldl Report.note (({} : Report).recordExclusions exclusions) := by
  rw [notes, List.foldl_append, List.foldl_map, List.foldl_map, reportOn]
  refine List.foldl_ext _ _ _ fun report entry _ => ?_
  cases entry.2 with
  | unconditional => rfl
  | judged verdict => rfl

theorem map_fst_notes (sorted : List (UnitName × Outcome))
    (decisions : List (UnitName × Decision)) :
    (notes sorted decisions).map Prod.fst = sorted.map Prod.fst ++ decisions.map Prod.fst := by
  rw [notes, List.map_append, List.map_map, List.map_map]
  rfl

/-- The units without conditions among those that were decided. -/
def unconditionalIn (decisions : List (UnitName × Decision)) : List UnitName :=
  (decisions.filter fun entry => entry.2.noted.isNone).map Prod.fst

theorem mem_unconditionalIn {decisions : List (UnitName × Decision)} {unit : UnitName} :
    unit ∈ unconditionalIn decisions ↔ (unit, Decision.unconditional) ∈ decisions := by
  rw [unconditionalIn, List.mem_map]
  constructor
  · rintro ⟨⟨unit, decision⟩, hm, rfl⟩
    rw [List.mem_filter] at hm
    cases decision with
    | unconditional => exact hm.1
    | judged verdict => exact nomatch hm.2
  · exact fun hm => ⟨_, List.mem_filter.mpr ⟨hm, rfl⟩, rfl⟩

theorem map_fst_filter_notes (sorted : List (UnitName × Outcome))
    (decisions : List (UnitName × Decision)) :
    ((notes sorted decisions).filter fun entry => entry.2.isNone).map Prod.fst =
      unconditionalIn decisions := by
  have hsorted : (sorted.map fun entry => (entry.1, some [entry.2])).filter
      (fun entry : UnitName × Option (List Outcome) => entry.2.isNone) = [] := by
    rw [List.filter_eq_nil_iff]
    intro entry he
    obtain ⟨_, -, rfl⟩ := List.mem_map.mp he
    exact Bool.false_ne_true
  rw [notes, List.filter_append, hsorted, List.nil_append, List.filter_map, List.map_map]
  rfl

/-- **What is recorded of a unit** is the outcome for which it was sorted out, or the outcomes
of the verdict on it, as long as no unit was treated twice. -/
theorem outcomes?_reportOn {exclusions : List UnitName} {sorted : List (UnitName × Outcome)}
    {decisions : List (UnitName × Decision)}
    (h : (sorted.map Prod.fst ++ decisions.map Prod.fst).Nodup) {unit : UnitName}
    {outcomes : List Outcome} :
    (reportOn exclusions sorted decisions).outcomes? unit = some outcomes ↔
      (∃ outcome, (unit, outcome) ∈ sorted ∧ outcomes = [outcome]) ∨
        ∃ verdict, (unit, Decision.judged verdict) ∈ decisions ∧ verdict.outcomes = outcomes := by
  have hkeys : ((notes sorted decisions).map Prod.fst).Nodup := by rwa [map_fst_notes]
  have hunits := Report.units_notes (({} : Report).recordExclusions exclusions)
    (fun entry _ => Std.ExtTreeMap.not_mem_empty) hkeys
  have hempty : (({} : Report).recordExclusions exclusions).units = ∅ := rfl
  rw [hempty, ← Std.ExtTreeMap.ofList_eq_insertMany_empty] at hunits
  have hentries : (((notes sorted decisions).filterMap fun entry =>
      (entry.2.map UnitOutcomes.of).map fun recorded => (entry.1, recorded)).map Prod.fst).Nodup :=
    hkeys.sublist (map_fst_filterMap_sublist _ _)
  have hnoted : (reportOn exclusions sorted decisions).outcomes? unit = some outcomes ↔
      (unit, some outcomes) ∈ notes sorted decisions := by
    rw [Report.outcomes?, reportOn_eq, hunits, Option.map_eq_some_iff]
    simp only [Tables.getElem?_ofList_eq_some_iff hentries, List.mem_filterMap]
    constructor
    · rintro ⟨recorded, ⟨⟨unit, noted⟩, hm, he⟩, rfl⟩
      obtain ⟨recorded, hrecorded, he⟩ := Option.map_eq_some_iff.mp he
      cases he
      obtain ⟨outcomes, rfl, rfl⟩ := Option.map_eq_some_iff.mp hrecorded
      rwa [UnitOutcomes.outcomes_of]
    · exact fun hm => ⟨_, ⟨_, hm, rfl⟩, UnitOutcomes.outcomes_of outcomes⟩
  rw [hnoted, notes, List.mem_append, List.mem_map, List.mem_map]
  refine or_congr ?_ ?_
  · constructor
    · rintro ⟨⟨unit, outcome⟩, hm, he⟩
      cases he
      exact ⟨outcome, hm, rfl⟩
    · rintro ⟨outcome, hm, rfl⟩
      exact ⟨(unit, outcome), hm, rfl⟩
  · constructor
    · rintro ⟨⟨unit, decision⟩, hm, he⟩
      obtain ⟨rfl, hsome⟩ := Prod.mk.inj he
      obtain ⟨verdict, rfl, ho⟩ := Decision.noted_eq_some_iff.mp hsome
      exact ⟨verdict, hm, ho⟩
    · rintro ⟨verdict, hm, rfl⟩
      exact ⟨(unit, .judged verdict), hm, rfl⟩

/-! ## Decisions and the calls before them -/

end Engine

namespace Decision

variable {σ : Type} (host : Host σ) (oracle : Oracle) (catalog : Catalog) (env : Environment)

/-- **A decision of a run** is made in the state in which the units before have left the
host. -/
theorem exists_earlier_of_mem_run {state : σ} {units : List UnitName} {unit : UnitName}
    {decision : Decision} (h : (unit, decision) ∈ (run host oracle catalog env state units).1) :
    ∃ earlier later, units = earlier ++ unit :: later ∧
      decision = given (host.context oracle env (run host oracle catalog env state earlier).2)
        catalog[unit]? := by
  induction units generalizing state with
  | nil => exact nomatch h
  | cons first units ih =>
    rw [run] at h
    rcases List.mem_cons.mp h with he | ht
    · cases he
      exact ⟨[], units, rfl, rfl⟩
    · obtain ⟨earlier, later, rfl, hd⟩ := ih ht
      exact ⟨first :: earlier, later, rfl, hd⟩

/-- A decision without conditions is made about a unit whose definition declares none. -/
theorem given_eq_unconditional_iff {context : Context} {definition : Option Definition} :
    given context definition = unconditional ↔ ∀ declared ∈ definition, declared.rules = [] := by
  cases definition with
  | none => simp [given]
  | some declared => simp [given, Definition.isUnconditional]

/-- A unit that declares rules is judged by all of them. -/
theorem given_eq_judged {context : Context} {declared : Definition} (h : declared.rules ≠ []) :
    given context (some declared) = judged (Verdict.ofRules context declared.rules) := by
  rw [given, if_neg]
  exact fun hu => h (List.isEmpty_iff.mp hu)

/-- The outcomes of a judgement are all matches exactly if the verdict is. -/
theorem all_outcomes_of_given {context : Context} {definition : Option Definition}
    {verdict : Verdict} (h : given context definition = judged verdict) :
    verdict.outcomes.all Outcome.matched = verdict.matched := by
  cases definition with
  | none => cases h
  | some declared =>
    rw [given] at h
    split at h
    · cases h
    · cases h
      exact Verdict.all_outcomes_ofGroups _

theorem against?_eq_some_iff {decision : Decision} {outcomes : List Outcome} :
    decision.against? = some outcomes ↔ ∃ verdict, decision = judged verdict ∧
      verdict.matched = false ∧ verdict.outcomes = outcomes := by
  cases decision with
  | unconditional => simp [against?]
  | judged verdict => cases hm : verdict.matched <;> simp [against?, hm]

end Decision

namespace Engine

variable {σ : Type} {engine : Engine} {host : Host σ} {request : Request} {state final : σ}
  {resolution : Resolution}

/-- A unit has conditions: its definition declares rules. -/
def HasConditions (engine : Engine) (unit : UnitName) : Prop :=
  ∃ definition, engine.catalog[unit]? = some definition ∧ definition.rules ≠ []

/-- **A decision of a pass** is made in the state to which the first of the calls have brought
the host. -/
theorem Completes.exists_calls (h : engine.Completes host request state resolution final)
    {unit : UnitName} {decision : Decision}
    (hd : (unit, decision) ∈ engine.decisions host request state) :
    ∃ calls, calls <+: engine.told host request state ∧ decision =
      Decision.given (host.context engine.oracle request.env (host.after state calls))
        engine.catalog[unit]? := by
  obtain ⟨earlier, later, hs, hgiven⟩ :=
    Decision.exists_earlier_of_mem_run host engine.oracle engine.catalog request.env hd
  rw [Decision.snd_run] at hgiven
  refine ⟨_, ?_, hgiven⟩
  rw [told_eq ⟨h.enabled, h.valid⟩, soundPart_survivors h.sound, hs, acceptedFrom, decide,
    Decision.acceptedIn_run_append, Catalog.announce, Catalog.announce, List.map_append]
  exact List.prefix_append _ _

/-! ## What the report holds -/

namespace Completes

variable (h : engine.Completes host request state resolution final)
include h

theorem report_eq : resolution.report = reportOn request.exclusions (engine.sortedOut request)
    (engine.decisions host request state) :=
  congrArg Resolution.report h.resolution_eq

/-- **The exclusions of the report** are those that were collected. -/
theorem exclusions_report : resolution.report.exclusions = request.exclusions := by
  have hnodup : ([] ++ request.exclusions).Nodup := Repetition.nodup_eraseDups _
  rw [h.report_eq, reportOn_eq, Report.exclusions_notes]
  exact Report.foldl_addName hnodup

/-- **The unconditional units of the report** are those that were decided without
conditions. -/
theorem unconditional_report : resolution.report.unconditional =
    unconditionalIn (engine.decisions host request state) := by
  have hnodup : ([] ++ unconditionalIn (engine.decisions host request state)).Nodup :=
    (List.nodup_append.mp (nodup_treated engine host request state)).2.1.sublist
      (List.filter_sublist.map Prod.fst)
  rw [h.report_eq, reportOn_eq, Report.unconditional_notes, map_fst_filter_notes]
  exact Report.foldl_addName hnodup

/-- **The outcomes in the report** are those for which a unit was sorted out, and those of the
verdicts. -/
theorem outcomes?_iff {unit : UnitName} {outcomes : List Outcome} :
    resolution.report.outcomes? unit = some outcomes ↔
      (∃ outcome, (unit, outcome) ∈ engine.sortedOut request ∧ outcomes = [outcome]) ∨
        ∃ verdict, (unit, Decision.judged verdict) ∈ engine.decisions host request state ∧
          verdict.outcomes = outcomes := by
  rw [h.report_eq, outcomes?_reportOn (nodup_treated engine host request state)]

/-- A unit is decided without conditions exactly if it has none. -/
theorem eq_unconditional_iff {unit : UnitName} {decision : Decision}
    (hd : (unit, decision) ∈ engine.decisions host request state) :
    decision = .unconditional ↔ ¬engine.HasConditions unit := by
  obtain ⟨calls, -, rfl⟩ := h.exists_calls hd
  rw [Decision.given_eq_unconditional_iff, HasConditions]
  push Not
  rfl

/-- The outcomes of a judged unit are all matches exactly if the verdict on it is. -/
theorem all_outcomes {unit : UnitName} {verdict : Verdict}
    (hd : (unit, Decision.judged verdict) ∈ engine.decisions host request state) :
    verdict.outcomes.all Outcome.matched = verdict.matched := by
  obtain ⟨calls, -, hgiven⟩ := h.exists_calls hd
  exact Decision.all_outcomes_of_given hgiven.symm

/-- **Accepted units with conditions** have been judged. -/
theorem exists_verdict {unit : UnitName} (ha : unit ∈ resolution.accepted)
    (hc : engine.HasConditions unit) : ∃ verdict,
      (unit, Decision.judged verdict) ∈ engine.decisions host request state ∧
        verdict.matched = true := by
  obtain ⟨decision, hd, hacc⟩ := h.mem_accepted.mp ha
  cases decision with
  | unconditional => exact absurd hc ((h.eq_unconditional_iff hd).mp rfl)
  | judged verdict => exact ⟨verdict, hd, hacc⟩

/-- **What is recorded against a unit** is what its rejection gives. -/
theorem outcomes?_of_rejected {unit : UnitName} {outcomes : List Outcome}
    (hr : resolution.rejected[unit]? = some outcomes) :
    resolution.report.outcomes? unit = some outcomes ∧
      outcomes.all Outcome.matched = false := by
  rcases h.getElem?_rejected.mp hr with ⟨outcome, hs, rfl⟩ | ⟨decision, hd, ha⟩
  · obtain ⟨-, -, -, -, -, -, hunmatched⟩ :=
      (@FilterChain.against?_eq_some_iff {} _ _ _ _ _).mp (mem_sortedOut.mp hs).2
    refine ⟨h.outcomes?_iff.mpr (Or.inl ⟨outcome, hs, rfl⟩), ?_⟩
    rw [List.all_cons, hunmatched, Bool.false_and]
  · obtain ⟨verdict, rfl, hunmatched, rfl⟩ := Decision.against?_eq_some_iff.mp ha
    refine ⟨h.outcomes?_iff.mpr (Or.inr ⟨verdict, hd, rfl⟩), ?_⟩
    rw [h.all_outcomes hd, hunmatched]

/-- **Of which units there are outcomes.** -/
theorem exists_outcomes?_iff {unit : UnitName} :
    (∃ outcomes, resolution.report.outcomes? unit = some outcomes) ↔
      unit ∈ resolution.rejected ∨ unit ∈ resolution.accepted ∧ engine.HasConditions unit := by
  constructor
  · rintro ⟨outcomes, ho⟩
    rcases h.outcomes?_iff.mp ho with ⟨outcome, hs, -⟩ | ⟨verdict, hd, -⟩
    · exact Or.inl (h.mem_rejected.mpr (Or.inl ⟨outcome, hs⟩))
    · cases hm : verdict.matched with
      | false => exact Or.inl (h.mem_rejected.mpr (Or.inr ⟨_, hd, hm⟩))
      | true =>
        refine Or.inr ⟨h.mem_accepted.mpr ⟨_, hd, hm⟩, ?_⟩
        by_contra hc
        exact nomatch (h.eq_unconditional_iff hd).mpr hc
  · rintro (hr | ⟨ha, hc⟩)
    · rw [Std.ExtTreeMap.mem_iff_isSome_getElem?, Option.isSome_iff_exists] at hr
      obtain ⟨outcomes, hr⟩ := hr
      exact ⟨outcomes, (h.outcomes?_of_rejected hr).1⟩
    · obtain ⟨verdict, hd, -⟩ := h.exists_verdict ha hc
      exact ⟨verdict.outcomes, h.outcomes?_iff.mpr (Or.inr ⟨verdict, hd, rfl⟩)⟩

/-- **The report on an accepted unit** has a matching outcome for each of its rules. -/
theorem exists_outcomes?_of_accepted {unit : UnitName} (ha : unit ∈ resolution.accepted)
    {definition : Definition} (hdef : engine.catalog[unit]? = some definition)
    (hrules : definition.rules ≠ []) :
    ∃ outcomes calls, resolution.report.outcomes? unit = some outcomes ∧
      outcomes.all Outcome.matched = true ∧ calls <+: engine.told host request state ∧
      outcomes.Perm (definition.rules.map (Rule.evaluate
        (host.context engine.oracle request.env (host.after state calls)))) := by
  obtain ⟨verdict, hd, hm⟩ := h.exists_verdict ha ⟨definition, hdef, hrules⟩
  obtain ⟨calls, hcalls, hgiven⟩ := h.exists_calls hd
  rw [hdef, Decision.given_eq_judged hrules] at hgiven
  cases hgiven
  exact ⟨_, calls, h.outcomes?_iff.mpr (Or.inr ⟨_, hd, rfl⟩), (h.all_outcomes hd).trans hm, hcalls,
    Verdict.outcomes_ofRules_perm hm⟩

/-- **Unconditional** are the accepted units without conditions. -/
theorem mem_unconditional {unit : UnitName} :
    unit ∈ resolution.report.unconditional ↔
      unit ∈ resolution.accepted ∧ ¬engine.HasConditions unit := by
  rw [h.unconditional_report, mem_unconditionalIn, h.mem_accepted]
  constructor
  · exact fun hd => ⟨⟨_, hd, rfl⟩, (h.eq_unconditional_iff hd).mp rfl⟩
  · rintro ⟨⟨decision, hd, -⟩, hc⟩
    rwa [(h.eq_unconditional_iff hd).mpr hc] at hd

end Completes

end Engine

namespace Report

variable {report : Report} {unit : UnitName} {outcomes : List Outcome}

/-- A unit is listed with a flag exactly if the flag says what its outcomes say. -/
theorem mem_flagged_iff {flag : Bool} : (unit, outcomes) ∈ report.flagged flag ↔
    report.outcomes? unit = some outcomes ∧ outcomes.all Outcome.matched = flag := by
  rw [flagged, List.mem_map, outcomes?, Option.map_eq_some_iff]
  constructor
  · rintro ⟨⟨unit, recorded⟩, hm, he⟩
    cases he
    rw [List.mem_filter, Std.ExtTreeMap.mem_toList_iff_getElem?_eq_some, beq_iff_eq,
      recorded.fullMatch_eq] at hm
    exact ⟨⟨recorded, hm.1, rfl⟩, hm.2⟩
  · rintro ⟨⟨recorded, hr, rfl⟩, hflag⟩
    refine ⟨(unit, recorded), List.mem_filter.mpr ⟨?_, ?_⟩, rfl⟩
    · exact Std.ExtTreeMap.mem_toList_iff_getElem?_eq_some.mpr hr
    · rw [beq_iff_eq, recorded.fullMatch_eq, isFullMatch, hflag]

end Report

namespace Engine

/-- **The report explains the result.**  If a pass succeeds and is not switched off, then
outcomes are recorded of the rejected units, of the accepted units that have conditions, and of
no other.  Those of a rejected unit are the ones with which it is rejected; one of them is no
match, and the unit is a negative match.  An accepted unit with conditions is a positive match:
its outcomes are all matches, one for each of its rules, evaluated with the beans of the units of
which the host was told before.  The unconditional units are the accepted ones without
conditions, each once, in the order in which they were first offered.  And the exclusions of the
report are those that were collected, among them all excluded units. -/
theorem resolve_reports {σ : Type} (engine : Engine) (host : Host σ) (request : Request)
    (state : σ) (resolution : Resolution)
    (success : (engine.resolve host request state).1 = .ok resolution)
    (active : resolution.disabled = false) :
    (∀ unit, (∃ outcomes, resolution.report.outcomes? unit = some outcomes) ↔
      unit ∈ resolution.rejected ∨ unit ∈ resolution.accepted ∧ engine.HasConditions unit) ∧
    (∀ unit outcomes, resolution.rejected[unit]? = some outcomes →
      resolution.report.outcomes? unit = some outcomes ∧
      (∃ outcome ∈ outcomes, outcome.matched = false) ∧
      (unit, outcomes) ∈ resolution.report.negative) ∧
    (∀ unit ∈ resolution.accepted, ∀ definition, engine.catalog[unit]? = some definition →
      definition.rules ≠ [] →
      ∃ outcomes calls, resolution.report.outcomes? unit = some outcomes ∧
        (unit, outcomes) ∈ resolution.report.positive ∧
        (∀ outcome ∈ outcomes, outcome.matched = true) ∧
        calls <+: engine.told host request state ∧
        outcomes.Perm (definition.rules.map (Rule.evaluate
          (host.context engine.oracle request.env (host.after state calls))))) ∧
    (∀ unit, unit ∈ resolution.report.unconditional ↔
      unit ∈ resolution.accepted ∧ ¬engine.HasConditions unit) ∧
    (resolution.report.unconditional.Pairwise fun first second =>
      request.candidates.idxOf first < request.candidates.idxOf second) ∧
    resolution.report.exclusions = request.exclusions ∧
    (∀ unit ∈ resolution.excluded, unit ∈ resolution.report.exclusions) := by
  have h := resolve_eq_ok_iff.mp ⟨Prod.ext success rfl, active⟩
  refine ⟨fun unit => h.exists_outcomes?_iff, ?_, ?_, fun unit => h.mem_unconditional, ?_,
    h.exclusions_report, ?_⟩
  · intro unit outcomes hr
    obtain ⟨ho, hall⟩ := h.outcomes?_of_rejected hr
    refine ⟨ho, ?_, Report.mem_flagged_iff.mpr ⟨ho, hall⟩⟩
    obtain ⟨outcome, hm, hunmatched⟩ := List.all_eq_false.mp hall
    exact ⟨outcome, hm, Bool.eq_false_iff.mpr hunmatched⟩
  · intro unit ha definition hdef hrules
    obtain ⟨outcomes, calls, ho, hall, hcalls, hperm⟩ :=
      h.exists_outcomes?_of_accepted ha hdef hrules
    exact ⟨outcomes, calls, ho, Report.mem_flagged_iff.mpr ⟨ho, hall⟩, List.all_eq_true.mp hall,
      hcalls, hperm⟩
  · have hsublist : (unconditionalIn (engine.decisions host request state)).Sublist
        ((engine.decisions host request state).map Prod.fst) := List.filter_sublist.map Prod.fst
    rw [map_fst_decisions] at hsublist
    rw [h.unconditional_report]
    exact pairwise_survivors.sublist hsublist
  · intro unit hx
    rw [h.exclusions_report]
    exact (h.mem_excluded.mp hx).2

/-- The report on a store and its fallback: why the store is in, and why its fallback is not. -/
theorem resolve_reports_store : ∃ resolution,
    (storeEngine.resolve .registering storeRequest {}).1 = .ok resolution ∧
    resolution.disabled = false ∧
    "store" ∈ resolution.accepted ∧
    (∃ outcomes, ("store", outcomes) ∈ resolution.report.positive ∧ outcomes.length = 1) ∧
    (∃ outcomes, ("fallback", outcomes) ∈ resolution.report.negative) ∧
    resolution.report.unconditional = [] ∧
    resolution.report.exclusions = ["log"] := by
  obtain ⟨resolution, final, h⟩ := storeRequest_completes
  obtain ⟨hok, active⟩ := resolve_eq_ok_iff.mpr h
  have success := congrArg Prod.fst hok
  obtain ⟨-, hrejected, hpositive, hunconditional, -, hexclusions, -⟩ :=
    resolve_reports storeEngine .registering storeRequest {} resolution success active
  have haccepted : ∀ unit, unit ∈ resolution.accepted ↔ unit = "store" := by
    have hstore : acceptedIn (storeEngine.decisions .registering storeRequest {}) = ["store"] := by
      decide
    intro unit
    rw [h.accepted_perm.mem_iff, hstore, List.mem_singleton]
  have hstore := (haccepted "store").mpr rfl
  have hlog : storeRequest.exclusions = ["log"] := by decide
  obtain ⟨definition, hdef, hone⟩ : ∃ definition,
      storeEngine.catalog["store"]? = some definition ∧ definition.rules.length = 1 :=
    ⟨{ name := "store", rules := [.requiresSymbols ["Store"]],
       provides := [{ name := "store", types := ["Store"] }] }, by decide, rfl⟩
  have hrules : definition.rules ≠ [] := List.ne_nil_of_length_pos (hone ▸ Nat.one_pos)
  refine ⟨resolution, success, active, hstore, ?_, ?_, ?_, ?_⟩
  · obtain ⟨outcomes, _, -, hm, -, -, hperm⟩ := hpositive "store" hstore definition hdef hrules
    exact ⟨outcomes, hm, by rw [hperm.length_eq, List.length_map, hone]⟩
  · have hfallback : "fallback" ∈ resolution.rejected := by
      exact h.mem_kept_iff.mp (Request.mem_kept.mpr ⟨by decide, by rw [hlog]; decide⟩)
        |>.resolve_left fun ha => absurd ((haccepted "fallback").mp ha) (by decide)
    rw [Std.ExtTreeMap.mem_iff_isSome_getElem?, Option.isSome_iff_exists] at hfallback
    obtain ⟨outcomes, ho⟩ := hfallback
    exact ⟨outcomes, (hrejected "fallback" outcomes ho).2.2⟩
  · refine List.eq_nil_iff_forall_not_mem.mpr fun unit hu => ?_
    obtain ⟨ha, hc⟩ := (hunconditional unit).mp hu
    rw [(haccepted unit).mp ha] at hc
    exact hc ⟨definition, hdef, hrules⟩
  · exact hexclusions.trans hlog

end Engine
end Activation
