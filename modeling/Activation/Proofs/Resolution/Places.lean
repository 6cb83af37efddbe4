import Activation.Proofs.Order.Arrangement
import Activation.Proofs.Resolution.Pass
import Activation.Proofs.Tables
import Mathlib.Data.Finset.Card

/-!
# Every candidate is accounted for

A pass moves units through five stages, and each stage takes some of them away.  No
unit gets lost on the way and none is taken twice: every unit that is not excluded is
either sorted out or decided, once (`Engine.nodup_treated`), and a decision is for a
unit or against it.

* `Engine.getElem?_rejectedIn`: what the outcomes against a unit are.
* `Engine.Completes.mem_accepted`, `Engine.Completes.getElem?_rejected`,
  `Engine.Completes.mem_excluded`: who ends up in each of the three places.
* `Engine.resolve_accounts`: every distinct candidate is in exactly one of them, and
  nothing else is in any.
-/

namespace Activation
namespace Engine

/-! ## Decisions -/

theorem mem_acceptedIn {decisions : List (UnitName × Decision)} {unit : UnitName} :
    unit ∈ acceptedIn decisions ↔
      ∃ decision, (unit, decision) ∈ decisions ∧ decision.isAccepted = true := by
  rw [acceptedIn, List.mem_map]
  constructor
  · rintro ⟨⟨unit, decision⟩, hm, rfl⟩
    exact ⟨decision, List.mem_filter.mp hm⟩
  · rintro ⟨decision, hm⟩
    exact ⟨(unit, decision), List.mem_filter.mpr hm, rfl⟩

theorem acceptedIn_sublist (decisions : List (UnitName × Decision)) :
    (acceptedIn decisions).Sublist (decisions.map Prod.fst) :=
  List.filter_sublist.map Prod.fst

/-- The units about which there is something to say are among all of them. -/
theorem map_fst_filterMap_sublist {α β : Type} (f : α → Option β) (entries : List (UnitName × α)) :
    ((entries.filterMap fun entry => (f entry.2).map fun said => (entry.1, said)).map
      Prod.fst).Sublist (entries.map Prod.fst) := by
  induction entries with
  | nil => exact List.Sublist.refl _
  | cons entry entries ih =>
    rw [List.filterMap_cons]
    cases f entry.2 with
    | none => exact ih.cons entry.1
    | some said => exact ih.cons_cons entry.1

/-- **The outcomes against a unit** are the one for which it was sorted out, or those of
the decision against it, as long as no unit was treated twice. -/
theorem getElem?_rejectedIn {sorted : List (UnitName × Outcome)}
    {decisions : List (UnitName × Decision)}
    (h : (sorted.map Prod.fst ++ decisions.map Prod.fst).Nodup) {unit : UnitName}
    {outcomes : List Outcome} :
    (rejectedIn sorted decisions)[unit]? = some outcomes ↔
      (∃ outcome, (unit, outcome) ∈ sorted ∧ outcomes = [outcome]) ∨
        ∃ decision, (unit, decision) ∈ decisions ∧ decision.against? = some outcomes := by
  have hkeys : ((sorted.map (fun entry => (entry.1, [entry.2])) ++
      decisions.filterMap fun entry => entry.2.against?.map fun outcomes =>
        (entry.1, outcomes)).map Prod.fst).Nodup := by
    rw [List.map_append, List.map_map]
    exact h.sublist
      ((List.Sublist.refl _).append (map_fst_filterMap_sublist Decision.against? decisions))
  rw [rejectedIn, Tables.getElem?_ofList_eq_some_iff hkeys, List.mem_append, List.mem_map,
    List.mem_filterMap]
  constructor
  · rintro (⟨⟨unit, outcome⟩, hm, he⟩ | ⟨⟨unit, decision⟩, hm, he⟩)
    · cases he
      exact Or.inl ⟨outcome, hm, rfl⟩
    · obtain ⟨against, ha, he⟩ := Option.map_eq_some_iff.mp he
      cases he
      exact Or.inr ⟨decision, hm, ha⟩
  · rintro (⟨outcome, hm, rfl⟩ | ⟨decision, hm, ha⟩)
    · exact Or.inl ⟨(unit, outcome), hm, rfl⟩
    · exact Or.inr ⟨(unit, decision), hm, by rw [ha, Option.map_some]⟩

/-! ## The three places -/

variable {σ : Type} {engine : Engine} {host : Host σ} {request : Request} {state final : σ}
  {resolution : Resolution}

variable (engine host request state) in
theorem map_fst_decisions :
    (engine.decisions host request state).map Prod.fst = engine.survivors request :=
  Decision.map_fst_run ..

theorem map_fst_sortedOut (engine : Engine) (request : Request) :
    (engine.sortedOut request).map Prod.fst =
      request.kept.filter fun unit => (engine.against? request.env unit).isSome := by
  rw [sortedOut, FilterChain.map_fst_filterMap]

variable (engine host request state) in
/-- **No unit is treated twice** in a pass. -/
theorem nodup_treated :
    ((engine.sortedOut request).map Prod.fst ++
      (engine.decisions host request state).map Prod.fst).Nodup := by
  rw [map_fst_sortedOut, map_fst_decisions, List.nodup_append]
  refine ⟨request.nodup_kept.filter _, nodup_survivors engine request, ?_⟩
  intro unit hs other ho
  rintro rfl
  have hnone := (mem_survivors.mp ho).2
  rw [List.mem_filter, hnone] at hs
  exact nomatch hs.2

/-- Only one decision is made about a unit. -/
theorem decision_unique {unit : UnitName} {decision other : Decision}
    (h : (unit, decision) ∈ engine.decisions host request state)
    (h' : (unit, other) ∈ engine.decisions host request state) : decision = other := by
  have hnodup := (List.nodup_append.mp (nodup_treated engine host request state)).2.1
  exact congrArg Prod.snd (List.inj_on_of_nodup_map hnodup h h' rfl)

/-- A decision is made about every unit that is evaluated, and about no other. -/
theorem exists_decision_iff {unit : UnitName} :
    (∃ decision, (unit, decision) ∈ engine.decisions host request state) ↔
      unit ∈ engine.survivors request := by
  rw [← map_fst_decisions engine host request state, List.mem_map]
  constructor
  · rintro ⟨decision, hm⟩
    exact ⟨(unit, decision), hm, rfl⟩
  · rintro ⟨⟨unit, decision⟩, hm, rfl⟩
    exact ⟨decision, hm⟩

variable (engine host request state) in
theorem nodup_acceptedIn : (acceptedIn (engine.decisions host request state)).Nodup := by
  refine List.Nodup.sublist (acceptedIn_sublist _) ?_
  rw [map_fst_decisions]
  exact nodup_survivors engine request

namespace Completes

variable (h : engine.Completes host request state resolution final)
include h

/-- The accepted units are arranged topologically. -/
theorem isTopological : Order.IsTopological engine.index engine.catalog
    (acceptedIn (engine.decisions host request state)) resolution.accepted :=
  (Order.of_arrange_eq_ok h.arranged).2.2

/-- The accepted units are those for which a decision was made, in another order. -/
theorem accepted_perm :
    resolution.accepted.Perm (acceptedIn (engine.decisions host request state)) := by
  rw [List.perm_ext_iff_of_nodup h.isTopological.nodup
    (nodup_acceptedIn engine host request state)]
  exact h.isTopological.mem_iff

/-- **Accepted** are the units for which a decision was made. -/
theorem mem_accepted {unit : UnitName} :
    unit ∈ resolution.accepted ↔ ∃ decision,
      (unit, decision) ∈ engine.decisions host request state ∧ decision.isAccepted = true := by
  rw [h.isTopological.mem_iff, mem_acceptedIn]

/-- **Rejected** are the units that were sorted out, and those against which a decision
was made. -/
theorem getElem?_rejected {unit : UnitName} {outcomes : List Outcome} :
    resolution.rejected[unit]? = some outcomes ↔
      (∃ outcome, (unit, outcome) ∈ engine.sortedOut request ∧ outcomes = [outcome]) ∨
        ∃ decision, (unit, decision) ∈ engine.decisions host request state ∧
          decision.against? = some outcomes := by
  have hrejected : resolution.rejected =
      rejectedIn (engine.sortedOut request) (engine.decisions host request state) :=
    congrArg Resolution.rejected h.resolution_eq
  rw [hrejected, getElem?_rejectedIn (nodup_treated engine host request state)]

theorem mem_rejected {unit : UnitName} :
    unit ∈ resolution.rejected ↔
      (∃ outcome, (unit, outcome) ∈ engine.sortedOut request) ∨
        ∃ decision, (unit, decision) ∈ engine.decisions host request state ∧
          decision.isAccepted = false := by
  rw [Std.ExtTreeMap.mem_iff_isSome_getElem?, Option.isSome_iff_exists]
  constructor
  · rintro ⟨outcomes, ho⟩
    rcases h.getElem?_rejected.mp ho with ⟨outcome, hs, -⟩ | ⟨decision, hd, ha⟩
    · exact Or.inl ⟨outcome, hs⟩
    · exact Or.inr ⟨decision, hd, Decision.exists_against?_iff.mp ⟨outcomes, ha⟩⟩
  · rintro (⟨outcome, hs⟩ | ⟨decision, hd, ha⟩)
    · exact ⟨[outcome], h.getElem?_rejected.mpr (Or.inl ⟨outcome, hs, rfl⟩)⟩
    · obtain ⟨outcomes, ho⟩ := Decision.exists_against?_iff.mpr ha
      exact ⟨outcomes, h.getElem?_rejected.mpr (Or.inr ⟨decision, hd, ho⟩)⟩

/-- **Excluded** are the candidates that an exclusion names. -/
theorem excluded_eq :
    resolution.excluded = Exclusion.excluded request.names request.exclusions :=
  congrArg Resolution.excluded h.resolution_eq

theorem mem_excluded {unit : UnitName} :
    unit ∈ resolution.excluded ↔ unit ∈ request.candidates ∧ unit ∈ request.exclusions := by
  rw [h.excluded_eq, Exclusion.excluded, List.mem_filter, Request.mem_names,
    List.contains_iff_mem]

/-- A unit that is neither excluded nor accepted is rejected, and the other way
round. -/
theorem mem_kept_iff {unit : UnitName} :
    unit ∈ request.kept ↔ unit ∈ resolution.accepted ∨ unit ∈ resolution.rejected := by
  rw [h.mem_accepted, h.mem_rejected]
  constructor
  · intro hk
    cases ha : engine.against? request.env unit with
    | some outcome => exact Or.inr (Or.inl ⟨outcome, mem_sortedOut.mpr ⟨hk, ha⟩⟩)
    | none =>
      obtain ⟨decision, hd⟩ := exists_decision_iff.mpr (mem_survivors.mpr ⟨hk, ha⟩)
      cases hacc : decision.isAccepted with
      | true => exact Or.inl ⟨decision, hd, hacc⟩
      | false => exact Or.inr (Or.inr ⟨decision, hd, hacc⟩)
  · rintro (⟨decision, hd, -⟩ | ⟨outcome, hs⟩ | ⟨decision, hd, -⟩)
    · exact (mem_survivors.mp (exists_decision_iff.mp ⟨decision, hd⟩)).1
    · exact (mem_sortedOut.mp hs).1
    · exact (mem_survivors.mp (exists_decision_iff.mp ⟨decision, hd⟩)).1

/-- No unit is both accepted and rejected. -/
theorem notMem_rejected {unit : UnitName} (hu : unit ∈ resolution.accepted) :
    unit ∉ resolution.rejected := by
  obtain ⟨decision, hd, hacc⟩ := h.mem_accepted.mp hu
  rw [h.mem_rejected]
  rintro (⟨outcome, hs⟩ | ⟨other, ho, hrej⟩)
  · have hnone := (mem_survivors.mp (exists_decision_iff.mp ⟨decision, hd⟩)).2
    rw [(mem_sortedOut.mp hs).2] at hnone
    exact nomatch hnone
  · rw [decision_unique hd ho, hrej] at hacc
    exact nomatch hacc

/-- No unit is excluded and also accepted or rejected. -/
theorem notMem_excluded {unit : UnitName}
    (hu : unit ∈ resolution.accepted ∨ unit ∈ resolution.rejected) :
    unit ∉ resolution.excluded := by
  intro he
  exact (Request.mem_kept.mp (h.mem_kept_iff.mpr hu)).2 (h.mem_excluded.mp he).2

/-- The three places one after the other hold every candidate, and nothing else. -/
theorem mem_places {unit : UnitName} :
    unit ∈ resolution.accepted ++ (resolution.rejected.keys ++ resolution.excluded) ↔
      unit ∈ request.candidates := by
  have hkept : unit ∈ request.kept ↔ unit ∈ resolution.accepted ∨ unit ∈ resolution.rejected :=
    h.mem_kept_iff
  rw [Request.mem_kept] at hkept
  rw [List.mem_append, List.mem_append, Std.ExtTreeMap.mem_keys, ← or_assoc, ← hkept,
    h.mem_excluded]
  by_cases hx : unit ∈ request.exclusions
  · simp [hx]
  · simp [hx]

/-- The three places one after the other hold nothing twice. -/
theorem nodup_places :
    (resolution.accepted ++ (resolution.rejected.keys ++ resolution.excluded)).Nodup := by
  have hexcluded : resolution.excluded.Nodup := by
    rw [h.excluded_eq]
    exact request.nodup_names.filter _
  rw [List.nodup_append, List.nodup_append]
  refine ⟨h.isTopological.nodup, ⟨Std.ExtTreeMap.nodup_keys, hexcluded, ?_⟩, ?_⟩
  · intro unit hr other he
    rintro rfl
    rw [Std.ExtTreeMap.mem_keys] at hr
    exact h.notMem_excluded (Or.inr hr) he
  · intro unit ha other ho
    rintro rfl
    rcases List.mem_append.mp ho with hr | he
    · rw [Std.ExtTreeMap.mem_keys] at hr
      exact h.notMem_rejected ha hr
    · exact h.notMem_excluded (Or.inl ha) he

end Completes

/-- Exactly one of three statements holds. -/
def ExactlyOne (p q r : Prop) : Prop :=
  (p ∧ ¬q ∧ ¬r) ∨ (¬p ∧ q ∧ ¬r) ∨ (¬p ∧ ¬q ∧ r)

/-- **Every candidate is accounted for.**  If a pass succeeds and is not switched off,
then every candidate is either accepted or rejected or excluded, and in only one of these
places, and no other unit is in any of them; no unit is accepted or excluded twice; the
excluded units stand in the order in which they were first offered; and the total is the
number of distinct candidates. -/
theorem resolve_accounts {σ : Type} (engine : Engine) (host : Host σ) (request : Request)
    (state : σ) (resolution : Resolution)
    (success : (engine.resolve host request state).1 = .ok resolution)
    (active : resolution.disabled = false) :
    (∀ unit ∈ request.candidates, ExactlyOne (unit ∈ resolution.accepted)
      (unit ∈ resolution.rejected) (unit ∈ resolution.excluded)) ∧
    (∀ unit, unit ∈ resolution.accepted ∨ unit ∈ resolution.rejected ∨
      unit ∈ resolution.excluded → unit ∈ request.candidates) ∧
    resolution.accepted.Nodup ∧ resolution.excluded.Nodup ∧
    (resolution.excluded.Pairwise fun first second =>
      request.candidates.idxOf first < request.candidates.idxOf second) ∧
    resolution.total = request.candidates.toFinset.card := by
  have h := resolve_eq_ok_iff.mp ⟨Prod.ext success rfl, active⟩
  refine ⟨fun unit hc => ?_, fun unit hp => ?_, h.isTopological.nodup, ?_, ?_, ?_⟩
  · by_cases hx : unit ∈ request.exclusions
    · have he : unit ∈ resolution.excluded := h.mem_excluded.mpr ⟨hc, hx⟩
      exact Or.inr (Or.inr ⟨fun ha => h.notMem_excluded (Or.inl ha) he,
        fun hr => h.notMem_excluded (Or.inr hr) he, he⟩)
    · rcases h.mem_kept_iff.mp (Request.mem_kept.mpr ⟨hc, hx⟩) with ha | hr
      · exact Or.inl ⟨ha, h.notMem_rejected ha, h.notMem_excluded (Or.inl ha)⟩
      · exact Or.inr (Or.inl ⟨fun ha => h.notMem_rejected ha hr, hr,
          h.notMem_excluded (Or.inr hr)⟩)
  · rcases hp with ha | hr | he
    · exact (Request.mem_kept.mp (h.mem_kept_iff.mpr (Or.inl ha))).1
    · exact (Request.mem_kept.mp (h.mem_kept_iff.mpr (Or.inr hr))).1
    · exact (h.mem_excluded.mp he).1
  · rw [h.excluded_eq]
    exact request.nodup_names.filter _
  · rw [h.excluded_eq]
    exact (Repetition.pairwise_idxOf_eraseDups request.candidates).filter _
  · have hsame : (resolution.accepted ++ (resolution.rejected.keys ++
        resolution.excluded)).toFinset = request.candidates.toFinset := by
      ext unit
      rw [List.mem_toFinset, List.mem_toFinset]
      exact h.mem_places
    rw [← hsame, List.toFinset_card_of_nodup h.nodup_places, List.length_append,
      List.length_append, Std.ExtTreeMap.length_keys, Resolution.total, Nat.add_assoc]

/-- An engine that knows a store, a cache whose symbol is missing, and a fallback for want
of a store. -/
def storeEngine : Engine where
  oracle symbol := symbol == "Store"
  index := .ofPairs [("cache.ConditionalOnClass", "Redis")]
  catalog := .ofDefinitions
    [{ name := "store", rules := [.requiresSymbols ["Store"]],
       provides := [{ name := "store", types := ["Store"] }] },
     { name := "fallback", order := some 7, rules := [.forbidsBeans { types := ["Store"] }] }]

/-- A request that repeats one candidate and excludes another. -/
def storeRequest : Request where
  candidates := ["store", "cache", "log", "store", "fallback"]
  exclude := ["log"]

/-- The units about which the store engine may be asked. -/
def storeUnits : List UnitName := ["store", "cache", "fallback", "log", "metrics"]

/-- No unit of the store engine is related to another. -/
theorem storeEngine_arranges {accepted : List UnitName} (h : accepted ⊆ storeUnits) :
    ∃ order, Order.arrange storeEngine.index storeEngine.catalog accepted = .ok order := by
  have hread : ∀ unit ∈ storeUnits, ∃ order,
      Hints.read storeEngine.index storeEngine.catalog unit = .ok { order } := by
    simp only [storeUnits, List.forall_mem_cons]
    exact ⟨⟨0, by decide⟩, ⟨0, by decide⟩, ⟨7, by decide⟩, ⟨0, by decide⟩, ⟨0, by decide⟩,
      List.forall_mem_nil _⟩
  exact Order.exists_arrange_of_unrelated fun unit hu => hread unit (h hu)

/-- A pass of the store engine over its units succeeds if no exclusion is an error. -/
theorem storeEngine_completes {σ : Type} (host : Host σ) {request : Request} (state : σ)
    (plain : request.env = {}) (known : request.candidates ⊆ storeUnits)
    (valid : storeEngine.invalid request = []) : ∃ resolution final,
      storeEngine.Completes host request state resolution final := by
  have enabled : (storeEngine.settingsIn request.env).enabled = true := by
    rw [plain]
    decide
  have hknown : storeEngine.survivors request ⊆ storeUnits := fun unit hu =>
    known (Request.mem_kept.mp (mem_survivors.mp hu).1).1
  have hrules : ∀ unit ∈ storeUnits, Decision.fault? storeEngine.catalog unit = none := by
    decide
  have sound : storeEngine.fault? request = none :=
    List.findSome?_eq_none_iff.mpr fun unit hu => hrules unit (hknown hu)
  have haccepted : acceptedIn (storeEngine.decisions host request state) ⊆ storeUnits := by
    intro unit hu
    have hd := (acceptedIn_sublist _).subset hu
    rw [map_fst_decisions] at hd
    exact hknown hd
  obtain ⟨resolution, h⟩ := Completes.exists_of_arrange storeEngine host request state enabled
    valid sound (storeEngine_arranges haccepted)
  exact ⟨resolution, _, h⟩

/-- The store is accepted, and so the fallback is rejected; the cache is sorted out. -/
theorem storeRequest_completes : ∃ resolution final,
    storeEngine.Completes Host.registering storeRequest {} resolution final :=
  storeEngine_completes Host.registering {} rfl (by decide) (by decide)

theorem resolve_accounts_store : ∃ resolution,
    (storeEngine.resolve Host.registering storeRequest {}).1 = .ok resolution ∧
    resolution.disabled = false ∧
    ExactlyOne ("fallback" ∈ resolution.accepted) ("fallback" ∈ resolution.rejected)
      ("fallback" ∈ resolution.excluded) ∧
    resolution.total = storeRequest.candidates.toFinset.card := by
  obtain ⟨resolution, final, h⟩ := storeRequest_completes
  obtain ⟨hok, active⟩ := resolve_eq_ok_iff.mpr h
  have success := congrArg Prod.fst hok
  obtain ⟨hone, -, -, -, -, htotal⟩ :=
    resolve_accounts storeEngine Host.registering storeRequest {} resolution success active
  exact ⟨resolution, success, active, hone "fallback" (by decide), htotal⟩

end Engine
end Activation
