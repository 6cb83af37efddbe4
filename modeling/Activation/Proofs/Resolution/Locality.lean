import Activation.Proofs.Resolution.Places

/-!
# Verdicts without new beans

If the host takes no notice of accepted units, the registry stays as it is during a
pass, and then every unit is judged by itself: `Engine.objections?` is all that can be
said against a unit, and neither its place among the candidates nor the company it is
in has any part in it.

* `Engine.Completes.mem_accepted_silent`, `Engine.Completes.getElem?_rejected_silent`: a
  unit that is not excluded is accepted if there are no objections, and rejected with
  these otherwise.
* `Engine.cause?_resolve_of_alike`: requests with the same candidates and exclusions fail
  for the same cause or not at all.
* `Engine.resolve_silent_local`: so what a pass finds out depends on the set of
  candidates alone, the order of the accepted units apart where two of them have the same
  precedence.
-/

namespace Activation

/-! ## Causes of failure -/

namespace Failure

/-- For what a pass can fail. -/
inductive Cause where
  /-- Its exclusions. -/
  | exclusions
  /-- A rule at fault. -/
  | rule
  /-- A precedence that cannot be read. -/
  | precedence
  /-- Units that go round in a circle. -/
  | circle
  deriving DecidableEq

/-- The cause of a failure, its particulars apart. -/
def cause : Failure → Cause
  | invalidExclusions _ => .exclusions
  | malformed _ => .rule
  | notInteger _ => .precedence
  | cycle _ => .circle

/-- The cause for which something fails; none if it succeeds. -/
def cause? {α : Type} : Except Failure α → Option Cause
  | .error failure => some failure.cause
  | .ok _ => none

theorem cause?_map {α β : Type} (f : α → β) (result : Except Failure α) :
    cause? (result.map f) = cause? result := by
  cases result with
  | error failure => rfl
  | ok a => rfl

end Failure

open Classical in
/-- **The cause for which arranging fails** can be told from which units there are. -/
theorem Order.cause?_arrange (index : Metadata) (catalog : Catalog) (accepted : List UnitName) :
    Failure.cause? (arrange index catalog accepted) =
      if ∀ unit ∈ accepted, Hints.problem? index catalog unit = none then
        if Cyclic index catalog accepted then some .circle else none
      else some .precedence := by
  rcases arrange_cases index catalog accepted with ⟨problem, hp, he⟩ | ⟨hp, hc, cycle, he⟩ |
    ⟨hp, hc, order, he, -⟩
  · rw [he, if_neg ?_]
    · rfl
    · intro hread
      rw [List.findSome?_eq_none_iff.mpr hread] at hp
      exact nomatch hp
  · rw [he, if_pos (List.findSome?_eq_none_iff.mp hp), if_pos hc]
    rfl
  · rw [he, if_pos (List.findSome?_eq_none_iff.mp hp), if_neg hc]
    rfl

theorem Order.cause?_arrange_congr {index : Metadata} {catalog : Catalog}
    {first second : List UnitName} (h : ∀ unit, unit ∈ first ↔ unit ∈ second) :
    Failure.cause? (arrange index catalog first) =
      Failure.cause? (arrange index catalog second) := by
  classical
  have hcyclic : Cyclic index catalog first ↔ Cyclic index catalog second :=
    ⟨Cyclic.mono fun unit => (h unit).mp, Cyclic.mono fun unit => (h unit).mpr⟩
  rw [cause?_arrange, cause?_arrange]
  refine if_congr (forall_congr' fun unit => imp_congr_left (h unit)) ?_ rfl
  exact if_congr hcyclic rfl rfl

namespace Request

/-- **Two requests are alike** if they have the same properties and name the same
candidates and the same exclusions, in whatever order and however often. -/
structure Alike (first second : Request) : Prop where
  /-- The properties are the same. -/
  env : first.env = second.env
  /-- The candidates are the same. -/
  candidates : ∀ unit, unit ∈ first.candidates ↔ unit ∈ second.candidates
  /-- The exclusions are the same, from whatever source. -/
  exclusions : ∀ unit, unit ∈ first.exclusions ↔ unit ∈ second.exclusions

theorem Alike.kept {first second : Request} (h : first.Alike second) (unit : UnitName) :
    unit ∈ first.kept ↔ unit ∈ second.kept := by
  rw [mem_kept, mem_kept, h.candidates, h.exclusions]

end Request

namespace Engine

variable {engine : Engine} {registry final : Registry}

/-! ## A unit by itself -/

/-- **All that is said against a unit** in the face of a registry: the outcome of the
pre-filter, or else the outcomes of its conditions; nothing if it is to be accepted. -/
def objections? (engine : Engine) (env : Environment) (registry : Registry) (unit : UnitName) :
    Option (List Outcome) :=
  match engine.against? env unit with
  | some outcome => some [outcome]
  | none => (Decision.given ⟨engine.oracle, registry, env⟩ engine.catalog[unit]?).against?

theorem mem_decisions_silent {request : Request} {unit : UnitName} {decision : Decision} :
    (unit, decision) ∈ engine.decisions .silent request registry ↔
      unit ∈ engine.survivors request ∧
        decision = Decision.given ⟨engine.oracle, registry, request.env⟩ engine.catalog[unit]? := by
  rw [decisions, decide, Decision.run_silent, List.mem_map]
  constructor
  · rintro ⟨other, hs, he⟩
    cases he
    exact ⟨hs, rfl⟩
  · rintro ⟨hs, rfl⟩
    exact ⟨unit, hs, rfl⟩

theorem mem_acceptedIn_silent {request : Request} {unit : UnitName} :
    unit ∈ acceptedIn (engine.decisions .silent request registry) ↔
      unit ∈ request.kept ∧ engine.objections? request.env registry unit = none := by
  rw [mem_acceptedIn, objections?]
  simp only [mem_decisions_silent, mem_survivors]
  cases ha : engine.against? request.env unit with
  | some outcome => simp
  | none => simp [Decision.against?_eq_none_iff]

namespace Completes

variable {request : Request} {resolution : Resolution}
  (h : engine.Completes .silent request registry resolution final)
include h

/-- **Accepted** are the units against which nothing is said. -/
theorem mem_accepted_silent {unit : UnitName} :
    unit ∈ resolution.accepted ↔
      unit ∈ request.kept ∧ engine.objections? request.env registry unit = none := by
  rw [h.isTopological.mem_iff, mem_acceptedIn_silent]

/-- **Rejected** are the others, with all that is said against them. -/
theorem getElem?_rejected_silent {unit : UnitName} {outcomes : List Outcome} :
    resolution.rejected[unit]? = some outcomes ↔
      unit ∈ request.kept ∧ engine.objections? request.env registry unit = some outcomes := by
  rw [h.getElem?_rejected, objections?]
  simp only [mem_sortedOut, mem_decisions_silent, mem_survivors]
  cases ha : engine.against? request.env unit with
  | some outcome => simp [eq_comm]
  | none => simp

end Completes

/-! ## Two passes -/

theorem invalid_eq_nil_iff {request : Request} :
    engine.invalid request = [] ↔ ∀ unit ∈ request.exclusions, unit ∈ request.candidates ∨
      (engine.settingsIn request.env).policy.forbids engine.oracle unit = false := by
  rw [invalid, Exclusion.invalid, List.filter_eq_nil_iff]
  refine forall_congr' fun unit => imp_congr_right fun _ => ?_
  rw [← Request.mem_names]
  by_cases hc : unit ∈ request.names
  · simp [hc]
  · simp [hc]

theorem fault?_eq_none_iff {request : Request} :
    engine.fault? request = none ↔ ∀ unit ∈ request.kept, engine.against? request.env unit = none →
      Decision.fault? engine.catalog unit = none := by
  rw [fault?, List.findSome?_eq_none_iff]
  simp only [mem_survivors, and_imp]

section Alike

variable {first second : Request} (h : first.Alike second)
include h

theorem isEmpty_invalid_of_alike :
    (engine.invalid first).isEmpty = (engine.invalid second).isEmpty := by
  have hiff : engine.invalid first = [] ↔ engine.invalid second = [] := by
    rw [invalid_eq_nil_iff, invalid_eq_nil_iff, h.env]
    simp only [h.candidates, h.exclusions]
  rw [Bool.eq_iff_iff, List.isEmpty_iff, List.isEmpty_iff, hiff]

theorem fault?_eq_none_of_alike : engine.fault? first = none ↔ engine.fault? second = none := by
  rw [fault?_eq_none_iff, fault?_eq_none_iff, h.env]
  simp only [h.kept]

theorem mem_acceptedIn_of_alike (unit : UnitName) :
    unit ∈ acceptedIn (engine.decisions .silent first registry) ↔
      unit ∈ acceptedIn (engine.decisions .silent second registry) := by
  rw [mem_acceptedIn_silent, mem_acceptedIn_silent, h.kept, h.env]

/-- **Requests that are alike fail for the same cause**, or both succeed. -/
theorem cause?_resolve_of_alike :
    Failure.cause? (engine.resolve .silent first registry).1 =
      Failure.cause? (engine.resolve .silent second registry).1 := by
  by_cases enabled : (engine.settingsIn first.env).enabled = true
  · have enabled' : (engine.settingsIn second.env).enabled = true := h.env ▸ enabled
    rw [resolve_eq enabled, resolve_eq enabled', ← isEmpty_invalid_of_alike h]
    by_cases hv : (engine.invalid first).isEmpty = true
    · rw [if_pos hv, if_pos hv]
      have hfault : engine.fault? first = none ↔ engine.fault? second = none :=
        fault?_eq_none_of_alike h
      cases hf : engine.fault? first with
      | some problem =>
        -- the first rule at fault may be another one, but there is one
        cases hs : engine.fault? second with
        | some other => rfl
        | none => exact absurd (hfault.mpr hs) (by simp [hf])
      | none =>
        rw [hfault.mp hf]
        simp only [Failure.cause?_map]
        exact Order.cause?_arrange_congr (mem_acceptedIn_of_alike h)
    · rw [if_neg hv, if_neg hv]
      rfl
  · have disabled : ¬(engine.settingsIn second.env).enabled = true := h.env ▸ enabled
    rw [resolve, resolve, if_neg enabled, if_neg disabled]

variable {one other : Resolution} {final' : Registry}
  (hone : engine.Completes .silent first registry one final)
  (hother : engine.Completes .silent second registry other final')
include hone hother

theorem mem_accepted_of_alike (unit : UnitName) : unit ∈ one.accepted ↔ unit ∈ other.accepted := by
  rw [hone.mem_accepted_silent, hother.mem_accepted_silent, h.kept, h.env]

theorem rejected_eq_of_alike : one.rejected = other.rejected := by
  refine Std.ExtTreeMap.ext_getElem? fun unit => Option.ext fun outcomes => ?_
  rw [hone.getElem?_rejected_silent, hother.getElem?_rejected_silent, h.kept, h.env]

theorem mem_excluded_of_alike (unit : UnitName) : unit ∈ one.excluded ↔ unit ∈ other.excluded := by
  rw [hone.mem_excluded, hother.mem_excluded, h.candidates, h.exclusions]

/-- **The order is the same** if no two accepted units have the same precedence. -/
theorem accepted_eq_of_alike
    (hdiff : ∀ unit ∈ one.accepted, ∀ unit' ∈ one.accepted, unit ≠ unit' →
      Hints.readOrder engine.index engine.catalog unit ≠
        Hints.readOrder engine.index engine.catalog unit') :
    one.accepted = other.accepted := by
  -- the walk starts from the units sorted by precedence, so these must agree
  obtain ⟨hread, -, hfirst⟩ := Order.of_arrange_eq_ok hone.arranged
  obtain ⟨hread', -, -⟩ := Order.of_arrange_eq_ok hother.arranged
  have hperm : (acceptedIn (engine.decisions .silent first registry)).Perm
      (acceptedIn (engine.decisions .silent second registry)) := by
    rw [List.perm_ext_iff_of_nodup (nodup_acceptedIn ..) (nodup_acceptedIn ..)]
    exact mem_acceptedIn_of_alike h
  have hsorted : Order.prioritized engine.index engine.catalog
      (acceptedIn (engine.decisions .silent first registry)) =
        Order.prioritized engine.index engine.catalog
          (acceptedIn (engine.decisions .silent second registry)) := by
    refine Order.prioritized_eq_of_perm hperm fun unit hu unit' hu' he => ?_
    rw [List.findSome?_eq_none_iff] at hread
    by_contra hne
    refine hdiff unit ((hfirst.mem_iff unit).mpr hu) unit' ((hfirst.mem_iff unit').mpr hu') hne ?_
    rw [Hints.readOrder_of_problem?_eq_none (hread unit hu),
      Hints.readOrder_of_problem?_eq_none (hread unit' hu'), he]
  have harr := Order.arrange_congr hread hread' hsorted
  rw [hone.arranged, hother.arranged] at harr
  exact Except.ok.inj harr

end Alike

/-- **A pass that registers no beans is local.**  Two requests that name the same
candidates, in any order and with any repetition, and have the same exclusions, both
succeed or fail for the same cause.  If they succeed, they accept the same units, reject
the same units with the same outcomes, and exclude the same candidates; and the accepted
units are in the same order if no two of them have the same precedence.  Moreover, for
any two requests that succeed, with the engine switched on, a candidate that neither of
them excludes is accepted in both or rejected in both with the same outcomes, whatever
the other candidates are. -/
theorem resolve_silent_local (engine : Engine) (registry : Registry) :
    (∀ first second : Request, first.Alike second →
      Failure.cause? (engine.resolve .silent first registry).1 =
        Failure.cause? (engine.resolve .silent second registry).1 ∧
      ∀ one other, (engine.resolve .silent first registry).1 = .ok one →
        (engine.resolve .silent second registry).1 = .ok other →
        (∀ unit, unit ∈ one.accepted ↔ unit ∈ other.accepted) ∧
        one.rejected = other.rejected ∧
        (∀ unit, unit ∈ one.excluded ↔ unit ∈ other.excluded) ∧
        ((∀ unit ∈ one.accepted, ∀ unit' ∈ one.accepted, unit ≠ unit' →
            Hints.readOrder engine.index engine.catalog unit ≠
              Hints.readOrder engine.index engine.catalog unit') →
          one.accepted = other.accepted)) ∧
    (∀ (first second : Request) (one other : Resolution) (unit : UnitName),
      first.env = second.env →
      (engine.resolve .silent first registry).1 = .ok one → one.disabled = false →
      (engine.resolve .silent second registry).1 = .ok other → other.disabled = false →
      unit ∈ first.candidates → unit ∉ first.exclusions →
      unit ∈ second.candidates → unit ∉ second.exclusions →
        (unit ∈ one.accepted ∧ unit ∈ other.accepted) ∨
        ∃ outcomes, one.rejected[unit]? = some outcomes ∧
          other.rejected[unit]? = some outcomes) := by
  refine ⟨fun first second h => ⟨cause?_resolve_of_alike h, ?_⟩, ?_⟩
  · intro one other hone hother
    by_cases enabled : (engine.settingsIn first.env).enabled = true
    · have hfirst := Completes.of_eq_ok enabled (Prod.ext hone rfl)
      rw [h.env] at enabled
      have hsecond := Completes.of_eq_ok enabled (Prod.ext hother rfl)
      exact ⟨mem_accepted_of_alike h hfirst hsecond, rejected_eq_of_alike h hfirst hsecond,
        mem_excluded_of_alike h hfirst hsecond, accepted_eq_of_alike h hfirst hsecond⟩
    · -- both passes are switched off, and so they find out the same
      rw [resolve, if_neg enabled] at hone
      rw [h.env] at enabled
      rw [resolve, if_neg enabled] at hother
      cases hone
      cases hother
      exact ⟨fun _ => Iff.rfl, rfl, fun _ => Iff.rfl, fun _ => rfl⟩
  · intro first second one other unit henv hone active hother active' hc hx hc' hx'
    have hfirst := resolve_eq_ok_iff.mp ⟨Prod.ext hone rfl, active⟩
    have hsecond := resolve_eq_ok_iff.mp ⟨Prod.ext hother rfl, active'⟩
    have hkept := Request.mem_kept.mpr ⟨hc, hx⟩
    have hkept' := Request.mem_kept.mpr ⟨hc', hx'⟩
    cases ho : engine.objections? first.env registry unit with
    | none =>
      refine Or.inl ⟨hfirst.mem_accepted_silent.mpr ⟨hkept, ho⟩, ?_⟩
      exact hsecond.mem_accepted_silent.mpr ⟨hkept', henv ▸ ho⟩
    | some outcomes =>
      refine Or.inr ⟨outcomes, hfirst.getElem?_rejected_silent.mpr ⟨hkept, ho⟩, ?_⟩
      exact hsecond.getElem?_rejected_silent.mpr ⟨hkept', henv ▸ ho⟩

/-- The candidates and the exclusion of `storeRequest`, listed in another way. -/
def storeRequestAgain : Request where
  candidates := ["fallback", "cache", "store", "log"]
  excludeNames := [" log ", ""]

/-- A request that has one candidate in common with `storeRequest`. -/
def cacheRequest : Request where
  candidates := ["metrics", "cache"]

theorem exclusions_storeRequest : storeRequest.exclusions = ["log"] := by decide

theorem exclusions_storeRequestAgain : storeRequestAgain.exclusions = ["log"] := by decide

theorem exclusions_cacheRequest : cacheRequest.exclusions = [] := by decide

theorem storeRequest_alike : storeRequest.Alike storeRequestAgain where
  env := rfl
  candidates unit := by
    simp only [storeRequest, storeRequestAgain, List.mem_cons, List.not_mem_nil, or_false]
    tauto
  exclusions unit := by rw [exclusions_storeRequest, exclusions_storeRequestAgain]

theorem acceptedIn_storeRequest :
    acceptedIn (storeEngine.decisions .silent storeRequest {}) = ["store", "fallback"] := by
  decide

/-- The store comes before the fallback in both orders, since no beans are registered
and the fallback has the higher precedence number; the cache is rejected even next to
candidates of another kind. -/
theorem resolve_silent_local_store : ∃ one other third,
    (storeEngine.resolve .silent storeRequest {}).1 = .ok one ∧
    (storeEngine.resolve .silent storeRequestAgain {}).1 = .ok other ∧
    (storeEngine.resolve .silent cacheRequest {}).1 = .ok third ∧
    one.accepted = other.accepted ∧ one.rejected = other.rejected ∧
    (("cache" ∈ one.accepted ∧ "cache" ∈ third.accepted) ∨
      ∃ outcomes, one.rejected["cache"]? = some outcomes ∧
        third.rejected["cache"]? = some outcomes) := by
  obtain ⟨one, _, hone⟩ : ∃ one final, storeEngine.Completes .silent storeRequest {} one final :=
    storeEngine_completes Host.silent {} rfl (by decide) (by decide)
  obtain ⟨other, _, hother⟩ : ∃ other final,
      storeEngine.Completes .silent storeRequestAgain {} other final :=
    storeEngine_completes Host.silent {} rfl (by decide) (by decide)
  obtain ⟨third, _, hthird⟩ : ∃ third final,
      storeEngine.Completes .silent cacheRequest {} third final :=
    storeEngine_completes Host.silent {} rfl (by decide) (by decide)
  obtain ⟨hok, active⟩ := resolve_eq_ok_iff.mpr hone
  obtain ⟨hok', -⟩ := resolve_eq_ok_iff.mpr hother
  obtain ⟨hok'', active''⟩ := resolve_eq_ok_iff.mpr hthird
  have hlocal := resolve_silent_local storeEngine {}
  obtain ⟨-, hsame⟩ := hlocal.1 storeRequest storeRequestAgain storeRequest_alike
  obtain ⟨-, hrejected, -, hordered⟩ :=
    hsame one other (congrArg Prod.fst hok) (congrArg Prod.fst hok')
  have hcache := hlocal.2 storeRequest cacheRequest one third "cache" rfl (congrArg Prod.fst hok)
    active (congrArg Prod.fst hok'') active'' (by decide)
    (by rw [exclusions_storeRequest]; decide) (by decide)
    (by rw [exclusions_cacheRequest]; decide)
  refine ⟨one, other, third, congrArg Prod.fst hok, congrArg Prod.fst hok',
    congrArg Prod.fst hok'', hordered ?_, hrejected, hcache⟩
  have hstore : Hints.readOrder storeEngine.index storeEngine.catalog "store" = .ok 0 := by
    decide
  have hfallback : Hints.readOrder storeEngine.index storeEngine.catalog "fallback" = .ok 7 := by
    decide
  intro unit hu unit' hu' hne
  rw [hone.isTopological.mem_iff, acceptedIn_storeRequest] at hu hu'
  simp only [List.mem_cons, List.not_mem_nil, or_false] at hu hu'
  rcases hu with rfl | rfl <;> rcases hu' with rfl | rfl
  · exact absurd rfl hne
  · simp [hstore, hfallback]
  · simp [hstore, hfallback]
  · exact absurd rfl hne

end Engine
end Activation
