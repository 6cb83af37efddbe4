import Activation.Proofs.Resolution.Places

/-!
# Splitting a pass

The verdict on a unit depends on the units before it, since these may have brought
in beans.  But all that they leave behind is in the host.  So a pass over candidates
of two kinds is as good as a pass over the first kind followed by one over the
second, which begins with the host as the first one left it.

The stages split one by one (`Engine.survivors_append`, `Engine.decisions_append`),
and neither part can get into trouble where the whole does not: a part has fewer
rules that may be at fault and fewer units to be arranged
(`Engine.Completes.exists_split`).  What is not preserved is the order, because a
unit of the second kind may have to stand before one of the first.
-/

namespace Activation

namespace Request

/-- A request with other candidates. -/
def offering (request : Request) (candidates : List UnitName) : Request :=
  { request with candidates }

variable {request : Request} {xs ys : List UnitName}

theorem kept_append (disjoint : ∀ unit ∈ xs, unit ∉ ys) :
    (request.offering (xs ++ ys)).kept =
      (request.offering xs).kept ++ (request.offering ys).kept := by
  have hnames : (request.offering (xs ++ ys)).names =
      (request.offering xs).names ++ (request.offering ys).names :=
    Repetition.eraseDups_append_of_disjoint disjoint
  rw [kept, hnames, Exclusion.kept, List.filter_append]
  rfl

end Request

namespace Engine

variable {σ : Type} {engine : Engine} {host : Host σ} {request : Request}
  {xs ys : List UnitName} {state final : σ}

/-! ## The stages split -/

theorem survivors_append (disjoint : ∀ unit ∈ xs, unit ∉ ys) :
    engine.survivors (request.offering (xs ++ ys)) =
      engine.survivors (request.offering xs) ++ engine.survivors (request.offering ys) := by
  rw [survivors, Request.kept_append disjoint, List.filter_append]
  rfl

theorem sortedOut_append (disjoint : ∀ unit ∈ xs, unit ∉ ys) :
    engine.sortedOut (request.offering (xs ++ ys)) =
      engine.sortedOut (request.offering xs) ++ engine.sortedOut (request.offering ys) := by
  rw [sortedOut, Request.kept_append disjoint, List.filterMap_append]
  rfl

theorem fault?_append (disjoint : ∀ unit ∈ xs, unit ∉ ys) :
    engine.fault? (request.offering (xs ++ ys)) =
      (engine.fault? (request.offering xs)).or (engine.fault? (request.offering ys)) := by
  rw [fault?, survivors_append disjoint, List.findSome?_append]
  rfl

/-- **Decisions split at the state of the host**: those about the second kind are made
where those about the first kind have left it. -/
theorem decisions_append (disjoint : ∀ unit ∈ xs, unit ∉ ys) :
    engine.decisions host (request.offering (xs ++ ys)) state =
      engine.decisions host (request.offering xs) state ++
        engine.decisions host (request.offering ys)
          (engine.hostAfter host (request.offering xs) state) := by
  rw [decisions, survivors_append disjoint, decide, Decision.run_append]
  rfl

theorem hostAfter_append (disjoint : ∀ unit ∈ xs, unit ∉ ys) :
    engine.hostAfter host (request.offering (xs ++ ys)) state =
      engine.hostAfter host (request.offering ys)
        (engine.hostAfter host (request.offering xs) state) := by
  rw [hostAfter, survivors_append disjoint, decide, Decision.run_append]
  rfl

theorem acceptedIn_append (decisions further : List (UnitName × Decision)) :
    acceptedIn (decisions ++ further) = acceptedIn decisions ++ acceptedIn further := by
  rw [acceptedIn, List.filter_append, List.map_append]
  rfl

/-! ## Both parts succeed -/

/-- **Both parts of a successful pass succeed**, and the second one ends where the whole
pass does. -/
theorem Completes.exists_split {whole : Resolution}
    (h : engine.Completes host (request.offering (xs ++ ys)) state whole final)
    (unrestricted : request.exclusions = []) (disjoint : ∀ unit ∈ xs, unit ∉ ys) :
    ∃ first second,
      engine.Completes host (request.offering xs) state first
        (engine.hostAfter host (request.offering xs) state) ∧
      engine.Completes host (request.offering ys)
        (engine.hostAfter host (request.offering xs) state) second final := by
  -- what the whole pass went through holds of both parts, as they share nothing
  have hsound := h.sound
  rw [fault?_append disjoint, Option.or_eq_none_iff] at hsound
  have harr := h.arranged
  rw [decisions_append disjoint, acceptedIn_append] at harr
  have hfinal : final = engine.hostAfter host (request.offering ys)
      (engine.hostAfter host (request.offering xs) state) := by
    rw [← hostAfter_append disjoint]
    exact h.final_eq
  obtain ⟨first, hfirst⟩ := Completes.exists_of_arrange engine host (request.offering xs) state
    h.enabled (invalid_of_unrestricted unrestricted) hsound.1
    (Order.exists_arrange_of_subset (List.subset_append_left _ _) harr)
  obtain ⟨second, hsecond⟩ := Completes.exists_of_arrange engine host (request.offering ys)
    (engine.hostAfter host (request.offering xs) state) h.enabled
    (invalid_of_unrestricted unrestricted) hsound.2
    (Order.exists_arrange_of_subset (List.subset_append_right _ _) harr)
  rw [← hfinal] at hsecond
  exact ⟨first, second, hfirst, hsecond⟩

/-- A rejected unit is one of the candidates. -/
theorem Completes.mem_candidates_of_rejected {resolution : Resolution}
    (h : engine.Completes host request state resolution final) {unit : UnitName}
    {outcomes : List Outcome} (hr : resolution.rejected[unit]? = some outcomes) :
    unit ∈ request.candidates := by
  have hm : unit ∈ resolution.rejected := by
    rw [Std.ExtTreeMap.mem_iff_isSome_getElem?, hr]
    rfl
  exact (Request.mem_kept.mp (h.mem_kept_iff.mpr (Or.inr hm))).1

/-- **The rejected units of the whole** are those of the parts, with the same outcomes. -/
theorem Completes.rejected_eq_union {whole first second : Resolution} {middle : σ}
    (h : engine.Completes host (request.offering (xs ++ ys)) state whole final)
    (hfirst : engine.Completes host (request.offering xs) state first middle)
    (hsecond : engine.Completes host (request.offering ys) middle second final)
    (disjoint : ∀ unit ∈ xs, unit ∉ ys) :
    whole.rejected = first.rejected ∪ second.rejected := by
  have heither (unit : UnitName) (outcomes : List Outcome) :
      whole.rejected[unit]? = some outcomes ↔
        first.rejected[unit]? = some outcomes ∨ second.rejected[unit]? = some outcomes := by
    rw [h.getElem?_rejected, hfirst.getElem?_rejected, hsecond.getElem?_rejected,
      sortedOut_append disjoint, decisions_append disjoint, ← hfirst.final_eq]
    simp only [List.mem_append, or_and_right, exists_or]
    exact or_or_or_comm
  refine Std.ExtTreeMap.ext_getElem? fun unit => Option.ext fun outcomes => ?_
  rw [Std.ExtTreeMap.getElem?_union, Option.or_eq_some_iff, heither]
  constructor
  · rintro (hf | hs)
    · -- the second table counts before the first, but here it has no say
      refine Or.inr ⟨?_, hf⟩
      rw [Option.eq_none_iff_forall_not_mem]
      intro others hs
      exact disjoint unit (hfirst.mem_candidates_of_rejected hf)
        (hsecond.mem_candidates_of_rejected hs)
    · exact Or.inl hs
  · rintro (hs | ⟨-, hf⟩)
    · exact Or.inr hs
    · exact Or.inl hf

/-- **A pass splits.**  Let a pass that is switched on, without exclusions, succeed for
candidates of two kinds that share no name.  Then a pass over the first kind succeeds,
a pass over the second kind that begins where the first one left the host succeeds too,
and leaves the host where the whole pass does.  The two together accept the same units,
and reject the same units with the same outcomes.  This holds for any host, and so for
one that registers the beans of the accepted units in the registry it shows. -/
theorem resolve_append {σ : Type} (engine : Engine) (host : Host σ) (request : Request)
    (xs ys : List UnitName) (state final : σ) (whole : Resolution)
    (enabled : (engine.settingsIn request.env).enabled = true)
    (unrestricted : request.exclusions = []) (disjoint : ∀ unit ∈ xs, unit ∉ ys)
    (success : engine.resolve host (request.offering (xs ++ ys)) state = (.ok whole, final)) :
    ∃ first middle second,
      engine.resolve host (request.offering xs) state = (.ok first, middle) ∧
      engine.resolve host (request.offering ys) middle = (.ok second, final) ∧
      whole.accepted.Perm (first.accepted ++ second.accepted) ∧
      whole.rejected = first.rejected ∪ second.rejected := by
  have h : engine.Completes host (request.offering (xs ++ ys)) state whole final := by
    refine Completes.of_eq_ok ?_ success
    exact enabled
  obtain ⟨first, second, hfirst, hsecond⟩ := h.exists_split unrestricted disjoint
  have haccepted := h.accepted_perm
  rw [decisions_append disjoint, acceptedIn_append] at haccepted
  exact ⟨first, _, second, (resolve_eq_ok_iff.mpr hfirst).1, (resolve_eq_ok_iff.mpr hsecond).1,
    haccepted.trans (hfirst.accepted_perm.append hsecond.accepted_perm).symm,
    h.rejected_eq_union hfirst hsecond disjoint⟩

/-- Nothing is excluded in this request; what it asks for is still open. -/
def openRequest : Request where
  candidates := []

/-- The fallback is rejected by the second pass because the first one brought in a
store. -/
theorem resolve_append_store : ∃ whole final,
    storeEngine.resolve Host.registering
      (openRequest.offering (["store", "cache"] ++ ["fallback", "log"])) {} = (.ok whole, final) ∧
    ∃ first middle second,
      storeEngine.resolve Host.registering (openRequest.offering ["store", "cache"]) {} =
        (.ok first, middle) ∧
      storeEngine.resolve Host.registering (openRequest.offering ["fallback", "log"]) middle =
        (.ok second, final) ∧
      whole.accepted.Perm (first.accepted ++ second.accepted) ∧
      whole.rejected = first.rejected ∪ second.rejected := by
  obtain ⟨whole, _, h⟩ : ∃ whole final, storeEngine.Completes .registering
      (openRequest.offering (["store", "cache"] ++ ["fallback", "log"])) {} whole final :=
    storeEngine_completes Host.registering {} rfl (by decide) (by decide)
  have success := (resolve_eq_ok_iff.mpr h).1
  exact ⟨whole, _, success, resolve_append storeEngine Host.registering openRequest
    ["store", "cache"] ["fallback", "log"] {} _ whole (by decide) (by decide)
    (by decide) success⟩

end Engine
end Activation
