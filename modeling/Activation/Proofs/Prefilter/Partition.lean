import Activation.Proofs.Prefilter
import Mathlib.Data.List.Forall2

/-!
# The pre-filter parts the candidates

The slots of the pre-filter are closed one by one, filter after filter, and the
rejected candidates come out in another order than they were found.  In the end none of
this shows: every place of the list of candidates goes to the survivors or to the
rejected ones, and both lists follow the candidates.

Whether a filter speaks against a unit is asked here of that filter alone, with a list of
that unit alone (`Filter.Opposes`).

* `List.Forall₂` ties a list of places to what stands there; `Positions.forall₂_filterMap`
  does so for the entries that a function picks.
* `FilterChain.against?_eq_some_iff`: the outcome that closes a slot is the one of the
  first filter of the chain that speaks against the unit.
* `FilterChain.apply_partitions`: the two lists part the places, and which filters there
  are decides who survives; their order and their number do not.
-/

namespace Activation

/-! ## Places in a list -/

namespace Positions

variable {α β : Type}

/-- The places of a list at which an entry has a property, in order. -/
def positions (p : α → Bool) (xs : List α) : List Nat :=
  (xs.zipIdx.filter fun entry => p entry.1).map Prod.snd

theorem positions_sublist_range (p : α → Bool) (xs : List α) :
    (positions p xs).Sublist (List.range xs.length) := by
  rw [List.range_eq_range', ← List.zipIdx_map_snd 0 xs]
  exact List.filter_sublist.map Prod.snd

theorem pairwise_positions (p : α → Bool) (xs : List α) : (positions p xs).Pairwise (· < ·) :=
  List.pairwise_lt_range.sublist (positions_sublist_range p xs)

theorem mem_positions {p : α → Bool} {xs : List α} {i : Nat} :
    i ∈ positions p xs ↔ ∃ x, xs[i]? = some x ∧ p x = true := by
  rw [positions, List.mem_map]
  constructor
  · rintro ⟨⟨x, i⟩, hm, rfl⟩
    rw [List.mem_filter, List.mem_zipIdx_iff_getElem?] at hm
    exact ⟨x, hm⟩
  · rintro ⟨x, hx, hp⟩
    exact ⟨(x, i), List.mem_filter.mpr ⟨List.mem_zipIdx_iff_getElem?.mpr hx, hp⟩, rfl⟩

/-- **The places of a property and of its opposite** are all places, once each. -/
theorem positions_append_perm (p : α → Bool) (xs : List α) :
    (positions p xs ++ positions (fun x => !p x) xs).Perm (List.range xs.length) := by
  rw [List.range_eq_range', ← List.zipIdx_map_snd 0 xs, positions, positions, ← List.map_append]
  exact (List.filter_append_perm (fun entry => p entry.1) xs.zipIdx).map Prod.snd

/-- **What a function picks from a list** stands at the places where it picks something. -/
theorem forall₂_filterMap (f : α → Option β) (xs : List α) :
    List.Forall₂ (fun i b => ∃ x, xs[i]? = some x ∧ f x = some b)
      (positions (fun x => (f x).isSome) xs) (xs.filterMap f) := by
  -- the entries that are picked, with their places
  have hpicked (n : Nat) : List.Forall₂ (fun entry b => f entry.1 = some b)
      ((xs.zipIdx n).filter fun entry => (f entry.1).isSome) (xs.filterMap f) := by
    induction xs generalizing n with
    | nil => exact List.Forall₂.nil
    | cons x xs ih =>
      rw [List.zipIdx_cons, List.filter_cons, List.filterMap_cons]
      cases hx : f x with
      | none => exact ih (n + 1)
      | some b => exact List.Forall₂.cons hx (ih (n + 1))
  have hplaced : ∀ entry ∈ xs.zipIdx.filter fun entry => (f entry.1).isSome,
      xs[entry.2]? = some entry.1 := by
    intro entry he
    exact List.mem_zipIdx_iff_getElem?.mp (List.mem_filter.mp he).1
  rw [positions, List.forall₂_map_left_iff]
  refine List.Forall₂.imp (fun entry b h => ?_)
    ((List.forall₂_and_left _ _).mpr ⟨hplaced, hpicked 0⟩)
  exact ⟨entry.1, h.1, h.2⟩

end Positions

/-! ## What a filter has against a unit -/

variable (machine : Machine) (index : Metadata) (oracle : Oracle)

namespace Filter

/-- **A filter speaks against a unit**: asked about this unit alone, it gives an outcome
that is no match. -/
def Opposes (filter : Filter) (unit : UnitName) (outcome : Outcome) : Prop :=
  filter.outcomes machine index oracle [some unit] = [some outcome] ∧ outcome.matched = false

variable {machine index oracle}

theorem against?_eq_some_iff {filter : Filter} {unit : UnitName} {outcome : Outcome} :
    filter.against? index oracle unit = some outcome ↔
      filter.Opposes machine index oracle unit outcome := by
  rw [Opposes, outcomes_eq_map, against?, Option.filter_eq_some_iff]
  simp

/-- What a filter has against a unit depends on the filter by its name alone. -/
theorem against?_congr {first second : Filter} (h : first.name = second.name) :
    first.against? index oracle = second.against? index oracle := by
  -- two filters of one name are the same, or share their work in different ways
  cases first <;> cases second <;> simp [name] at h <;> rfl

end Filter

namespace FilterChain

/-- **The first filter of a chain that speaks against a unit** does so with this outcome. -/
def FirstOpposes (chain : FilterChain) (unit : UnitName) (outcome : Outcome) : Prop :=
  ∃ earlier filter later, chain = earlier ++ filter :: later ∧
    (∀ other ∈ earlier, ∀ objection, ¬other.Opposes machine index oracle unit objection) ∧
    filter.Opposes machine index oracle unit outcome

variable {machine index oracle}

theorem against?_eq_some_iff {chain : FilterChain} {unit : UnitName} {outcome : Outcome} :
    chain.against? index oracle unit = some outcome ↔
      chain.FirstOpposes machine index oracle unit outcome := by
  rw [against?, List.findSome?_eq_some_iff, FirstOpposes]
  refine exists_congr fun earlier => exists_congr fun filter => exists_congr fun later => ?_
  rw [@Filter.against?_eq_some_iff machine, and_comm (a := filter.Opposes ..)]
  refine and_congr_right fun _ => and_congr_left fun _ => forall₂_congr fun other _ => ?_
  rw [Option.eq_none_iff_forall_ne_some]
  exact forall_congr' fun objection => not_congr Filter.against?_eq_some_iff

theorem isSome_against?_iff {chain : FilterChain} {unit : UnitName} :
    (chain.against? index oracle unit).isSome = true ↔
      ∃ filter ∈ chain, ∃ outcome, filter.Opposes machine index oracle unit outcome := by
  rw [against?, List.findSome?_isSome_iff]
  refine exists_congr fun filter => and_congr_right fun _ => ?_
  rw [Option.isSome_iff_exists]
  exact exists_congr fun outcome => Filter.against?_eq_some_iff

/-- Whether a chain speaks against a unit depends on which filters are in it. -/
theorem isSome_against?_congr {chain other : FilterChain}
    (h : ∀ name, name ∈ other.map Filter.name ↔ name ∈ chain.map Filter.name) (unit : UnitName) :
    (other.against? index oracle unit).isSome = (chain.against? index oracle unit).isSome := by
  have himp {first second : FilterChain}
      (hsub : ∀ name, name ∈ first.map Filter.name → name ∈ second.map Filter.name)
      (hs : (first.against? index oracle unit).isSome = true) :
      (second.against? index oracle unit).isSome = true := by
    rw [against?, List.findSome?_isSome_iff] at hs ⊢
    obtain ⟨filter, hf, hs⟩ := hs
    obtain ⟨filter', hf', hname⟩ := List.mem_map.mp (hsub _ (List.mem_map_of_mem hf))
    exact ⟨filter', hf', by rwa [Filter.against?_congr hname]⟩
  rw [Bool.eq_iff_iff]
  exact ⟨himp fun name => (h name).mp, himp fun name => (h name).mpr⟩

theorem map_fst_rejected_apply (chain : FilterChain) (candidates : List UnitName) :
    (rejected (chain.apply machine index oracle candidates)).map Prod.fst =
      candidates.filter fun unit => (chain.against? index oracle unit).isSome := by
  rw [rejected_apply, map_fst_filterMap]

/-- **The pre-filter parts the candidates.**  The places of the candidates are those of the
survivors and those of the rejected ones, each place once, and both lists are in the order
of the candidates.  A candidate is rejected exactly if some filter of the chain, asked about
it alone, speaks against it, and the recorded outcome is the one of the first such filter.
So a chain with the same filters in another order, or more often, lets the same candidates
through and rejects the same ones. -/
theorem apply_partitions (machine : Machine) (index : Metadata) (oracle : Oracle)
    (chain : FilterChain) (candidates : List UnitName) :
    (∃ kept gone : List Nat, kept.Pairwise (· < ·) ∧ gone.Pairwise (· < ·) ∧
      (kept ++ gone).Perm (List.range candidates.length) ∧
      List.Forall₂ (fun place unit => candidates[place]? = some unit) kept
        (survivors (chain.apply machine index oracle candidates)) ∧
      List.Forall₂ (fun place entry => candidates[place]? = some entry.1 ∧
          chain.FirstOpposes machine index oracle entry.1 entry.2) gone
        (rejected (chain.apply machine index oracle candidates)) ∧
      ∀ place unit, candidates[place]? = some unit → (place ∈ gone ↔
        ∃ filter ∈ chain, ∃ outcome, filter.Opposes machine index oracle unit outcome)) ∧
    ∀ other : FilterChain,
      (∀ name, name ∈ other.map Filter.name ↔ name ∈ chain.map Filter.name) →
      survivors (other.apply machine index oracle candidates) =
        survivors (chain.apply machine index oracle candidates) ∧
      (rejected (other.apply machine index oracle candidates)).map Prod.fst =
        (rejected (chain.apply machine index oracle candidates)).map Prod.fst := by
  refine ⟨⟨Positions.positions (fun unit => (chain.against? index oracle unit).isNone) candidates,
    Positions.positions (fun unit => (chain.against? index oracle unit).isSome) candidates,
    Positions.pairwise_positions .., Positions.pairwise_positions .., ?_, ?_, ?_, ?_⟩, ?_⟩
  · have h := Positions.positions_append_perm
      (fun unit => (chain.against? index oracle unit).isNone) candidates
    simpa only [Option.not_isNone] using h
  · rw [survivors_apply]
    have h := Positions.forall₂_filterMap
      (Option.guard fun unit => (chain.against? index oracle unit).isNone) candidates
    simp only [List.filterMap_eq_filter, Option.isSome_guard] at h
    refine h.imp fun place unit hplace => ?_
    obtain ⟨other, ho, hg⟩ := hplace
    rw [Option.guard_eq_some_iff] at hg
    rw [ho, hg.1]
  · rw [rejected_apply]
    have h := Positions.forall₂_filterMap (fun unit =>
      (chain.against? index oracle unit).map fun outcome => (unit, outcome)) candidates
    simp only [Option.isSome_map] at h
    refine h.imp fun place entry hplace => ?_
    obtain ⟨unit, hu, he⟩ := hplace
    obtain ⟨outcome, ha, rfl⟩ := Option.map_eq_some_iff.mp he
    exact ⟨hu, against?_eq_some_iff.mp ha⟩
  · intro place unit hu
    rw [Positions.mem_positions, ← isSome_against?_iff]
    constructor
    · rintro ⟨other, ho, hs⟩
      rw [hu] at ho
      cases ho
      exact hs
    · intro hs
      exact ⟨unit, hu, hs⟩
  · intro other h
    refine ⟨?_, ?_⟩
    · rw [survivors_apply, survivors_apply]
      refine List.filter_congr fun unit _ => ?_
      rw [← Option.not_isSome, ← Option.not_isSome, isSome_against?_congr h]
    · rw [map_fst_rejected_apply, map_fst_rejected_apply]
      exact List.filter_congr fun unit _ => isSome_against?_congr h unit

/-- An index that lists two reasons against a shop on the web, and one against a pool. -/
def shopIndex : Metadata :=
  .ofPairs [("shop.ConditionalOnClass", "Servlet"), ("shop.ConditionalOnWebApplication", "SERVLET"),
    ("pool.ConditionalOnBean", "Store, Pool")]

/-- The build of the shop has a store and nothing else. -/
def shopOracle : Oracle := fun symbol => symbol == "Store"

/-- The filters of the usual chain in another order, one of them twice. -/
def shopChain : FilterChain := [.webStack, .symbols .serial, .beanTypes, .webStack]

/-- Both places of the shop go to the rejected candidates, whichever filter comes first. -/
theorem apply_partitions_shop :
    (∀ name, name ∈ shopChain.map Filter.name ↔ name ∈ (standard .parallel).map Filter.name) ∧
    (∃ kept gone : List Nat, (kept ++ gone).Perm (List.range 4) ∧ 0 ∈ gone ∧ 2 ∈ gone) ∧
    survivors (shopChain.apply {} shopIndex shopOracle ["shop", "store", "shop", "pool"]) =
      survivors ((standard .parallel).apply {} shopIndex shopOracle
        ["shop", "store", "shop", "pool"]) := by
  have same : ∀ name,
      name ∈ shopChain.map Filter.name ↔ name ∈ (standard .parallel).map Filter.name := by
    intro name
    simp only [shopChain, standard, List.map_cons, List.map_nil, List.mem_cons, List.not_mem_nil,
      Filter.name]
    tauto
  have hshop : (Filter.symbols .parallel).Opposes {} shopIndex shopOracle "shop"
      (Oracle.missingOutcome "Servlet") := ⟨by cbv, rfl⟩
  obtain ⟨⟨kept, gone, -, -, hparts, -, -, hgone⟩, hsame⟩ := apply_partitions {} shopIndex
    shopOracle (standard .parallel) ["shop", "store", "shop", "pool"]
  have hplace (place : Nat) (h : ["shop", "store", "shop", "pool"][place]? = some "shop") :
      place ∈ gone := (hgone place "shop" h).mpr ⟨_, List.mem_cons_self, _, hshop⟩
  exact ⟨same, ⟨kept, gone, hparts, hplace 0 rfl, hplace 2 rfl⟩, (hsame shopChain same).1⟩

end FilterChain
end Activation
