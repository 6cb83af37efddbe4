import Activation.Order
import Activation.Proofs.Order.Hints
import Activation.Proofs.Order.Prerequisites
import Activation.Proofs.Order.Walk

/-!
# The order of accepted units is topological

Which unit must follow which is settled by the hints alone (`Order.MustFollow`).
The table that the order is read from stands for exactly this relation
(`needs_iff_mustFollow`), so what the walk preserves is about it.

* `arrange_topological`: if all precedences can be read, units are arranged exactly
  if the relation has no cycle, every name once and each after those that it must
  follow; otherwise a cycle is reported.
* `exists_arrange_of_subset`: leaving out units never spoils an order.
* `arrange_congr`: the order depends on how the units are listed only as far as this
  shows once they are sorted by precedence.
* `prioritized_eq_of_perm`: which it does not if no two precedences are the same.
-/

namespace Activation

open Relation

namespace Order

variable (index : Metadata) (catalog : Catalog)

/-! ## The relation -/

/-- **One unit must follow another**: both are among the accepted ones, and the first
says that it follows the second or the second says that it precedes the first. -/
def MustFollow (accepted : List UnitName) (unit other : UnitName) : Prop :=
  unit ∈ accepted ∧ other ∈ accepted ∧
    (other ∈ Hints.readUnits index catalog unit Definition.after Metadata.afterKey ∨
      unit ∈ Hints.readUnits index catalog other Definition.before Metadata.beforeKey)

/-- Some accepted unit must follow itself, directly or through others. -/
def Cyclic (accepted : List UnitName) : Prop :=
  ∃ unit, TransGen (MustFollow index catalog accepted) unit unit

/-- The accepted units, sorted by precedence; those of the same precedence stay as they
were. -/
def prioritized (accepted : List UnitName) : List UnitName :=
  accepted.mergeSort fun first second =>
    (Hints.ofUnit index catalog first).order ≤ (Hints.ofUnit index catalog second).order

/-- The table of prerequisites of accepted units. -/
def prerequisites (accepted : List UnitName) : Prerequisites :=
  .ofHints (prioritized index catalog accepted) (Hints.ofUnit index catalog)

variable {index catalog}

theorem mem_prioritized {accepted : List UnitName} {unit : UnitName} :
    unit ∈ prioritized index catalog accepted ↔ unit ∈ accepted :=
  (List.mergeSort_perm accepted _).mem_iff

/-- **The table stands for the relation.** -/
theorem needs_iff_mustFollow {accepted : List UnitName} {unit other : UnitName} :
    (prerequisites index catalog accepted).Needs unit other ↔
      MustFollow index catalog accepted unit other := by
  rw [Prerequisites.Needs, prerequisites, Prerequisites.mem_of_ofHints, mem_prioritized,
    mem_prioritized]
  rfl

theorem needs_eq_mustFollow (accepted : List UnitName) :
    (prerequisites index catalog accepted).Needs = MustFollow index catalog accepted :=
  funext fun _ => funext fun _ => propext needs_iff_mustFollow

/-- **The order of readable units** is the walk over their table from the units in the
order of precedence. -/
theorem ofHinted_eq (accepted : List UnitName) :
    ofHinted (accepted.map fun unit => (unit, Hints.ofUnit index catalog unit)) =
      (Walk.arrange (prerequisites index catalog accepted)
        (prioritized index catalog accepted)).mapError
        fun clash => ⟨clash.first, clash.second, (prerequisites index catalog accepted).members
          (prioritized index catalog accepted) clash.first⟩ := by
  have hpairs : byPrecedence (accepted.map fun unit => (unit, Hints.ofUnit index catalog unit)) =
      (prioritized index catalog accepted).map fun unit =>
        (unit, Hints.ofUnit index catalog unit) := by
    rw [byPrecedence, prioritized, List.map_mergeSort]
    intro first _ second _
    rfl
  have hunits : (byPrecedence (accepted.map fun unit =>
      (unit, Hints.ofUnit index catalog unit))).map Prod.fst =
        prioritized index catalog accepted := by
    rw [hpairs, List.map_map]
    exact List.map_id _
  have htable : (Prerequisites.ofHints (prioritized index catalog accepted) fun unit =>
      ((Std.ExtTreeMap.ofList (accepted.map fun unit =>
        (unit, Hints.ofUnit index catalog unit)))[unit]?).getD {}) =
        prerequisites index catalog accepted := by
    refine Prerequisites.ofHints_congr fun unit hu => ?_
    rw [Tables.getElem?_ofList_map, if_pos (mem_prioritized.mp hu), Option.getD_some]
  rw [ofHinted, hunits, htable]
  cases Walk.arrange (prerequisites index catalog accepted)
      (prioritized index catalog accepted) with
  | error clash => rfl
  | ok order => rfl

/-! ## What an arrangement is -/

/-- **An order fits the relation**: it holds the accepted units, each once, and every
unit stands after those that it must follow. -/
structure IsTopological (index : Metadata) (catalog : Catalog) (accepted order : List UnitName) :
    Prop where
  /-- No unit stands twice in the order. -/
  nodup : order.Nodup
  /-- The order holds the accepted units and nothing else. -/
  mem_iff : ∀ unit, unit ∈ order ↔ unit ∈ accepted
  /-- A unit stands after those that it must follow. -/
  follows : ∀ unit other, MustFollow index catalog accepted unit other →
    [other, unit].Sublist order

theorem cyclic_iff {accepted : List UnitName} :
    Cyclic index catalog accepted ↔
      ∃ unit, TransGen (prerequisites index catalog accepted).Needs unit unit := by
  rw [Cyclic, needs_eq_mustFollow]

/-- A walk over the table of accepted units that succeeds arranges them. -/
theorem isTopological_of_completes {accepted : List UnitName} {last : Walk}
    (h : Walk.Completes (prerequisites index catalog accepted) {}
      (prioritized index catalog accepted) last) :
    IsTopological index catalog accepted last.emitted.reverse where
  nodup := List.nodup_reverse.mpr h.invariant.nodup
  mem_iff unit := by
    rw [List.mem_reverse]
    constructor
    · intro hu
      rcases h.needed unit hu with hn | ⟨root, hr, hn⟩
      · exact absurd hn List.not_mem_nil
      · -- a prerequisite is among the units, and so is whatever it needs
        rcases ReflTransGen.cases_tail hn with rfl | ⟨before, -, hb⟩
        · exact mem_prioritized.mp hr
        · exact (needs_iff_mustFollow.mp hb).2.1
    · intro hu
      exact h.covers unit (mem_prioritized.mpr hu)
  follows unit other hf := by
    have hu : unit ∈ last.emitted := h.covers unit (mem_prioritized.mpr hf.1)
    have hsub := h.invariant.settled.sublist hu (needs_iff_mustFollow.mpr hf)
    exact List.reverse_sublist.mpr hsub

/-- A walk over the table of accepted units succeeds only if there is no cycle. -/
theorem not_cyclic_of_completes {accepted : List UnitName} {last : Walk}
    (h : Walk.Completes (prerequisites index catalog accepted) {}
      (prioritized index catalog accepted) last) : ¬Cyclic index catalog accepted := by
  rw [cyclic_iff]
  rintro ⟨unit, hc⟩
  obtain ⟨next, hn, -⟩ := TransGen.head'_iff.mp hc
  have hu : unit ∈ last.emitted :=
    h.covers unit (mem_prioritized.mpr (needs_iff_mustFollow.mp hn).1)
  exact h.invariant.settled.not_transGen h.invariant.nodup hu hc

/-- **Units whose precedences can be read** are arranged by the walk. -/
theorem arrange_of_readable {accepted : List UnitName}
    (h : accepted.findSome? (Hints.problem? index catalog) = none) :
    arrange index catalog accepted =
      (Walk.arrange (prerequisites index catalog accepted)
        (prioritized index catalog accepted)).mapError
        fun clash => .cycle ⟨clash.first, clash.second,
          (prerequisites index catalog accepted).members (prioritized index catalog accepted)
            clash.first⟩ := by
  rw [arrange, Hints.readAll_eq, h]
  simp only [ofHinted_eq]
  cases Walk.arrange (prerequisites index catalog accepted)
      (prioritized index catalog accepted) with
  | error clash => rfl
  | ok order => rfl

/-- **What the walk finds is what is reported**: two units that need each other, with the
members of their cycle, or the units in the order in which they were emitted. -/
theorem arrange_walks {accepted : List UnitName}
    (h : accepted.findSome? (Hints.problem? index catalog) = none) :
    (∃ clash : Clash, clash.IsCycle (prerequisites index catalog accepted) ∧
      arrange index catalog accepted = .error (.cycle ⟨clash.first, clash.second,
        (prerequisites index catalog accepted).members (prioritized index catalog accepted)
          clash.first⟩)) ∨
    ∃ last, Walk.visitAll (prerequisites index catalog accepted) {}
        (prioritized index catalog accepted) = .ok last ∧
      Walk.Completes (prerequisites index catalog accepted) {}
        (prioritized index catalog accepted) last ∧
      arrange index catalog accepted = .ok last.emitted.reverse := by
  have hspec := Walk.visitAll_spec
    (Walk.Invariant.initial : Walk.Invariant (prerequisites index catalog accepted) {} [])
    (prioritized index catalog accepted)
  have harr := arrange_of_readable h
  rw [Walk.arrange] at harr
  cases hv : Walk.visitAll (prerequisites index catalog accepted) {}
      (prioritized index catalog accepted) with
  | error clash =>
    rw [hv] at hspec harr
    exact Or.inl ⟨clash, hspec, harr⟩
  | ok last =>
    rw [hv] at hspec harr
    exact Or.inr ⟨last, rfl, hspec, harr⟩

/-- **The three ways in which arranging can end**: with the first precedence that cannot
be read, with a cycle, or with an order. -/
theorem arrange_cases (index : Metadata) (catalog : Catalog) (accepted : List UnitName) :
    (∃ problem, accepted.findSome? (Hints.problem? index catalog) = some problem ∧
      arrange index catalog accepted = .error (.notInteger problem)) ∨
    (accepted.findSome? (Hints.problem? index catalog) = none ∧ Cyclic index catalog accepted ∧
      ∃ cycle, arrange index catalog accepted = .error (.cycle cycle)) ∨
    (accepted.findSome? (Hints.problem? index catalog) = none ∧
      ¬Cyclic index catalog accepted ∧ ∃ order, arrange index catalog accepted = .ok order ∧
        IsTopological index catalog accepted order) := by
  cases hp : accepted.findSome? (Hints.problem? index catalog) with
  | some problem =>
    refine Or.inl ⟨problem, rfl, ?_⟩
    rw [arrange, Hints.readAll_eq, hp]
  | none =>
    rcases arrange_walks hp with ⟨clash, hclash, he⟩ | ⟨last, -, hlast, he⟩
    · exact Or.inr (Or.inl ⟨rfl, cyclic_iff.mpr ⟨clash.first, hclash.transGen⟩, _, he⟩)
    · exact Or.inr (Or.inr ⟨rfl, not_cyclic_of_completes hlast, last.emitted.reverse, he,
        isTopological_of_completes hlast⟩)

/-- An order is given only to units whose precedences can be read and among which there
is no cycle. -/
theorem of_arrange_eq_ok {accepted order : List UnitName}
    (h : arrange index catalog accepted = .ok order) :
    accepted.findSome? (Hints.problem? index catalog) = none ∧
      ¬Cyclic index catalog accepted ∧ IsTopological index catalog accepted order := by
  rcases arrange_cases index catalog accepted with ⟨problem, -, he⟩ | ⟨-, -, cycle, he⟩ |
    ⟨hp, hc, order', he, ht⟩
  · rw [h] at he
    exact nomatch he
  · rw [h] at he
    exact nomatch he
  · rw [h] at he
    cases he
    exact ⟨hp, hc, ht⟩

/-! ## Other lists of units -/

/-- What must follow what among some units must do so among more units. -/
theorem MustFollow.mono {accepted further : List UnitName} (hsub : accepted ⊆ further)
    {unit other : UnitName} (h : MustFollow index catalog accepted unit other) :
    MustFollow index catalog further unit other :=
  ⟨hsub h.1, hsub h.2.1, h.2.2⟩

theorem Cyclic.mono {accepted further : List UnitName} (hsub : accepted ⊆ further)
    (h : Cyclic index catalog accepted) : Cyclic index catalog further := by
  obtain ⟨unit, hc⟩ := h
  have hle : MustFollow index catalog accepted ≤ MustFollow index catalog further :=
    fun _ _ hf => hf.mono hsub
  exact ⟨unit, TransGen.mono hle unit unit hc⟩

theorem findSome?_problem?_of_subset {part accepted : List UnitName} (hsub : part ⊆ accepted)
    (h : accepted.findSome? (Hints.problem? index catalog) = none) :
    part.findSome? (Hints.problem? index catalog) = none := by
  rw [List.findSome?_eq_none_iff] at h ⊢
  exact fun unit hu => h unit (hsub hu)

/-- **Leaving out units never spoils an order.** -/
theorem exists_arrange_of_subset {part accepted order : List UnitName} (hsub : part ⊆ accepted)
    (h : arrange index catalog accepted = .ok order) :
    ∃ order, arrange index catalog part = .ok order := by
  obtain ⟨hread, hc, -⟩ := of_arrange_eq_ok h
  rcases arrange_cases index catalog part with ⟨problem, hp, -⟩ | ⟨-, hcyc, -⟩ |
    ⟨-, -, order, ho, -⟩
  · rw [findSome?_problem?_of_subset hsub hread] at hp
    exact nomatch hp
  · exact absurd (hcyc.mono hsub) hc
  · exact ⟨order, ho⟩

section Unrelated

variable {accepted : List UnitName}
  (h : ∀ unit ∈ accepted, ∃ order, Hints.read index catalog unit = .ok { order })
include h

/-- The hints of a unit that declares nothing but a precedence. -/
theorem hints_of_unrelated {unit : UnitName} (hu : unit ∈ accepted) :
    Hints.problem? index catalog unit = none ∧
      ∃ order, Hints.ofUnit index catalog unit = { order } := by
  obtain ⟨order, ho⟩ := h unit hu
  rw [Hints.read_eq] at ho
  cases hp : Hints.problem? index catalog unit with
  | some problem =>
    rw [hp] at ho
    exact nomatch ho
  | none =>
    rw [hp] at ho
    exact ⟨rfl, order, Except.ok.inj ho⟩

theorem problem?_of_unrelated : accepted.findSome? (Hints.problem? index catalog) = none :=
  List.findSome?_eq_none_iff.mpr fun _ hu => (hints_of_unrelated h hu).1

theorem not_mustFollow_of_unrelated (unit other : UnitName) :
    ¬MustFollow index catalog accepted unit other := by
  rintro ⟨hu, ho, ha | hb⟩
  · obtain ⟨-, order, hhints⟩ := hints_of_unrelated h hu
    have hafter : Hints.readUnits index catalog unit Definition.after Metadata.afterKey = [] :=
      congrArg Hints.after hhints
    rw [hafter] at ha
    exact absurd ha List.not_mem_nil
  · obtain ⟨-, order, hhints⟩ := hints_of_unrelated h ho
    have hbefore : Hints.readUnits index catalog other Definition.before Metadata.beforeKey = [] :=
      congrArg Hints.before hhints
    rw [hbefore] at hb
    exact absurd hb List.not_mem_nil

/-- Units that declare nothing but a precedence are always arranged. -/
theorem exists_arrange_of_unrelated : ∃ order, arrange index catalog accepted = .ok order := by
  rcases arrange_cases index catalog accepted with ⟨problem, hp, -⟩ | ⟨-, ⟨unit, hc⟩, -⟩ |
    ⟨-, -, order, ho, -⟩
  · rw [problem?_of_unrelated h] at hp
    exact nomatch hp
  · obtain ⟨next, hn, -⟩ := TransGen.head'_iff.mp hc
    exact absurd hn (not_mustFollow_of_unrelated h unit next)
  · exact ⟨order, ho⟩

/-- If no two of them are the same, they are arranged by their precedence alone. -/
theorem arrange_of_unrelated (distinct : accepted.Nodup) :
    arrange index catalog accepted = .ok (prioritized index catalog accepted) := by
  have hfree : ∀ unit ∈ prioritized index catalog accepted,
      (prerequisites index catalog accepted).of unit = [] := fun unit _ =>
    List.eq_nil_iff_forall_not_mem.mpr fun other ho =>
      not_mustFollow_of_unrelated h unit other (needs_iff_mustFollow.mp ho)
  have hnew : ∀ unit ∈ prioritized index catalog accepted, unit ∉ ({} : Walk).done :=
    fun _ _ => Std.ExtTreeSet.not_mem_empty
  obtain ⟨last, hlast, hemitted⟩ := Walk.visitAll_of_free hfree
    ((List.mergeSort_perm accepted _).nodup_iff.mpr distinct) hnew
  rw [arrange_of_readable (problem?_of_unrelated h), Walk.arrange, hlast]
  show Except.ok last.emitted.reverse = _
  rw [hemitted, List.append_nil, List.reverse_reverse]

end Unrelated

/-- **The order depends on the units sorted by precedence alone**, if all precedences
can be read. -/
theorem arrange_congr {first second : List UnitName}
    (hfirst : first.findSome? (Hints.problem? index catalog) = none)
    (hsecond : second.findSome? (Hints.problem? index catalog) = none)
    (h : prioritized index catalog first = prioritized index catalog second) :
    arrange index catalog first = arrange index catalog second := by
  have htable : prerequisites index catalog first = prerequisites index catalog second := by
    rw [prerequisites, prerequisites, h]
  rw [arrange_of_readable hfirst, arrange_of_readable hsecond, htable, h]

theorem pairwise_prioritized (accepted : List UnitName) :
    (prioritized index catalog accepted).Pairwise fun unit other =>
      (Hints.ofUnit index catalog unit).order ≤ (Hints.ofUnit index catalog other).order := by
  refine List.Pairwise.imp of_decide_eq_true (List.pairwise_mergeSort ?_ ?_ accepted)
  · intro a b c hab hbc
    exact decide_eq_true (Int32.le_trans (of_decide_eq_true hab) (of_decide_eq_true hbc))
  · intro a b
    simpa using Int32.le_total _ _

/-- **Units with precedences of their own** are sorted in one way only. -/
theorem prioritized_eq_of_perm {first second : List UnitName} (hperm : first.Perm second)
    (hdiff : ∀ unit ∈ first, ∀ other ∈ first, (Hints.ofUnit index catalog unit).order =
      (Hints.ofUnit index catalog other).order → unit = other) :
    prioritized index catalog first = prioritized index catalog second := by
  -- two sorted lists of the same units are the same, as no two units are of equal precedence
  have hsame : (prioritized index catalog first).Perm (prioritized index catalog second) :=
    (List.mergeSort_perm first _).trans (hperm.trans (List.mergeSort_perm second _).symm)
  refine hsame.eq_of_pairwise (fun unit other hu ho hle hge => ?_)
    (pairwise_prioritized first) (pairwise_prioritized second)
  rw [mem_prioritized] at hu ho
  exact hdiff unit hu other (hperm.mem_iff.mpr ho) (Int32.le_antisymm hle hge)

/-! ## The order -/

/-- **Accepted units are arranged topologically.**  If the precedences of all accepted
units can be read, then there is an order exactly if the relation has no cycle; the
order holds every accepted name once and nothing else, and every unit stands in it
after those that it must follow; and a cycle in the relation is reported as such. -/
theorem arrange_topological (index : Metadata) (catalog : Catalog) (accepted : List UnitName)
    (readable : ∀ unit ∈ accepted, ∃ order, Hints.readOrder index catalog unit = .ok order) :
    ((∃ order, arrange index catalog accepted = .ok order) ↔
      ¬∃ unit, TransGen (MustFollow index catalog accepted) unit unit) ∧
    (∀ order, arrange index catalog accepted = .ok order →
      order.Nodup ∧ (∀ unit, unit ∈ order ↔ unit ∈ accepted) ∧
        ∀ unit other, MustFollow index catalog accepted unit other →
          [other, unit].Sublist order) ∧
    ((∃ unit, TransGen (MustFollow index catalog accepted) unit unit) →
      ∃ cycle, arrange index catalog accepted = .error (.cycle cycle)) := by
  have hnone : accepted.findSome? (Hints.problem? index catalog) = none := by
    rw [List.findSome?_eq_none_iff]
    intro unit hu
    exact Hints.problem?_eq_none_iff.mpr (readable unit hu)
  refine ⟨⟨?_, ?_⟩, ?_, ?_⟩
  · rintro ⟨order, ho⟩
    exact (of_arrange_eq_ok ho).2.1
  · intro hc
    rcases arrange_cases index catalog accepted with ⟨problem, hp, -⟩ | ⟨-, hcyc, -⟩ |
      ⟨-, -, order, ho, -⟩
    · rw [hnone] at hp
      exact nomatch hp
    · exact absurd hcyc hc
    · exact ⟨order, ho⟩
  · intro order ho
    obtain ⟨-, -, ht⟩ := of_arrange_eq_ok ho
    exact ⟨ht.nodup, ht.mem_iff, ht.follows⟩
  · intro hc
    rcases arrange_cases index catalog accepted with ⟨problem, hp, -⟩ | ⟨-, -, hcycle⟩ |
      ⟨-, hnc, -⟩
    · rw [hnone] at hp
      exact nomatch hp
    · exact hcycle
    · exact absurd hc hnc

/-- What is declared of three units that go round in a circle, in the index. -/
def circleIndex : Metadata :=
  .ofPairs [("app.AutoConfigureAfter", "cache, db"), ("app.AutoConfigureOrder", " -5")]

/-- What is declared of three units that go round in a circle, in the catalog. -/
def circleCatalog : Catalog :=
  .ofDefinitions [{ name := "app", before := ["cache"] },
    { name := "cache", order := some 3, before := ["db"] }]

/-- The application must follow the database by the index, the database the cache and
the cache the application by the catalog. -/
theorem arrange_topological_circle :
    (∀ unit ∈ ["app", "cache", "db"],
      ∃ order, Hints.readOrder circleIndex circleCatalog unit = .ok order) ∧
    ∃ cycle, arrange circleIndex circleCatalog ["app", "cache", "db"] =
      .error (.cycle cycle) := by
  have readable : ∀ unit ∈ ["app", "cache", "db"],
      ∃ order, Hints.readOrder circleIndex circleCatalog unit = .ok order := by
    simp only [List.forall_mem_cons]
    exact ⟨⟨-5, by decide⟩, ⟨3, by decide⟩, ⟨0, by decide⟩, List.forall_mem_nil _⟩
  refine ⟨readable, (arrange_topological circleIndex circleCatalog _ readable).2.2 ⟨"app", ?_⟩⟩
  have hdb : MustFollow circleIndex circleCatalog ["app", "cache", "db"] "app" "db" :=
    ⟨by decide, by decide, Or.inl (by decide)⟩
  have hcache : MustFollow circleIndex circleCatalog ["app", "cache", "db"] "db" "cache" :=
    ⟨by decide, by decide, Or.inr (by decide)⟩
  have happ : MustFollow circleIndex circleCatalog ["app", "cache", "db"] "cache" "app" :=
    ⟨by decide, by decide, Or.inr (by decide)⟩
  exact ((TransGen.single hdb).tail hcache).tail happ

end Order
end Activation
