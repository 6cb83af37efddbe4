import Activation.Proofs.Order.Arrangement

/-!
# What the order owes to precedence

Accepted units are sorted by precedence first, and then the walk pulls units forward.
Here it is shown how far that may disturb the sorted order.

* `Order.Precedes`: one unit takes precedence over another, by its number or, where the
  numbers are the same, by its place among the accepted units.
* `Order.precedes_iff`: this is what sorting by precedence makes of the accepted units.
* `Order.arrange_pulls_needed`: a unit overtakes another one only if it is needed by that
  one or by a unit that takes precedence over that one.

The walk starts anew from each unit in the sorted order.  When it has walked from a unit,
it has emitted that unit, and nothing but what this unit and earlier ones need.  So
whatever stands before the unit in the end is needed by one of them.
-/

namespace Activation

open Relation

namespace Order

variable {index : Metadata} {catalog : Catalog}

/-! ## Precedence -/

/-- **One accepted unit takes precedence over another**: the number of its precedence is
lower, or it is the same and the unit stands before the other among the accepted ones. -/
def Precedes (index : Metadata) (catalog : Catalog) (accepted : List UnitName)
    (unit other : UnitName) : Prop :=
  unit ∈ accepted ∧ other ∈ accepted ∧
    ((Hints.ofUnit index catalog unit).order < (Hints.ofUnit index catalog other).order ∨
      (Hints.ofUnit index catalog unit).order = (Hints.ofUnit index catalog other).order ∧
        [unit, other].Sublist accepted)

theorem nodup_prioritized {accepted : List UnitName} (distinct : accepted.Nodup) :
    (prioritized index catalog accepted).Nodup :=
  (List.mergeSort_perm accepted _).nodup_iff.mpr distinct

theorem le_of_pair_sublist_prioritized {accepted : List UnitName} {unit other : UnitName}
    (h : [unit, other].Sublist (prioritized index catalog accepted)) :
    (Hints.ofUnit index catalog unit).order ≤ (Hints.ofUnit index catalog other).order :=
  List.pairwise_iff_forall_sublist.mp (pairwise_prioritized accepted) h

/-- Two units that stand in the order of their precedence are kept so. -/
theorem pair_sublist_prioritized {accepted : List UnitName} {unit other : UnitName}
    (hle : (Hints.ofUnit index catalog unit).order ≤ (Hints.ofUnit index catalog other).order)
    (h : [unit, other].Sublist accepted) :
    [unit, other].Sublist (prioritized index catalog accepted) := by
  refine List.pair_sublist_mergeSort ?_ ?_ (decide_eq_true hle) h
  · intro a b c hab hbc
    exact decide_eq_true (Int32.le_trans (of_decide_eq_true hab) (of_decide_eq_true hbc))
  · intro a b
    simpa using Int32.le_total _ _

/-- **Sorting by precedence** puts one unit before another exactly if it takes precedence
over it. -/
theorem precedes_iff {accepted : List UnitName} (distinct : accepted.Nodup)
    {unit other : UnitName} :
    Precedes index catalog accepted unit other ↔
      [unit, other].Sublist (prioritized index catalog accepted) := by
  constructor
  · rintro ⟨hu, ho, hlt | ⟨heq, hsub⟩⟩
    · have hne : unit ≠ other := by
        rintro rfl
        exact Int32.lt_irrefl hlt
      rcases Repetition.pair_sublist_or (mem_prioritized.mpr hu) (mem_prioritized.mpr ho) hne
        with h | h
      · exact h
      · exact absurd (le_of_pair_sublist_prioritized h) (Int32.not_le.mpr hlt)
    · exact pair_sublist_prioritized (Int32.le_of_eq heq) hsub
  · intro h
    have hnodup : (prioritized index catalog accepted).Nodup := nodup_prioritized distinct
    have hu : unit ∈ accepted := mem_prioritized.mp (h.subset (by simp))
    have ho : other ∈ accepted := mem_prioritized.mp (h.subset (by simp))
    have hne : unit ≠ other := by
      rintro rfl
      exact List.nodup_iff_sublist.mp hnodup unit h
    refine ⟨hu, ho, ?_⟩
    rcases Int32.le_iff_lt_or_eq.mp (le_of_pair_sublist_prioritized h) with hlt | heq
    · exact Or.inl hlt
    · rcases Repetition.pair_sublist_or hu ho hne with hsub | hsub
      · exact Or.inr ⟨heq, hsub⟩
      · -- units of the same precedence would have been kept the other way round
        have hback := pair_sublist_prioritized (Int32.le_of_eq heq.symm) hsub
        exact absurd hback (Repetition.not_pair_sublist hnodup h)

theorem not_precedes_self {accepted : List UnitName} (distinct : accepted.Nodup)
    (unit : UnitName) : ¬Precedes index catalog accepted unit unit := by
  rw [precedes_iff distinct]
  exact List.nodup_iff_sublist.mp (nodup_prioritized distinct) unit

theorem Precedes.asymm {accepted : List UnitName} (distinct : accepted.Nodup)
    {unit other : UnitName} (h : Precedes index catalog accepted unit other) :
    ¬Precedes index catalog accepted other unit := by
  rw [precedes_iff distinct] at h ⊢
  exact Repetition.not_pair_sublist (nodup_prioritized distinct) h

/-! ## Overtaking -/

/-- The units up to a given one in the sorted order are that unit and those that take
precedence over it. -/
theorem eq_or_precedes_of_mem {accepted earlier later : List UnitName}
    (distinct : accepted.Nodup) {unit root : UnitName}
    (hsplit : prioritized index catalog accepted = earlier ++ unit :: later)
    (hroot : root ∈ earlier ++ [unit]) :
    root = unit ∨ Precedes index catalog accepted root unit := by
  rcases List.mem_append.mp hroot with he | hu
  · right
    rw [precedes_iff distinct, hsplit]
    exact (List.singleton_sublist.mpr he).append (List.singleton_sublist.mpr List.mem_cons_self)
  · exact Or.inl (List.mem_singleton.mp hu)

/-- **Precedence is overridden only for a reason.**  If one unit takes precedence over
another, and yet stands after it in the order, then the other one is needed, directly or
through others, by the first unit or by a unit that takes precedence over the first. -/
theorem arrange_pulls_needed (index : Metadata) (catalog : Catalog)
    {accepted order : List UnitName} {unit other : UnitName} (distinct : accepted.Nodup)
    (arranged : arrange index catalog accepted = .ok order)
    (precedes : Precedes index catalog accepted unit other)
    (overtaken : [other, unit].Sublist order) :
    ∃ needing, (needing = unit ∨ Precedes index catalog accepted needing unit) ∧
      TransGen (MustFollow index catalog accepted) needing other := by
  obtain ⟨readable, -, -⟩ := of_arrange_eq_ok arranged
  rcases arrange_walks readable with ⟨clash, -, he⟩ | ⟨last, hlast, -, he⟩
  · rw [arranged] at he
    exact nomatch he
  · rw [arranged] at he
    obtain rfl : order = last.emitted.reverse := Except.ok.inj he
    obtain ⟨earlier, later, hsplit⟩ := List.append_of_mem
      (mem_prioritized.mpr precedes.1 : unit ∈ prioritized index catalog accepted)
    rw [hsplit] at hlast
    have hbefore : [unit, other].Sublist last.emitted := List.reverse_sublist.mp overtaken
    obtain ⟨needing, hroot, hneeds⟩ := Walk.exists_root_of_emitted_before hlast hbefore
    have hle := eq_or_precedes_of_mem distinct hsplit hroot
    refine ⟨needing, hle, ?_⟩
    rw [needs_eq_mustFollow] at hneeds
    rcases reflTransGen_iff_eq_or_transGen.mp hneeds with rfl | hneeds
    · -- the unit that was overtaken takes precedence, so the other is not the root
      exfalso
      rcases hle with rfl | hle
      · exact not_precedes_self distinct _ precedes
      · exact precedes.asymm distinct hle
    · exact hneeds

/-- What two units of a shop declare of their order in the index. -/
def shopIndex : Metadata :=
  .ofPairs [("web.AutoConfigureOrder", " 5"), ("app.AutoConfigureAfter", "cache, db")]

/-- What one unit of the shop declares of its order in the catalog. -/
def shopCatalog : Catalog :=
  .ofDefinitions [{ name := "db", order := some 9 }]

/-- The prerequisites that these declarations make. -/
def shopTable : Prerequisites :=
  .ofList [("app", ["db"]), ("web", []), ("db", [])]

theorem order_shop : (Hints.ofUnit shopIndex shopCatalog "web").order = 5 ∧
    (Hints.ofUnit shopIndex shopCatalog "app").order = 0 ∧
    (Hints.ofUnit shopIndex shopCatalog "db").order = 9 := by
  decide

theorem prioritized_shop :
    prioritized shopIndex shopCatalog ["web", "app", "db"] = ["app", "web", "db"] := by
  obtain ⟨hweb, happ, hdb⟩ := order_shop
  simp [prioritized, List.mergeSort, List.MergeSort.Internal.splitInTwo, hweb, happ, hdb]

theorem prerequisites_shop :
    prerequisites shopIndex shopCatalog ["web", "app", "db"] = shopTable := by
  rw [prerequisites, prioritized_shop]
  decide

theorem arrange_shop :
    arrange shopIndex shopCatalog ["web", "app", "db"] = .ok ["db", "app", "web"] := by
  have hwalk : Walk.arrange shopTable ["app", "web", "db"] = .ok ["db", "app", "web"] := by
    cbv
  rw [arrange_of_readable (by decide), prerequisites_shop, prioritized_shop, hwalk]
  rfl

/-- The database stands last by precedence and comes first, since the application, which
takes precedence over the web server, needs it. -/
theorem arrange_pulls_needed_shop :
    ["web", "app", "db"].Nodup ∧
    arrange shopIndex shopCatalog ["web", "app", "db"] = .ok ["db", "app", "web"] ∧
    Precedes shopIndex shopCatalog ["web", "app", "db"] "web" "db" ∧
    ["db", "web"].Sublist ["db", "app", "web"] ∧
    ∃ needing, (needing = "web" ∨
        Precedes shopIndex shopCatalog ["web", "app", "db"] needing "web") ∧
      TransGen (MustFollow shopIndex shopCatalog ["web", "app", "db"]) needing "db" := by
  have distinct : ["web", "app", "db"].Nodup := by decide
  have hlt : (Hints.ofUnit shopIndex shopCatalog "web").order <
      (Hints.ofUnit shopIndex shopCatalog "db").order := by
    rw [order_shop.1, order_shop.2.2]
    decide
  have precedes : Precedes shopIndex shopCatalog ["web", "app", "db"] "web" "db" :=
    ⟨by decide, by decide, Or.inl hlt⟩
  have overtaken : ["db", "web"].Sublist ["db", "app", "web"] := by decide
  exact ⟨distinct, arrange_shop, precedes, overtaken,
    arrange_pulls_needed shopIndex shopCatalog distinct arrange_shop precedes overtaken⟩

end Order
end Activation
