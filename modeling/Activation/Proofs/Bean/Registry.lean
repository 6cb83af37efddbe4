import Activation.Bean.Registry
import Mathlib.Data.List.Nodup

/-!
# What a name means in nested scopes

A name can be defined in several of the scopes that a look-up goes through.  The
two ways of looking differ there.  A listing takes a bean of any scope for what it
is (`Registry.mem_names`), and only suppresses names that it has listed already
(`Registry.nodup_names`).  Where one bean must be chosen, it is the one in the first
scope that defines the name (`Registry.nearest?_eq_some_iff`), whatever the scopes
further out say.
-/

namespace Activation

namespace Scope

variable {scope : Scope} {p : Bean → Bool} {name : BeanName} {bean : Bean}

theorem mem_names :
    name ∈ scope.names p ↔ ∃ bean ∈ scope.beans, bean.name = name ∧ p bean = true := by
  rw [names, List.mem_map]
  constructor
  · rintro ⟨bean, hb, rfl⟩
    exact ⟨bean, (List.mem_filter.mp hb).1, rfl, (List.mem_filter.mp hb).2⟩
  · rintro ⟨bean, hb, rfl, hp⟩
    exact ⟨bean, List.mem_filter.mpr ⟨hb, hp⟩, rfl⟩

theorem nodup_names : (scope.names p).Nodup :=
  scope.distinct.sublist (List.filter_sublist.map Bean.name)

theorem contains_iff : scope.contains name = true ↔ ∃ bean ∈ scope.beans, bean.name = name := by
  simp only [contains, List.any_eq_true, beq_iff_eq]

/-- The bean of a name is found, since there is no other of the name. -/
theorem bean?_eq_some_iff :
    scope.bean? name = some bean ↔ bean ∈ scope.beans ∧ bean.name = name := by
  have hfound : ∀ found, scope.bean? name = some found →
      found ∈ scope.beans ∧ found.name = name := by
    intro found h
    rw [bean?] at h
    exact ⟨List.mem_of_find?_eq_some h, by simpa using List.find?_some h⟩
  constructor
  · exact hfound bean
  · rintro ⟨hb, hname⟩
    obtain ⟨found, h⟩ : ∃ found, scope.bean? name = some found :=
      Option.isSome_iff_exists.mp (List.find?_isSome.mpr ⟨bean, hb, beq_iff_eq.mpr hname⟩)
    obtain ⟨hm, hfoundname⟩ := hfound found h
    rw [h, List.inj_on_of_nodup_map scope.distinct hm hb (hfoundname.trans hname.symm)]

theorem bean?_eq_none_iff : scope.bean? name = none ↔ ∀ bean ∈ scope.beans, bean.name ≠ name := by
  simp only [bean?, List.find?_eq_none, beq_iff_eq, ne_eq]

end Scope

namespace Registry

variable {scopes : List Scope} {p : Bean → Bool} {name : BeanName} {bean : Bean}

/-- In some of the scopes there is a bean of a name that has a property. -/
def Bears (scopes : List Scope) (p : Bean → Prop) (name : BeanName) : Prop :=
  ∃ scope ∈ scopes, ∃ bean ∈ scope.beans, bean.name = name ∧ p bean

/-- A name means a bean: it is the one of that name in the first scope that has one. -/
def Means (scopes : List Scope) (name : BeanName) (bean : Bean) : Prop :=
  ∃ inner scope outer, scopes = inner ++ scope :: outer ∧
    (∀ other ∈ inner, ∀ hidden ∈ other.beans, hidden.name ≠ name) ∧
    bean ∈ scope.beans ∧ bean.name = name

/-- A name means a bean that is marked as primary. -/
def Primary (scopes : List Scope) (name : BeanName) : Prop :=
  ∃ bean, Means scopes name bean ∧ bean.primary = true

/-- **A listing over several scopes** takes the beans of every scope for what they are. -/
theorem mem_names : name ∈ names p scopes ↔ Bears scopes (fun bean => p bean = true) name := by
  induction scopes with
  | nil => simp [names, Bears]
  | cons scope outer ih =>
    have hcons : Bears (scope :: outer) (fun bean => p bean = true) name ↔
        name ∈ scope.names p ∨ name ∈ names p outer := by
      rw [ih, Scope.mem_names, Bears, List.exists_mem_cons_iff]
      rfl
    rw [hcons, names, List.mem_append, List.mem_filter, Bool.not_eq_true', ← Bool.not_eq_true,
      List.contains_iff_mem]
    -- A name of the outer scopes that is left out is there already.
    tauto

/-- No name is listed twice. -/
theorem nodup_names : (names p scopes).Nodup := by
  induction scopes with
  | nil => exact List.nodup_nil
  | cons scope outer ih =>
    rw [names, List.nodup_append]
    refine ⟨Scope.nodup_names, ih.filter _, ?_⟩
    rintro name hown other hother rfl
    have hnew := (List.mem_filter.mp hother).2
    rw [Bool.not_eq_true', ← Bool.not_eq_true, List.contains_iff_mem] at hnew
    exact hnew hown

theorem defines_iff : defines scopes name = true ↔ Bears scopes (fun _ => True) name := by
  simp only [defines, Bears, List.any_eq_true, Scope.contains_iff, and_true]

/-- **The nearest bean of a name** is the one that the name means. -/
theorem nearest?_eq_some_iff : nearest? scopes name = some bean ↔ Means scopes name bean := by
  simp only [nearest?, Means, List.findSome?_eq_some_iff, Scope.bean?_eq_some_iff,
    Scope.bean?_eq_none_iff]
  constructor
  · rintro ⟨inner, scope, outer, hs, hb, hinner⟩
    exact ⟨inner, scope, outer, hs, hinner, hb⟩
  · rintro ⟨inner, scope, outer, hs, hinner, hb⟩
    exact ⟨inner, scope, outer, hs, hb, hinner⟩

theorem any_nearest?_iff :
    (nearest? scopes name).any Bean.primary = true ↔ Primary scopes name := by
  simp only [Option.any_eq_true, Primary, nearest?_eq_some_iff]

/-- The scopes of a look-up that includes the ancestors only if all scopes are searched are the
searched ones, unless only the ancestors are. -/
theorem scopes_beq_all (registry : Registry) (search : Search) :
    registry.scopes (search == .all) =
      if search = .ancestors then [registry.current] else registry.searched search := by
  cases search <;> rfl

end Registry
end Activation
