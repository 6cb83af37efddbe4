import Activation.Environment
import Activation.Proofs.Tables

/-!
# What is hidden could as well not be there

Keys of the sources of a name can be hidden for the time of an operation, and then they are
looked up in the sources of other names only (`Environment.get?_withHidden`).  It does not
matter in which order keys are hidden in several sources (`Environment.withHidden_comm`).

Another way to have a key not seen is to take it out of the source.  A source made from pairs
without the key is the source made from all of them, with the key taken out
(`PropertySource.forget_ofPairs`), and for the variables of a process that means to leave out
the variables that are bound to it (`PropertySource.forget_ofVariables`).  No look-up tells
hidden keys from keys that are not there (`Environment.get?_without`).
-/

namespace Activation

/-! ## Sources -/

namespace PropertySource

/-- A source that never had some keys. -/
def forget (source : PropertySource) (keys : List String) : PropertySource :=
  { source with properties := source.properties.filter fun key _ => !keys.contains key }

/-- Whether a variable of the process is bound to one of some keys. -/
def bindsTo (keys : List String) (v : String × String) : Bool :=
  variableStart.toList.isPrefixOf v.1.toList && keys.contains (boundKey v.1)

theorem hide_hide (source : PropertySource) (keys keys' : List String) :
    (source.hide keys).hide keys' = source.hide (keys ++ keys') :=
  congrArg (fun hidden => { source with hidden }) Std.ExtTreeSet.insertMany_append.symm

theorem hide_comm (source : PropertySource) (keys keys' : List String) :
    (source.hide keys).hide keys' = (source.hide keys').hide keys := by
  refine congrArg (fun hidden => { source with hidden }) (Std.ExtTreeSet.ext_contains fun key => ?_)
  simp only [hide, Std.ExtTreeSet.contains_insertMany_list, Bool.or_right_comm]

theorem get?_hide (source : PropertySource) (keys : List String) (key : String) :
    (source.hide keys).get? key = if key ∈ keys then none else source.get? key := by
  rw [get?, hide, Std.ExtTreeSet.contains_insertMany_list, get?]
  by_cases hkey : key ∈ keys
  · rw [List.contains_iff_mem.mpr hkey, Bool.or_true, if_pos rfl, if_pos hkey]
  · rw [Bool.eq_false_iff.mpr (mt List.contains_iff_mem.mp hkey), Bool.or_false, if_neg hkey]

theorem get?_forget (source : PropertySource) (keys : List String) (key : String) :
    (source.forget keys).get? key = if key ∈ keys then none else source.get? key := by
  rw [get?, forget, Tables.getElem?_filter_name, get?]
  by_cases hkey : key ∈ keys
  · rw [List.contains_iff_mem.mpr hkey, Bool.not_true, if_neg Bool.false_ne_true, if_pos hkey,
      ite_self]
  · rw [Bool.eq_false_iff.mpr (mt List.contains_iff_mem.mp hkey), Bool.not_false, if_pos rfl,
      if_neg hkey]

/-- **To forget keys** of a source made from pairs is to make it without the pairs for them. -/
theorem forget_ofPairs (name : String) (pairs : List (String × String)) (keys : List String) :
    (ofPairs name pairs).forget keys =
      ofPairs name (pairs.filter fun pair => !keys.contains pair.1) :=
  congrArg (fun properties => ({ name, properties } : PropertySource))
    (Tables.filter_ofList pairs fun key => !keys.contains key)

/-- **To forget keys** of the variables of a process is to leave out the variables that are
bound to them. -/
theorem forget_ofVariables (process : List (String × String)) (keys : List String) :
    (ofVariables process).forget keys =
      ofVariables (process.filter fun v => !bindsTo keys v) := by
  rw [ofVariables, forget_ofPairs, ofVariables, List.filter_map, List.filter_filter,
    List.filter_filter]
  congr 2
  refine List.filter_congr fun v _ => ?_
  rw [bindsTo, Function.comp_apply]
  cases variableStart.toList.isPrefixOf v.1.toList with
  | true => rw [Bool.true_and, Bool.and_true, Bool.true_and]
  | false => rw [Bool.and_false, Bool.false_and]

end PropertySource

/-! ## Environments -/

namespace Environment

variable (env : Environment) (name : String) (keys : List String)

/-- An environment in which the sources of a name never had some keys. -/
def without : Environment :=
  ⟨env.sources.map fun source => if source.name = name then source.forget keys else source⟩

/-- The value of a key in the sources that do not have a name. -/
def getElsewhere? (key : String) : Option String :=
  (env.sources.filter fun source => source.name ≠ name).findSome? (·.get? key)

/-- **A hidden key** is looked up in the sources of other names, and all other keys are looked
up as ever. -/
theorem get?_withHidden (key : String) :
    (env.withHidden name keys).get? key =
      if key ∈ keys then env.getElsewhere? name key else env.get? key := by
  rw [withHidden, get?, getElsewhere?, get?]
  induction env.sources with
  | nil => rw [List.map_nil, List.filter_nil, ite_self]
  | cons source sources ih =>
    rw [List.map_cons, List.findSome?_cons, ih, List.findSome?_cons]
    by_cases hname : source.name = name
    · -- the source has the name, and does not show the key if it is hidden
      rw [if_pos hname, PropertySource.get?_hide, List.filter_cons_of_neg (by simpa using hname)]
      by_cases hkey : key ∈ keys
      · rw [if_pos hkey, if_pos hkey, if_pos hkey]
      · rw [if_neg hkey, if_neg hkey, if_neg hkey]
    · rw [if_neg hname, List.filter_cons_of_pos (by simpa using hname), List.findSome?_cons]
      by_cases hkey : key ∈ keys
      · rw [if_pos hkey, if_pos hkey]
      · rw [if_neg hkey, if_neg hkey]

/-- **Keys that are not there** and keys that are hidden cannot be told apart. -/
theorem get?_without (key : String) :
    (env.without name keys).get? key = (env.withHidden name keys).get? key := by
  rw [without, withHidden, get?, get?, List.findSome?_map, List.findSome?_map]
  congr 1
  funext source
  rw [Function.comp_apply, Function.comp_apply]
  split
  · rw [PropertySource.get?_forget, PropertySource.get?_hide]
  · rfl

/-- Keys of one name that are hidden after others are hidden with them. -/
theorem withHidden_withHidden (keys' : List String) :
    (env.withHidden name keys).withHidden name keys' = env.withHidden name (keys ++ keys') := by
  simp only [withHidden, List.map_map]
  congr 2
  funext source
  have hname (keys : List String) : (source.hide keys).name = source.name := rfl
  simp only [Function.comp_apply, apply_ite PropertySource.name, hname, ite_self]
  split
  · rw [PropertySource.hide_hide]
  · rfl

/-- **Nested filters** give one view in either order. -/
theorem withHidden_comm (name' : String) (keys' : List String) :
    (env.withHidden name keys).withHidden name' keys' =
      (env.withHidden name' keys').withHidden name keys := by
  simp only [withHidden, List.map_map]
  congr 2
  funext source
  have hname (keys : List String) : (source.hide keys).name = source.name := rfl
  simp only [Function.comp_apply, apply_ite PropertySource.name, hname, ite_self]
  split
  · split
    · rw [PropertySource.hide_comm]
    · rfl
  · rfl

end Environment
end Activation
