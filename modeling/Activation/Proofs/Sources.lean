import Activation.Capabilities
import Activation.Metadata
import Activation.Proofs.PropertyText.Joining
import Mathlib.Data.List.Nodup
import Mathlib.Data.List.Perm.Basic

/-!
# Several sources are one text

The metadata index and the capabilities are read from several property texts, one after the
other.  They could as well be read from one text in which these stand behind one another, with
a line feed in between.  The two merge in opposite ways: in the index a later entry takes the
place of an earlier one, while capabilities keep what they have and add to it.

What a list of offers gives for a capability is a list of names or nothing at all
(`Capabilities.gathered`), and both kinds of merging add that, whatever the order is in which
the capabilities of the one side are gone through.

* `PropertyText.readEntries_intercalate`: the entries of texts behind one another.
* `Capabilities.offers_addAll`: what is there after many offers.
* `Capabilities.addAll_eq_merge`: capabilities may be merged in any order of their names.
* `Capabilities.reaches_iff`: what is reached by any calls, in any such orders.
* `Sources.merged_eq_joined`: merged sources are the joined text.
-/

namespace Activation

/-! ## Texts behind one another -/

namespace PropertyText

/-- **A text can be continued** in the next line if it does not end in a carriage return, which
would belong to the line end, and leaves no line open. -/
def Closed (text : String) : Prop :=
  text.toList.getLast? ≠ some '\r' ∧ openedBy text.toList = none

/-- **The entries of texts behind one another** are those of each. -/
theorem readEntries_intercalate {texts : List String} (h : ∀ text ∈ texts, Closed text) :
    readEntries ("\n".intercalate texts) = texts.flatMap readEntries := by
  induction texts with
  | nil => rfl
  | cons text texts ih =>
    obtain ⟨⟨hreturn, hopened⟩, hrest⟩ := List.forall_mem_cons.mp h
    cases texts with
    | nil => rw [String.intercalate_singleton, List.flatMap_singleton]
    | cons next texts =>
      have hlist : ("\n".intercalate (text :: next :: texts)).toList =
          text.toList ++ '\n' :: ("\n".intercalate (next :: texts)).toList := by
        rw [String.intercalate_cons_cons, String.append_assoc, String.toList_append,
          String.toList_append]
        rfl
      rw [readEntries_eq, hlist, entriesFrom_lines_append_newline hreturn hopened,
        ← readEntries_eq, ← readEntries_eq, ih hrest, ← List.flatMap_cons]

end PropertyText

/-! ## The metadata index -/

namespace Metadata

theorem extend_append (index : Metadata) (first second : List (String × String)) :
    index.extend (first ++ second) = (index.extend first).extend second :=
  congrArg Metadata.mk Std.ExtTreeMap.insertMany_append

/-- An index from several texts has the entries of all of them, one after the other. -/
theorem ofTexts_eq (texts : List String) :
    ofTexts texts = ofPairs (texts.flatMap PropertyText.readEntries) := by
  suffices h : ∀ index : Metadata,
      texts.foldl (fun index text => index.extend (PropertyText.readEntries text)) index =
        index.extend (texts.flatMap PropertyText.readEntries) from h {}
  induction texts with
  | nil => exact fun index => rfl
  | cons text texts ih =>
    intro index
    rw [List.foldl_cons, ih, List.flatMap_cons, extend_append]

end Metadata

/-! ## What offers give for a capability -/

namespace Capabilities

/-- **What a list of offers gives for a capability**: the names in all offers under it, or
nothing if there is no such offer. -/
def gathered : List (String × List UnitName) → String → Option (List UnitName)
  | [], _ => none
  | (name, units) :: offers, capability =>
    (if name = capability then some units else none).merge (· ++ ·) (gathered offers capability)

/-- Capabilities with many more offers. -/
def addAll (caps : Capabilities) (offers : List (String × List UnitName)) : Capabilities :=
  offers.foldl (fun caps offer => caps.add offer.1 offer.2) caps

theorem eq_of_getElem? {caps others : Capabilities}
    (h : ∀ capability : String, caps.offers[capability]? = others.offers[capability]?) :
    caps = others := by
  cases caps
  cases others
  exact congrArg Capabilities.mk (Std.ExtTreeMap.ext_getElem? h)

/-- After an offer, its names stand behind those that were there. -/
theorem offers_add (caps : Capabilities) (name : String) (units : List UnitName)
    (capability : String) :
    (caps.add name units).offers[capability]? = caps.offers[capability]?.merge (· ++ ·)
      (if name = capability then some units else none) := by
  rw [add, Std.ExtTreeMap.getElem?_insert]
  by_cases h : name = capability
  · subst h
    rw [if_pos Std.ReflCmp.compare_self, if_pos rfl, candidates]
    cases caps.offers[name]? <;> rfl
  · rw [if_neg (mt Std.LawfulEqCmp.compare_eq_iff_eq.mp h), if_neg h, Option.merge_none_right]

/-- **After many offers**, what these give stands behind what was there. -/
theorem offers_addAll (caps : Capabilities) (offers : List (String × List UnitName))
    (capability : String) :
    (caps.addAll offers).offers[capability]? =
      caps.offers[capability]?.merge (· ++ ·) (gathered offers capability) := by
  induction offers generalizing caps with
  | nil => rw [gathered, Option.merge_none_right]; rfl
  | cons offer offers ih =>
    rw [addAll, List.foldl_cons, ← addAll, ih, offers_add, gathered]
    exact (Option.associative_merge fun (xs ys : List UnitName) => xs ++ ys).assoc _ _ _

/-- Of offers under different names, each gives the names in it and no others, wherever it
stands. -/
theorem gathered_eq_some_iff {offers : List (String × List UnitName)}
    (h : (offers.map Prod.fst).Nodup) {capability : String} {units : List UnitName} :
    gathered offers capability = some units ↔ (capability, units) ∈ offers := by
  induction offers generalizing units with
  | nil => simp [gathered]
  | cons offer offers ih =>
    obtain ⟨name, others⟩ := offer
    rw [List.map_cons, List.nodup_cons] at h
    rw [gathered, List.mem_cons, Prod.mk.injEq]
    by_cases hname : name = capability
    · subst hname
      have hno (units : List UnitName) : (name, units) ∉ offers := fun hm =>
        h.1 (List.mem_map.mpr ⟨(name, units), hm, rfl⟩)
      have hnone : gathered offers name = none :=
        Option.eq_none_iff_forall_ne_some.mpr fun units hs =>
          hno units ((ih h.2).mp hs)
      rw [if_pos rfl, hnone, Option.merge_none_right, Option.some.injEq]
      simp [hno, eq_comm]
    · have hname' : ¬capability = name := fun he => hname he.symm
      rw [if_neg hname, Option.merge_none_left, ih h.2]
      simp [hname']

/-- The offers of capabilities, in any order, give what the capabilities show. -/
theorem gathered_of_perm {caps : Capabilities} {order : List (String × List UnitName)}
    (h : order.Perm caps.offers.toList) (capability : String) :
    gathered order capability = caps.offers[capability]? := by
  have hnodup : (order.map Prod.fst).Nodup := by
    rw [(h.map Prod.fst).nodup_iff, Std.ExtTreeMap.map_fst_toList_eq_keys]
    exact Std.ExtTreeMap.nodup_keys
  refine Option.ext fun units => ?_
  rw [gathered_eq_some_iff hnodup, h.mem_iff, Std.ExtTreeMap.mem_toList_iff_getElem?_eq_some]

/-! ## Merging -/

/-- After a merge, what the others show stands behind what was there. -/
theorem offers_merge (caps others : Capabilities) (capability : String) :
    (caps.merge others).offers[capability]? =
      caps.offers[capability]?.merge (· ++ ·) others.offers[capability]? := by
  rw [← gathered_of_perm (.refl others.offers.toList) capability]
  exact offers_addAll caps others.offers.toList capability

/-- **The order in which the names are gone through** is no matter in a merge. -/
theorem addAll_eq_merge (caps : Capabilities) {others : Capabilities}
    {order : List (String × List UnitName)} (h : order.Perm others.offers.toList) :
    caps.addAll order = caps.merge others :=
  eq_of_getElem? fun capability => by
    rw [offers_addAll, gathered_of_perm h, offers_merge]

/-- The offers in a property text, in order and with repetitions. -/
def offersIn (text : String) : List (String × List UnitName) :=
  (PropertyText.readEntries text).map fun entry => (Text.trim entry.1, Text.items entry.2)

theorem ofText_eq (text : String) : ofText text = addAll {} (offersIn text) := by
  rw [ofText, addAll, offersIn, List.foldl_map]

/-- To merge with the capabilities in a text is to add the offers in it, one by one. -/
theorem merge_ofText (caps : Capabilities) (text : String) :
    caps.merge (ofText text) = caps.addAll (offersIn text) :=
  eq_of_getElem? fun capability => by
    rw [offers_merge, ofText_eq, offers_addAll, offers_addAll, Std.ExtTreeMap.getElem?_empty,
      Option.merge_none_left]

/-- Capabilities from several texts have the offers in all of them, one after the other. -/
theorem ofTexts_eq_addAll (texts : List String) :
    ofTexts texts = addAll {} (texts.flatMap offersIn) := by
  suffices h : ∀ caps : Capabilities,
      texts.foldl (fun caps text => caps.merge (ofText text)) caps =
        caps.addAll (texts.flatMap offersIn) from h {}
  induction texts with
  | nil => exact fun caps => rfl
  | cons text texts ih =>
    intro caps
    rw [List.foldl_cons, ih, List.flatMap_cons, merge_ofText, addAll, addAll, addAll,
      List.foldl_append]

/-! ## Many calls -/

/-- A call that gives more candidates to capabilities. -/
inductive Call where
  /-- More candidates under one capability. -/
  | add (capability : String) (units : List UnitName)
  /-- Everything that others offer. -/
  | merge (others : Capabilities)

/-- The capabilities after a call. -/
def Call.perform (caps : Capabilities) : Call → Capabilities
  | .add capability units => caps.add capability units
  | .merge others => caps.merge others

/-- The names that a call gives for a capability. -/
def Call.given (capability : String) : Call → List UnitName
  | .add name units => if name = capability then units else []
  | .merge others => others.candidates capability

/-- **What a call may lead to**: a merge goes through the offers of the others in any order. -/
inductive Call.Leads : Capabilities → Call → Capabilities → Prop
  | add (caps : Capabilities) (capability : String) (units : List UnitName) :
    Leads caps (.add capability units) (caps.add capability units)
  | merge (caps others : Capabilities) (order : List (String × List UnitName))
    (h : order.Perm others.offers.toList) : Leads caps (.merge others) (caps.addAll order)

/-- **What calls may lead to**, one after the other. -/
inductive Reaches : Capabilities → List Call → Capabilities → Prop
  | nil (caps : Capabilities) : Reaches caps [] caps
  | cons {caps next last : Capabilities} {call : Call} {calls : List Call}
    (hfirst : Call.Leads caps call next) (hrest : Reaches next calls last) :
    Reaches caps (call :: calls) last

/-- A call leads to the capabilities that it is to give, and to no others. -/
theorem Call.leads_iff {caps next : Capabilities} {call : Call} :
    Call.Leads caps call next ↔ next = Call.perform caps call := by
  constructor
  · intro h
    cases h with
    | add capability units => rfl
    | merge others order h => exact addAll_eq_merge caps h
  · rintro rfl
    cases call with
    | add capability units => exact .add caps capability units
    | merge others => exact .merge caps others _ (.refl _)

/-- **Calls lead to one outcome**, whatever the orders are. -/
theorem reaches_iff {caps last : Capabilities} {calls : List Call} :
    Reaches caps calls last ↔ last = calls.foldl Call.perform caps := by
  induction calls generalizing caps with
  | nil =>
    constructor
    · intro h
      cases h
      rfl
    · rintro rfl
      exact .nil _
  | cons call calls ih =>
    rw [List.foldl_cons, ← ih]
    constructor
    · intro h
      cases h with
      | cons hfirst hrest => rwa [← Call.leads_iff.mp hfirst]
    · exact fun hrest => .cons (Call.leads_iff.mpr rfl) hrest

/-- After a call, the names it gives stand behind those that were there. -/
theorem candidates_perform (caps : Capabilities) (call : Call) (capability : String) :
    (Call.perform caps call).candidates capability =
      caps.candidates capability ++ call.given capability := by
  have hmerge (found given : Option (List UnitName)) :
      (found.merge (· ++ ·) given).getD [] = found.getD [] ++ given.getD [] := by
    cases found <;> cases given <;> simp
  cases call with
  | add name units =>
    rw [Call.perform, candidates, offers_add, hmerge, ← candidates, Call.given]
    split <;> rfl
  | merge others =>
    rw [Call.perform, candidates, offers_merge, hmerge, ← candidates, ← candidates, Call.given]

/-- **After many calls**, the names they give stand there in the order of the calls. -/
theorem candidates_foldl_perform (caps : Capabilities) (calls : List Call) (capability : String) :
    (calls.foldl Call.perform caps).candidates capability =
      caps.candidates capability ++ calls.flatMap (Call.given capability) := by
  induction calls generalizing caps with
  | nil => rw [List.foldl_nil, List.flatMap_nil, List.append_nil]
  | cons call calls ih =>
    rw [List.foldl_cons, ih, candidates_perform, List.flatMap_cons, List.append_assoc]

end Capabilities

/-! ## Merged and joined -/

namespace Sources

/-- **Merged sources are the joined text.**  Texts that can be continued give the same index
and the same capabilities, merged one after the other or read at once, with line feeds between
them, and it does not matter in which orders the capabilities are gone through in the merges.
Whatever the calls are that give more candidates, and whatever these orders, the candidates of
a capability are the names given for it, in the order of the calls. -/
theorem merged_eq_joined :
    (∀ texts : List String, (∀ text ∈ texts, PropertyText.Closed text) →
      Metadata.ofTexts texts = Metadata.ofText ("\n".intercalate texts) ∧
      Capabilities.ofTexts texts = Capabilities.ofText ("\n".intercalate texts) ∧
      ∀ caps, Capabilities.Reaches {} (texts.map fun text => .merge (.ofText text)) caps ↔
        caps = Capabilities.ofText ("\n".intercalate texts)) ∧
    ∀ (start : Capabilities) (calls : List Capabilities.Call),
      (∃ caps, Capabilities.Reaches start calls caps) ∧
      ∀ caps, Capabilities.Reaches start calls caps → ∀ capability,
        caps.candidates capability =
          start.candidates capability ++ calls.flatMap (Capabilities.Call.given capability) := by
  refine ⟨fun texts h => ?_, fun start calls =>
    ⟨⟨_, Capabilities.reaches_iff.mpr rfl⟩, fun caps hreach => ?_⟩⟩
  · have hentries := PropertyText.readEntries_intercalate h
    have hcaps : Capabilities.ofTexts texts = Capabilities.ofText ("\n".intercalate texts) := by
      rw [Capabilities.ofTexts_eq_addAll, Capabilities.ofText_eq, Capabilities.offersIn, hentries,
        List.map_flatMap]
      rfl
    refine ⟨?_, hcaps, fun caps => ?_⟩
    · rw [Metadata.ofTexts_eq, Metadata.ofText, hentries]
    · rw [Capabilities.reaches_iff, ← hcaps, List.foldl_map]
      rfl
  · rw [Capabilities.reaches_iff.mp hreach]
    exact Capabilities.candidates_foldl_perform start calls

/-- Under `auto` names are repeated and under `log` there are none; a comment ends in a
backslash, and a text is empty.  A merge goes through the names backwards. -/
theorem merged_eq_joined_log :
    Metadata.ofTexts ["auto=A,B\n# x\\", "", "auto=A, C\nlog="] =
      Metadata.ofText "auto=A,B\n# x\\\n\nauto=A, C\nlog=" ∧
    Capabilities.ofTexts ["auto=A,B\n# x\\", "", "auto=A, C\nlog="] =
      Capabilities.ofText "auto=A,B\n# x\\\n\nauto=A, C\nlog=" ∧
    ((Capabilities.add {} "auto" ["A"]).addAll [("log", []), ("auto", ["B", "A"])]).candidates
      "auto" = ["A", "B", "A"] := by
  obtain ⟨hindex, hcaps, -⟩ := merged_eq_joined.1 ["auto=A,B\n# x\\", "", "auto=A, C\nlog="] (by
    unfold PropertyText.Closed
    decide)
  have hreach : Capabilities.Reaches {}
      [.add "auto" ["A"], .merge ⟨Std.ExtTreeMap.ofList [("auto", ["B", "A"]), ("log", [])]⟩]
      ((Capabilities.add {} "auto" ["A"]).addAll [("log", []), ("auto", ["B", "A"])]) :=
    .cons (.add ..) (.cons (.merge _ _ _ (List.Perm.swap ..)) (.nil _))
  exact ⟨hindex, hcaps, (merged_eq_joined.2 _ _).2 _ hreach "auto"⟩

end Sources
end Activation
