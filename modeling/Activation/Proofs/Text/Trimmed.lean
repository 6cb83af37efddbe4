import Activation.Text.Blank
import Activation.Text.Letters
import Mathlib.Data.List.DropRight

/-!
# Texts with no blanks around them

Removing the blanks around a text once is enough (`trim_trim`), and no blank has a small
form of its own.  So of two texts that are equal up to the case of their letters, either both
have blanks around them or none has (`trim_eq_of_sameLetters`).
-/

namespace Activation
namespace Text

/-- Removing the blanks around a text leaves a part of it. -/
theorem strip_sublist (cs : List Char) : (strip cs).Sublist cs :=
  (List.rdropWhile_prefix isBlank (stripStart cs)).sublist.trans (List.dropWhile_sublist isBlank)

/-- What is left begins with no blank. -/
theorem stripStart_strip (cs : List Char) : stripStart (strip cs) = strip cs := by
  have hstart : stripStart (stripStart cs) = stripStart cs := List.dropWhile_idempotent isBlank cs
  rw [stripStart, List.dropWhile_eq_self_iff] at hstart
  have hfront : strip cs <+: stripStart cs := List.rdropWhile_prefix isBlank (stripStart cs)
  refine List.dropWhile_eq_self_iff.mpr fun hl => ?_
  rw [hfront.getElem hl]
  exact hstart (hl.trans_le hfront.length_le)

theorem strip_strip (cs : List Char) : strip (strip cs) = strip cs := by
  rw [strip, stripStart_strip]
  exact List.rdropWhile_idempotent isBlank (stripStart cs)

/-- **Blanks are removed at once.** -/
theorem trim_trim (s : String) : trim (trim s) = trim s := by
  rw [trim, trim, String.toList_ofList, strip_strip]

/-- Only letters have a small form of their own, and no letter is blank. -/
theorem isBlank_toLower (c : Char) : isBlank c.toLower = isBlank c := by
  by_cases hc : c.toNat < 128
  · have hascii : ∀ n < 128, isBlank (Char.ofNat n).toLower = isBlank (Char.ofNat n) := by
      decide
    have hself := hascii c.toNat hc
    rwa [Char.ofNat_toNat] at hself
  · have hself : c.toLower = c := dif_neg fun hletter => by
      have hle : c.toNat ≤ 90 := hletter.2
      omega
    rw [hself]

theorem strip_map_toLower (cs : List Char) :
    strip (cs.map Char.toLower) = (strip cs).map Char.toLower := by
  have hblank : isBlank ∘ Char.toLower = isBlank := funext isBlank_toLower
  have hstart : ∀ ds : List Char, (ds.map Char.toLower).dropWhile isBlank =
      (ds.dropWhile isBlank).map Char.toLower := by
    intro ds
    rw [List.dropWhile_map, hblank]
  rw [strip, stripStart, hstart, stripEnd, ← List.map_reverse, hstart, ← List.map_reverse]
  rfl

theorem sameLetters_iff {s t : String} :
    sameLetters s t = true ↔ s.toList.map Char.toLower = t.toList.map Char.toLower :=
  beq_iff_eq

theorem sameLetters_comm {s t : String} (h : sameLetters s t = true) : sameLetters t s = true :=
  sameLetters_iff.mpr (sameLetters_iff.mp h).symm

/-- **Texts that are equal up to the case of their letters** have the same blanks around
them: if there are none around the one, there are none around the other. -/
theorem trim_eq_of_sameLetters {s t : String} (h : sameLetters s t = true) (hs : trim s = s) :
    trim t = t := by
  rw [sameLetters_iff] at h
  have hstrip : strip s.toList = s.toList := by
    conv_rhs => rw [← hs, trim, String.toList_ofList]
  -- removing blanks from the one leaves as many characters as removing them from the other
  have hlength : (strip t.toList).length = t.toList.length := by
    have hmap : (strip t.toList).map Char.toLower = t.toList.map Char.toLower := by
      rw [← strip_map_toLower, ← h, strip_map_toLower, hstrip]
    simpa using congrArg List.length hmap
  rw [trim, (strip_sublist t.toList).eq_of_length hlength, String.ofList_toList]

end Text
end Activation
