import Activation.Environment.Variables
import Mathlib.Data.List.Basic

/-!
# A block of variables is read as it was written

Whoever starts a process writes the variables down one after the other, and the process takes
them apart again.  Names and values come out as they went in, as long as they fit
(`Fits`): a name has at least one byte and no equals sign but perhaps as the first of them, and
no zero byte stands in either.

* `Variables.pairs_block`: every block of names and values that fit is taken apart into these.
* `Variables.ofBlock?_block`: so texts are read back as the variables that they are.
* `Variables.ofBlock?_eq_none_iff`: and no variable is read at all where one is no text.
-/

namespace Activation
namespace Variables

/-! ## Bytes -/

/-- A name and a value that can be told apart in a block. -/
structure Fits (pair : List UInt8 × List UInt8) : Prop where
  /-- The name has a first byte. -/
  named : pair.1 ≠ []
  /-- No byte of the name after the first is an equals sign. -/
  sign : equalsSign ∉ pair.1.tail
  /-- No byte of the name is zero. -/
  name : 0 ∉ pair.1
  /-- No byte of the value is zero. -/
  value : 0 ∉ pair.2

/-- A name and a value with the equals sign between them. -/
def piece (pair : List UInt8 × List UInt8) : List UInt8 :=
  pair.1 ++ equalsSign :: pair.2

/-- A block of names and values. -/
def block (pairs : List (List UInt8 × List UInt8)) : List UInt8 :=
  pairs.flatMap fun pair => piece pair ++ [0]

/-- The first piece of a block is what stands before the first zero byte. -/
theorem pieces_append {first : List UInt8} (h : 0 ∉ first) (rest : List UInt8) :
    pieces (first ++ 0 :: rest) = first :: pieces rest := by
  induction first with
  | nil => rfl
  | cons byte first ih =>
    rw [List.mem_cons, not_or] at h
    rw [List.cons_append, pieces, if_neg (Ne.symm h.1), ih h.2]

theorem Fits.zero_notMem {pair : List UInt8 × List UInt8} (h : Fits pair) : 0 ∉ piece pair := by
  rw [piece, List.mem_append, List.mem_cons]
  rintro (hn | hs | hv)
  · exact h.name hn
  · exact absurd hs (by decide)
  · exact h.value hv

theorem Fits.split?_piece {pair : List UInt8 × List UInt8} (h : Fits pair) :
    split? (piece pair) = some pair := by
  obtain ⟨name, value⟩ := pair
  cases name with
  | nil => exact absurd rfl h.named
  | cons first name =>
    have hname : ∀ byte ∈ name, (byte != equalsSign) = true := fun byte hb =>
      bne_iff_ne.mpr fun he => h.sign (he ▸ hb)
    show split? (first :: (name ++ equalsSign :: value)) = _
    rw [split?, if_pos (List.mem_append_right _ List.mem_cons_self),
      List.takeWhile_append_of_pos hname, List.dropWhile_append_of_pos hname,
      List.takeWhile_cons_of_neg (by simp), List.dropWhile_cons_of_neg (by simp),
      List.append_nil]
    rfl

/-- **Names and values that fit** are told apart in their block. -/
theorem pairs_block {written : List (List UInt8 × List UInt8)} (h : ∀ pair ∈ written, Fits pair) :
    pairs (block written) = written := by
  induction written with
  | nil => rfl
  | cons pair written ih =>
    obtain ⟨hpair, hwritten⟩ := List.forall_mem_cons.mp h
    have hblock : block (pair :: written) = piece pair ++ 0 :: block written := by
      rw [block, List.flatMap_cons, List.append_assoc]
      rfl
    rw [hblock, pairs, pieces_append hpair.zero_notMem, List.filterMap_cons, hpair.split?_piece]
    exact congrArg (pair :: ·) (ih hwritten)

/-! ## Texts -/

/-- The bytes of a text. -/
def bytes (text : String) : List UInt8 :=
  text.toByteArray.data.toList

theorem text?_bytes (text : String) : text? (bytes text) = some text := by
  have hbytes : (bytes text).toByteArray = text.toByteArray := by
    apply ByteArray.ext
    rw [List.data_toByteArray, bytes, Array.toArray_toList]
  rw [text?, hbytes, String.fromUTF8?, dif_pos text.isValidUTF8]
  rfl

/-- A name and a value in bytes. -/
def bytesOf (entry : String × String) : List UInt8 × List UInt8 :=
  (bytes entry.1, bytes entry.2)

theorem texts?_bytesOf (entry : String × String) : texts? (bytesOf entry) = some entry := by
  rw [texts?, bytesOf, text?_bytes, text?_bytes]
  rfl

/-- **Variables are read as they were written**, if they fit. -/
theorem ofBlock?_block {entries : List (String × String)}
    (h : ∀ entry ∈ entries, Fits (bytesOf entry)) :
    ofBlock? (block (entries.map bytesOf)) = some entries := by
  rw [ofBlock?, pairs_block (List.forall_mem_map.mpr h)]
  induction entries with
  | nil => rfl
  | cons entry entries ih =>
    rw [List.map_cons, List.mapM_cons, texts?_bytesOf, ih (List.forall_mem_cons.mp h).2]
    rfl

theorem texts?_eq_none_iff {pair : List UInt8 × List UInt8} :
    texts? pair = none ↔ text? pair.1 = none ∨ text? pair.2 = none := by
  rw [texts?]
  cases text? pair.1 with
  | none => simp
  | some name => simp

/-- **One variable that is no text** spoils the block. -/
theorem ofBlock?_eq_none_iff {given : List UInt8} : ofBlock? given = none ↔
    ∃ pair ∈ pairs given, text? pair.1 = none ∨ text? pair.2 = none := by
  rw [ofBlock?]
  induction pairs given with
  | nil => simp
  | cons pair others ih =>
    rw [List.mapM_cons, List.exists_mem_cons_iff, ← texts?_eq_none_iff]
    cases texts? pair with
    | none => simp
    | some entry =>
      rw [← ih]
      cases others.mapM texts? with
      | none => simp
      | some entries => simp

end Variables
end Activation
