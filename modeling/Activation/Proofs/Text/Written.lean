import Activation.Text.Digits
import Activation.Text.Items
import Mathlib.Data.List.TakeWhile

/-!
# Numbers and names written as text

The index holds nothing but text, so a precedence stands there in decimal and a list of
names with commas between them.  Both are read back as they were written.

* `readInt?_writeInt`, `readInt32?_trim_writeInt`: a number written in decimal is read back, and
  the blanks around it that are removed first are none.
* `items_intercalate`: names joined by commas are the items that are read, provided that each
  of them can stand between commas (`IsItem`).
-/

namespace Activation
namespace Text

/-! ## Blanks around a text -/

/-- A text without blanks has none around it. -/
theorem strip_eq_self {cs : List Char} (h : ∀ c ∈ cs, isBlank c = false) : strip cs = cs := by
  have hdrop : ∀ ds : List Char, (∀ c ∈ ds, isBlank c = false) → ds.dropWhile isBlank = ds := by
    intro ds hds
    rw [List.dropWhile_eq_self_iff]
    exact fun hl => Bool.eq_false_iff.mp (hds _ (List.getElem_mem hl))
  rw [strip, stripStart, hdrop cs h, stripEnd, hdrop _ fun c hc => h c (List.mem_reverse.mp hc),
    List.reverse_reverse]

/-! ## Numbers -/

theorem digitOf?_digitChar {d : Nat} (h : d < 10) : digitOf? 10 d.digitChar = some d := by
  revert d
  decide

/-- Digits are read one part after the other. -/
theorem accumulate?_append (base n : Nat) (cs ds : List Char) :
    accumulate? base n (cs ++ ds) =
      (accumulate? base n cs).bind fun m => accumulate? base m ds := by
  induction cs generalizing n with
  | nil => rfl
  | cons c cs ih =>
    rw [List.cons_append, accumulate?, accumulate?, Option.bind_assoc]
    exact congrArg _ (funext fun d => ih (n * base + d))

/-- The decimal digits of a number write that number. -/
theorem accumulate?_toDigits (n : Nat) : accumulate? 10 0 (Nat.toDigits 10 n) = some n := by
  induction n using Nat.strongRecOn with
  | ind n ih =>
    by_cases h : n < 10
    · rw [Nat.toDigits_of_lt_base h, accumulate?, digitOf?_digitChar h, Option.bind_some,
        Nat.zero_mul, Nat.zero_add, accumulate?]
    · have hn : 10 ≤ n := Nat.le_of_not_lt h
      have hlast : digitOf? 10 (n % 10).digitChar = some (n % 10) :=
        digitOf?_digitChar (Nat.mod_lt n (by decide))
      rw [Nat.toDigits_of_base_le (by decide) hn, accumulate?_append, ih (n / 10) (by omega),
        Option.bind_some, accumulate?, hlast, Option.bind_some, accumulate?,
        Nat.div_add_mod' n 10]

theorem readNat?_toDigits (n : Nat) : readNat? 10 (Nat.toDigits 10 n) = some n := by
  rw [readNat?, if_neg (by simp), accumulate?_toDigits]

theorem isDigit_of_mem_toDigits {n : Nat} {c : Char} (h : c ∈ Nat.toDigits 10 n) :
    c.isDigit = true :=
  Nat.isDigit_of_mem_toDigits (by decide) (by decide) h

theorem toList_writeInt_ofNat (n : Nat) : (writeInt (.ofNat n)).toList = Nat.toDigits 10 n :=
  Nat.toList_repr

theorem toList_writeInt_negSucc (n : Nat) :
    (writeInt (.negSucc n)).toList = '-' :: Nat.toDigits 10 (n + 1) := by
  rw [writeInt, String.toList_append]
  exact congrArg _ Nat.toList_repr

/-- A character of a number in decimal is a figure or a minus sign. -/
theorem mem_writeInt {n : Int} {c : Char} (h : c ∈ (writeInt n).toList) :
    c.isDigit = true ∨ c = '-' := by
  cases n with
  | ofNat n =>
    rw [toList_writeInt_ofNat] at h
    exact .inl (isDigit_of_mem_toDigits h)
  | negSucc n =>
    rw [toList_writeInt_negSucc, List.mem_cons] at h
    exact h.symm.imp_left isDigit_of_mem_toDigits

/-- **A number written in decimal** is read back. -/
theorem readInt?_writeInt (n : Int) : readInt? (writeInt n).toList = some n := by
  cases n with
  | ofNat n =>
    rw [toList_writeInt_ofNat]
    have hread := readNat?_toDigits n
    -- the first figure is no sign
    have hsign : ∀ cs, Nat.toDigits 10 n ≠ '+' :: cs ∧ Nat.toDigits 10 n ≠ '-' :: cs := by
      intro cs
      constructor <;> intro hcs
      · exact absurd (isDigit_of_mem_toDigits (hcs ▸ List.mem_cons_self)) (by decide)
      · exact absurd (isDigit_of_mem_toDigits (hcs ▸ List.mem_cons_self)) (by decide)
    rw [readInt?, hread, Option.map_some]
    · exact fun cs hcs => (hsign cs).1 hcs
    · exact fun cs hcs => (hsign cs).2 hcs
  | negSucc n =>
    rw [toList_writeInt_negSucc, readInt?, readNat?_toDigits, Option.map_some]
    rfl

theorem isBlank_of_mem_writeInt {n : Int} {c : Char} (h : c ∈ (writeInt n).toList) :
    isBlank c = false := by
  rcases mem_writeInt h with hc | rfl
  · simp only [Char.isDigit, Bool.and_eq_true, decide_eq_true_eq] at hc
    have hlow : 48 ≤ c.toNat := hc.1
    have hhigh : c.toNat ≤ 57 := hc.2
    simp [isBlank]
    omega
  · decide

theorem trim_writeInt (n : Int) : trim (writeInt n) = writeInt n := by
  rw [trim, strip_eq_self fun c hc => isBlank_of_mem_writeInt hc, String.ofList_toList]

/-- **A number of 32 bits** written in decimal is read back. -/
theorem readInt32?_trim_writeInt (n : Int32) : readInt32? (trim (writeInt n.toInt)) = some n := by
  have hlow : -2147483648 ≤ n.toInt := n.le_toInt
  have hhigh : n.toInt ≤ 2147483647 := n.toInt_le
  rw [trim_writeInt, readInt32?, readInt?_writeInt, Option.bind_some, toInt32?,
    if_pos ⟨hlow, hhigh⟩, Int32.ofInt_toInt]

/-! ## Names with commas between them -/

/-- **A name that can stand between commas.** -/
structure IsItem (name : String) : Prop where
  /-- It is not empty. -/
  ne_empty : name ≠ ""
  /-- It holds no comma. -/
  notMem : ',' ∉ name.toList
  /-- It has no blanks around it. -/
  trim_eq : trim name = name

instance : DecidablePred IsItem := fun name =>
  decidable_of_iff (name ≠ "" ∧ ',' ∉ name.toList ∧ trim name = name)
    ⟨fun h => ⟨h.1, h.2.1, h.2.2⟩, fun h => ⟨h.ne_empty, h.notMem, h.trim_eq⟩⟩

/-- The pieces between commas are the parts of a list that is split at commas. -/
theorem pieces_eq_splitOn (cs : List Char) : pieces cs = cs.splitOn ',' := by
  induction cs with
  | nil => rfl
  | cons c cs ih =>
    rw [List.splitOn_cons_eq_if_modifyHead]
    by_cases hc : c = ','
    · rw [hc, pieces, if_pos (beq_self_eq_true ','), ih]
    · rw [pieces, if_neg (by simpa using hc), ih]
      · cases hcs : cs.splitOn ',' with
        | nil => exact absurd hcs (List.splitOn_ne_nil ',' cs)
        | cons piece more => rfl
      · exact hc

/-- **Names joined by commas** are the items that are read. -/
theorem items_intercalate {names : List String} (h : ∀ name ∈ names, IsItem name) :
    items (",".intercalate names) = names := by
  cases hnames : names with
  | nil => decide
  | cons first rest =>
    rw [← hnames]
    have hsplit : pieces (",".intercalate names).toList = names.map String.toList := by
      rw [String.toList_intercalate, pieces_eq_splitOn]
      refine List.splitOn_intercalate ',' ?_ (by simp [hnames])
      exact List.forall_mem_map.mpr fun name hn => (h name hn).notMem
    have hstrip : (names.map String.toList).map strip = names.map String.toList := by
      rw [List.map_map]
      refine List.map_congr_left fun name hn => ?_
      rw [Function.comp_apply, ← String.toList_ofList (l := strip name.toList), ← trim,
        (h name hn).trim_eq]
    have hfilter : (names.map String.toList).filter (fun piece => !piece.isEmpty) =
        names.map String.toList := by
      refine List.filter_eq_self.mpr (List.forall_mem_map.mpr fun name hn => ?_)
      simpa using (h name hn).ne_empty
    rw [items, hsplit, hstrip, hfilter, List.map_map]
    exact (List.map_congr_left fun name _ => String.ofList_toList).trans (List.map_id names)

end Text
end Activation
