import Activation.PropertyText.Layout
import Mathlib.Data.List.Basic

/-!
# Text laid out plainly

Text that is written line by line is read line by line, provided that no line can be
mistaken: a line must not hold a line end, and a logical line must be neither a remark nor
the beginning of a folded one.

* `Text.lines_intercalate`: the lines that are joined by line feeds are the lines that are
  read.
* `PropertyText.joinLines_eq_self`: physical lines that are neither remarks nor folded are
  the logical lines.
* `PropertyText.isFolded_append_of_ne`: whether a line is folded is decided behind its last
  character that is no backslash.
-/

namespace Activation

/-! ## Physical lines -/

namespace Text

/-- A line that can stand before a line feed. -/
structure IsLine (line : List Char) : Prop where
  /-- It holds no line feed. -/
  notMem : '\n' ∉ line
  /-- It does not end in a carriage return, which would belong to the line end. -/
  getLast?_ne : line.getLast? ≠ some '\r'

/-- A character that belongs to no line end begins the line that follows it. -/
theorem lines_cons {c : Char} {rest : List Char} (hc : c ≠ '\n')
    (hrest : c = '\r' → rest.head? ≠ some '\n') :
    lines (c :: rest) = match lines rest with
      | [] => [[c]]
      | line :: more => (c :: line) :: more :=
  lines.eq_4 c rest (fun _ hr hn => hrest hr (hn ▸ rfl)) hc

/-- A line and a line feed are read as that line. -/
theorem lines_append_newline {line : List Char} (h : IsLine line) (rest : List Char) :
    lines (line ++ '\n' :: rest) = line :: lines rest := by
  induction line with
  | nil => rw [List.nil_append, lines]
  | cons c line ih =>
    obtain ⟨hc, hn⟩ := List.ne_and_not_mem_of_not_mem_cons h.notMem
    have htail : IsLine line := by
      refine ⟨hn, fun hl => h.getLast?_ne ?_⟩
      rw [List.getLast?_cons, hl, Option.getD_some]
    have hnext : c = '\r' → (line ++ '\n' :: rest).head? ≠ some '\n' := by
      -- a carriage return is not the last character of the line
      rintro rfl
      cases line with
      | nil => exact absurd rfl h.getLast?_ne
      | cons d line => exact fun hd => hn (Option.some.inj hd ▸ List.mem_cons_self)
    rw [List.cons_append, lines_cons hc.symm hnext, ih htail]

/-- A line with nothing after it is read as that line, unless it is empty. -/
theorem lines_eq_singleton {line : List Char} (hn : '\n' ∉ line) (hne : line ≠ []) :
    lines line = [line] := by
  induction line with
  | nil => exact absurd rfl hne
  | cons c line ih =>
    obtain ⟨hc, hn⟩ := List.ne_and_not_mem_of_not_mem_cons hn
    have hnext : c = '\r' → line.head? ≠ some '\n' :=
      fun _ hd => hn (List.mem_of_mem_head? hd)
    rw [lines_cons hc.symm hnext]
    cases line with
    | nil => rfl
    | cons d line => rw [ih hn (List.cons_ne_nil d line)]

/-- **Lines that are joined by line feeds** are the lines that are read. -/
theorem lines_intercalate {ls : List (List Char)} (h : ∀ line ∈ ls, IsLine line)
    (hne : ∀ line ∈ ls, line ≠ []) : lines (List.intercalate ['\n'] ls) = ls := by
  induction ls with
  | nil => rfl
  | cons line ls ih =>
    rw [List.forall_mem_cons] at h hne
    cases ls with
    | nil => rw [List.intercalate_singleton, lines_eq_singleton h.1.notMem hne.1]
    | cons next ls =>
      rw [List.intercalate_cons_cons, List.append_assoc, List.singleton_append,
        lines_append_newline h.1, ih h.2 hne.2]

end Text

/-! ## Logical lines -/

namespace PropertyText

/-- Physical lines that are neither remarks nor folded are the logical lines. -/
theorem joinLines_eq_self {ls : List (List Char)} (hremark : ∀ line ∈ ls, isRemark line = false)
    (hfolded : ∀ line ∈ ls, isFolded line = false) : joinLines none ls = ls := by
  induction ls with
  | nil => rfl
  | cons line ls ih =>
    rw [List.forall_mem_cons] at hremark hfolded
    rw [joinLines, hremark.1, hfolded.1, ih hremark.2 hfolded.2, if_neg Bool.false_ne_true,
      if_neg Bool.false_ne_true]

/-- A line that ends in no backslash is not folded. -/
theorem isFolded_append_of_ne (front : List Char) {c : Char} (hc : c ≠ '\\') :
    isFolded (front ++ [c]) = false := by
  rw [isFolded, List.reverse_append, List.reverse_singleton, List.singleton_append,
    List.takeWhile_cons_of_neg (by simpa using hc)]
  rfl

/-- Two backslashes more at the end of a line do not matter. -/
theorem isFolded_append_backslashes (front : List Char) :
    isFolded (front ++ ['\\', '\\']) = isFolded front := by
  have hreverse : (front ++ ['\\', '\\']).reverse = '\\' :: '\\' :: front.reverse := by
    rw [List.reverse_append]
    rfl
  rw [isFolded, isFolded, hreverse, List.takeWhile_cons_of_pos rfl,
    List.takeWhile_cons_of_pos rfl, List.length_cons, List.length_cons, Nat.add_assoc,
    Nat.add_mod_right]

end PropertyText
end Activation
