import Activation.Proofs.PropertyText.Joining
import Mathlib.Data.List.TakeWhile

/-!
# The layout of property text does not matter

The same entries may be laid out in many ways: with or without carriage returns before the
line feeds, with blank lines and comments in between, and with lines folded at almost any
place.  A line that is folded is cut in two, and what has to be seen is that the state of the
walk over the physical lines is the same behind both parts as it was behind the whole: a
backslash was put at the end of the first part, which makes an even number of them odd, and
the blanks in front of the second part do not count.

* `Text.lines_withReturns`: line feeds with carriage returns before them end the same lines.
* `PropertyText.isFolded_append`: what stands before a part with an even number of
  backslashes at its end does not matter.
* `PropertyText.joinLine_fold`: the two parts of a folded line add what the line adds.
* `PropertyText.readEntries_insert_remark`, `PropertyText.readEntries_append_remark`,
  `PropertyText.readEntries_fold`: one change of the layout at a time.
* `PropertyText.readEntries_layout`: the three ways of laying out a text anew.
-/

namespace Activation

/-! ## Carriage returns and blanks -/

namespace Text

/-- A text with a carriage return before every line feed. -/
def withReturns (text : List Char) : List Char :=
  text.flatMap fun c => if c = '\n' then ['\r', '\n'] else [c]

/-- **Carriage returns before the line feeds** make no other lines. -/
theorem lines_withReturns {text : List Char} (h : '\r' ∉ text) :
    lines (withReturns text) = lines text := by
  induction text with
  | nil => rfl
  | cons c text ih =>
    obtain ⟨hc, htext⟩ := List.ne_and_not_mem_of_not_mem_cons h
    have hcons : withReturns (c :: text) =
        (if c = '\n' then ['\r', '\n'] else [c]) ++ withReturns text := List.flatMap_cons
    rw [hcons]
    by_cases hn : c = '\n'
    · rw [if_pos hn, hn, List.cons_append, List.singleton_append, lines, lines, ih htext]
    · rw [if_neg hn, List.singleton_append, lines_cons hn (fun hr => absurd hr.symm hc),
        lines_cons hn (fun hr => absurd hr.symm hc), ih htext]

/-- Blanks are removed from the front up to the first character that is none. -/
theorem stripStart_append {front back : List Char} (h : ∀ c ∈ back.head?, isBlank c = false) :
    stripStart (front ++ back) = stripStart front ++ back := by
  induction front with
  | nil =>
    cases back with
    | nil => rfl
    | cons c back => exact List.dropWhile_cons_of_neg (Bool.eq_false_iff.mp (h c rfl))
  | cons c front ih =>
    cases hc : isBlank c with
    | true =>
      rw [List.cons_append, stripStart, List.dropWhile_cons_of_pos hc, stripStart,
        List.dropWhile_cons_of_pos hc]
      exact ih
    | false =>
      rw [List.cons_append, stripStart, List.dropWhile_cons_of_neg (Bool.eq_false_iff.mp hc),
        stripStart, List.dropWhile_cons_of_neg (Bool.eq_false_iff.mp hc), List.cons_append]

theorem stripStart_eq_nil {line : List Char} (h : ∀ c ∈ line, isBlank c = true) :
    stripStart line = [] :=
  List.dropWhile_eq_nil_iff.mpr h

end Text

namespace PropertyText

/-! ## Remarks -/

/-- A blank at its end makes a line neither a remark nor none. -/
theorem isRemark_concat_blank (line : List Char) {c : Char} (hc : Text.isBlank c = true) :
    isRemark (line ++ [c]) = isRemark line := by
  have hstrip : Text.stripStart (line ++ [c]) =
      if Text.stripStart line = [] then [] else Text.stripStart line ++ [c] := by
    rw [Text.stripStart, List.dropWhile_append, Text.stripStart,
      List.dropWhile_cons_of_pos hc, List.dropWhile_nil]
    simp
  rw [isRemark, isRemark, hstrip]
  cases Text.stripStart line with
  | nil => rfl
  | cons d rest => rfl

theorem isRemark_dropReturn (line : List Char) :
    isRemark (Text.dropReturn line) = isRemark line := by
  rw [Text.dropReturn]
  split
  · next hr =>
    obtain ⟨front, rfl⟩ := List.getLast?_eq_some_iff.mp hr
    rw [List.dropLast_concat, isRemark_concat_blank front rfl]
  · rfl

/-- A remark adds nothing where nothing is open. -/
theorem entriesFrom_remark {line : List Char} (h : isRemark line = true)
    (more : List (List Char)) : entriesFrom none (line :: more) = entriesFrom none more := by
  rw [entriesFrom, joinLines, if_pos h]
  rfl

/-! ## Backslashes at the end of a line -/

/-- A further backslash at its end folds a line that is not folded, and the other way. -/
theorem isFolded_concat_backslash (front : List Char) :
    isFolded (front ++ ['\\']) = !isFolded front := by
  rw [isFolded, isFolded, List.reverse_append, List.reverse_singleton, List.singleton_append,
    List.takeWhile_cons_of_pos rfl, List.length_cons]
  rcases Nat.mod_two_eq_zero_or_one (front.reverse.takeWhile (· == '\\')).length with h | h
  · simp [Nat.add_mod, h]
  · simp [Nat.add_mod, h]

/-- **What stands before** a part of a line does not matter, if it ends in an even number of
backslashes. -/
theorem isFolded_append {front : List Char} (h : isFolded front = false) (back : List Char) :
    isFolded (front ++ back) = isFolded back := by
  induction back using List.reverseRecOn with
  | nil => rw [List.append_nil, h, isFolded, List.reverse_nil, List.takeWhile_nil]; rfl
  | append_singleton back c ih =>
    rw [← List.append_assoc]
    by_cases hc : c = '\\'
    · rw [hc, isFolded_concat_backslash, isFolded_concat_backslash, ih]
    · rw [isFolded_append_of_ne _ hc, isFolded_append_of_ne _ hc]

/-- Without the blanks in front of it, a line ends in the same backslashes. -/
theorem isFolded_stripStart (line : List Char) :
    isFolded (Text.stripStart line) = isFolded line := by
  have hblanks : isFolded (line.takeWhile Text.isBlank) = false := by
    rcases List.eq_nil_or_concat (line.takeWhile Text.isBlank) with hnil | ⟨front, c, hc⟩
    · rw [hnil]
      rfl
    · rw [List.concat_eq_append] at hc
      rw [hc]
      refine isFolded_append_of_ne front ?_
      rintro rfl
      -- a backslash is no blank
      have hmem : '\\' ∈ line.takeWhile Text.isBlank := by
        rw [hc]
        exact List.mem_append_right front (List.mem_singleton_self _)
      exact absurd (List.mem_takeWhile_imp hmem) (by decide)
  conv_rhs => rw [← List.takeWhile_append_dropWhile (p := Text.isBlank) (l := line)]
  rw [isFolded_append hblanks, Text.stripStart]

/-! ## A folded line -/

/-- **The two parts of a folded line** add what the line adds: the first one leaves open what
stands in it, and the second one goes on with it. -/
theorem joinLine_fold {opened : Option (List Char)} {front back gap : List Char}
    (hfront : isFolded front = false) (hback : ∀ c ∈ back.head?, Text.isBlank c = false)
    (hgap : Text.stripStart gap = back)
    (hremark : opened = none → isRemark (front ++ back) = false) :
    ∃ part, joinLine opened (front ++ ['\\']) = ([], some part) ∧
      joinLine (some part) gap = joinLine opened (front ++ back) := by
  have hfolded : isFolded (front ++ ['\\']) = true := by
    rw [isFolded_concat_backslash, hfront, Bool.not_false]
  have hstrip : Text.stripStart (front ++ back) = Text.stripStart front ++ back :=
    Text.stripStart_append hback
  have hslash : Text.stripStart (front ++ ['\\']) = Text.stripStart front ++ ['\\'] :=
    Text.stripStart_append fun c hc => by rw [← Option.some.inj hc]; rfl
  have hne : isFolded back = true → back ≠ [] := by
    rintro h rfl
    exact absurd h (by decide)
  cases opened with
  | none =>
    have hno := hremark rfl
    have hnoslash : isRemark (front ++ ['\\']) = false := by
      rw [isRemark, hslash]
      rw [isRemark, hstrip] at hno
      cases hs : Text.stripStart front with
      | nil => rfl
      | cons c rest =>
        rw [hs] at hno
        exact hno
    refine ⟨front, ?_, ?_⟩
    · rw [joinLine, hnoslash, hfolded, List.dropLast_concat]
      rfl
    · rw [joinLine, joinLine, hno, isFolded_append hfront, hgap, if_neg Bool.false_ne_true]
      split
      · next h => rw [List.dropLast_append_of_ne_nil (hne h)]
      · rfl
  | some opened =>
    have hstripped : isFolded (Text.stripStart front) = false := by
      rw [isFolded_stripStart, hfront]
    have hslashed : isFolded (Text.stripStart front ++ ['\\']) = true := by
      rw [← hslash, isFolded_stripStart, hfolded]
    refine ⟨opened ++ Text.stripStart front, ?_, ?_⟩
    · simp only [joinLine, hslash, hslashed, List.dropLast_concat, if_true]
    · simp only [joinLine, hgap, hstrip, isFolded_append hstripped]
      split
      · next h => rw [List.dropLast_append_of_ne_nil (hne h), List.append_assoc]
      · rw [List.append_assoc]

/-- The lines of a folded line have the entries of the line. -/
theorem entriesFrom_fold {opened : Option (List Char)} {front back gap : List Char}
    (hfront : isFolded front = false) (hback : ∀ c ∈ back.head?, Text.isBlank c = false)
    (hgap : Text.stripStart gap = back)
    (hremark : opened = none → isRemark (front ++ back) = false) (more : List (List Char)) :
    entriesFrom opened ((front ++ ['\\']) :: gap :: more) =
      entriesFrom opened ((front ++ back) :: more) := by
  obtain ⟨part, hfirst, hsecond⟩ := joinLine_fold hfront hback hgap hremark
  rw [entriesFrom_cons, hfirst, entriesFrom_cons, hsecond, entriesFrom_cons opened]
  rfl

/-- **The second part of a folded line** is read as a line that is that part, the blanks in
front of it aside. -/
theorem exists_line_of_gap {front back gap rest : List Char} (hline : '\n' ∉ front ++ back)
    (hends : Text.EndsLine (front ++ back) rest)
    (hback : ∀ c ∈ back.head?, Text.isBlank c = false)
    (hgap : ∀ c ∈ gap, Text.isBlank c = true ∧ c ≠ '\n') :
    ∃ line, Text.stripStart line = back ∧ ∀ opened,
      entriesFrom opened (Text.lines (gap ++ back ++ rest)) =
        entriesFrom opened (line :: Text.linesBehind rest) := by
  have hn : '\n' ∉ gap ++ back := by
    rw [List.mem_append, not_or]
    exact ⟨fun h => (hgap _ h).2 rfl, fun h => hline (List.mem_append_right front h)⟩
  have hstrip : Text.stripStart (gap ++ back) = back := by
    rw [Text.stripStart_append hback, Text.stripStart_eq_nil fun c hc => (hgap c hc).1,
      List.nil_append]
  by_cases hends' : Text.EndsLine (gap ++ back) rest
  · exact ⟨gap ++ back, hstrip, entriesFrom_lines_append hn hends'⟩
  · -- the blanks end in a carriage return that belongs to the line end
    cases hends with
    | text => exact absurd .text hends'
    | carriage rest => exact absurd (.carriage rest) hends'
    | feed rest hr =>
      have hnil : back = [] := by
        by_contra hne
        refine hends' (.feed rest ?_)
        rwa [List.getLast?_append_of_ne_nil _ hne, ← List.getLast?_append_of_ne_nil front hne]
      subst hnil
      rw [List.append_nil] at hn ⊢
      refine ⟨Text.dropReturn gap, Text.stripStart_eq_nil fun c hc => ?_, fun opened => ?_⟩
      · rw [Text.dropReturn] at hc
        split at hc
        · exact (hgap c (List.dropLast_subset gap hc)).1
        · exact (hgap c hc).1
      · rw [Text.lines_append_newline_eq hn]
        rfl

/-! ## Laying out a text anew -/

/-- **A further remark** where a line begins and nothing is open. -/
theorem readEntries_insert_remark {front remark : List Char} (hstart : Text.AtLineStart front)
    (hopened : openedBy front = none) (hn : '\n' ∉ remark) (hremark : isRemark remark = true)
    (back : List Char) :
    readEntries (String.ofList (front ++ remark ++ '\n' :: back)) =
      readEntries (String.ofList (front ++ back)) := by
  rw [readEntries_eq, readEntries_eq, String.toList_ofList, String.toList_ofList,
    List.append_assoc]
  refine entriesFrom_lines_append_congr hstart ?_
  rw [Text.lines_append_newline_eq hn, hopened,
    entriesFrom_remark ((isRemark_dropReturn remark).trans hremark)]

/-- **A further remark** behind the last line. -/
theorem readEntries_append_remark {text remark : List Char} (hreturn : text.getLast? ≠ some '\r')
    (hopened : openedBy text = none) (hn : '\n' ∉ remark) (hremark : isRemark remark = true) :
    readEntries (String.ofList (text ++ '\n' :: remark)) = readEntries (String.ofList text) := by
  have hlines : entriesFrom none (Text.lines remark) = [] := by
    cases remark with
    | nil => rfl
    | cons c remark =>
      rw [Text.lines_eq_singleton hn (List.cons_ne_nil c remark), entriesFrom_remark hremark]
      rfl
  rw [readEntries_eq, readEntries_eq, String.toList_ofList, String.toList_ofList,
    entriesFrom_lines_append_newline hreturn hopened, hlines, List.append_nil]

/-- **A line is folded** between two parts of it. -/
theorem readEntries_fold {before front back gap rest : List Char}
    (hstart : Text.AtLineStart before) (hline : '\n' ∉ front ++ back)
    (hends : Text.EndsLine (front ++ back) rest)
    (hremark : openedBy before = none → isRemark (front ++ back) = false)
    (hfront : isFolded front = false) (hback : ∀ c ∈ back.head?, Text.isBlank c = false)
    (hgap : ∀ c ∈ gap, Text.isBlank c = true ∧ c ≠ '\n') :
    readEntries (String.ofList (before ++ front ++ '\\' :: '\n' :: gap ++ back ++ rest)) =
      readEntries (String.ofList (before ++ front ++ back ++ rest)) := by
  have hslash : Text.IsLine (front ++ ['\\']) := by
    refine ⟨fun h => ?_, by simp⟩
    rw [List.mem_append, List.mem_singleton] at h
    exact h.elim (fun h => hline (List.mem_append_left back h)) (by decide)
  obtain ⟨line, hstrip, hsecond⟩ := exists_line_of_gap hline hends hback hgap
  have hleft : before ++ front ++ '\\' :: '\n' :: gap ++ back ++ rest =
      before ++ ((front ++ ['\\']) ++ '\n' :: (gap ++ back ++ rest)) := by
    simp
  have hright : before ++ front ++ back ++ rest = before ++ (front ++ back ++ rest) := by
    simp
  rw [readEntries_eq, readEntries_eq, String.toList_ofList, String.toList_ofList, hleft, hright]
  refine entriesFrom_lines_append_congr hstart ?_
  calc entriesFrom (openedBy before)
        (Text.lines ((front ++ ['\\']) ++ '\n' :: (gap ++ back ++ rest)))
      = entriesFrom (openedBy before)
          ((front ++ ['\\']) :: Text.lines (gap ++ back ++ rest)) := by
        rw [Text.lines_append_newline hslash]
    _ = entriesFrom (openedBy before)
          ((front ++ ['\\']) :: line :: Text.linesBehind rest) := by
        rw [entriesFrom_cons, hsecond, ← entriesFrom_cons]
    _ = entriesFrom (openedBy before) ((front ++ back) :: Text.linesBehind rest) :=
        entriesFrom_fold hfront hback hstrip hremark _
    _ = entriesFrom (openedBy before) (Text.lines (front ++ back ++ rest)) :=
        (entriesFrom_lines_append hline hends _).symm

/-- **The layout of a text does not matter.**  A text has the same entries

* with a carriage return before every line feed, if it had none;
* with a further blank or comment line where a line begins, or behind its last line, if no
  line is being continued there;
* with a backslash, a line feed and any blanks put into a line that is no blank and no comment
  line, or that continues one.  The part of the line before that place must end in an even
  number of backslashes, and the part behind it must not begin with a blank. -/
theorem readEntries_layout :
    (∀ text : List Char, '\r' ∉ text →
      readEntries (String.ofList (Text.withReturns text)) = readEntries (String.ofList text)) ∧
    (∀ front remark back : List Char, Text.AtLineStart front → openedBy front = none →
      '\n' ∉ remark → isRemark remark = true →
      readEntries (String.ofList (front ++ remark ++ '\n' :: back)) =
        readEntries (String.ofList (front ++ back))) ∧
    (∀ text remark : List Char, text.getLast? ≠ some '\r' → openedBy text = none →
      '\n' ∉ remark → isRemark remark = true →
      readEntries (String.ofList (text ++ '\n' :: remark)) = readEntries (String.ofList text)) ∧
    (∀ before front back gap rest : List Char, Text.AtLineStart before →
      '\n' ∉ front ++ back → Text.EndsLine (front ++ back) rest →
      (openedBy before = none → isRemark (front ++ back) = false) →
      isFolded front = false → (∀ c ∈ back.head?, Text.isBlank c = false) →
      (∀ c ∈ gap, Text.isBlank c = true ∧ c ≠ '\n') →
      readEntries (String.ofList (before ++ front ++ '\\' :: '\n' :: gap ++ back ++ rest)) =
        readEntries (String.ofList (before ++ front ++ back ++ rest))) := by
  refine ⟨?_, ?_, ?_, ?_⟩
  · intro text hreturn
    rw [readEntries_eq, readEntries_eq, String.toList_ofList, String.toList_ofList,
      Text.lines_withReturns hreturn]
  · intro front remark back hstart hopened hn hremark
    exact readEntries_insert_remark hstart hopened hn hremark back
  · intro text remark hreturn hopened hn hremark
    exact readEntries_append_remark hreturn hopened hn hremark
  · intro before front back gap rest hstart hline hends hremark hfront hback hgap
    exact readEntries_fold hstart hline hends hremark hfront hback hgap

/-- A comment that ends in a backslash is put behind a folded line and behind the last one; and
an escape is cut in two on a line that looks like a comment, but continues the one before. -/
theorem readEntries_layout_escape :
    readEntries (String.ofList (Text.withReturns "a=1\n# b\n".toList)) =
      readEntries (String.ofList "a=1\n# b\n".toList) ∧
    readEntries (String.ofList ("a=1\\\n  2\n".toList ++ "# c\\".toList ++ '\n' :: "b=3".toList)) =
      readEntries (String.ofList ("a=1\\\n  2\n".toList ++ "b=3".toList)) ∧
    readEntries (String.ofList ("a=1".toList ++ '\n' :: "  ! end\\".toList)) =
      readEntries (String.ofList "a=1".toList) ∧
    readEntries (String.ofList ("k=\\\n".toList ++ "# \\u00".toList ++
        '\\' :: '\n' :: " \t\r".toList ++ "41x".toList ++ "\r\nz".toList)) =
      readEntries (String.ofList ("k=\\\n".toList ++ "# \\u00".toList ++ "41x".toList ++
        "\r\nz".toList)) := by
  obtain ⟨hreturns, hremark, hlast, hfold⟩ := readEntries_layout
  refine ⟨hreturns _ (by decide), ?_, ?_, ?_⟩
  · exact hremark _ _ _ (.inr ⟨"a=1\\\n  2".toList, rfl⟩) (by decide) (by decide) (by decide)
  · exact hlast _ _ (by decide) (by decide) (by decide) (by decide)
  · have hgap : ∀ c ∈ " \t\r".toList, Text.isBlank c = true ∧ c ≠ '\n' :=
      List.forall_mem_cons.mpr ⟨by decide, List.forall_mem_cons.mpr ⟨by decide,
        List.forall_mem_singleton.mpr (by decide)⟩⟩
    have hback : ∀ c ∈ "41x".toList.head?, Text.isBlank c = false := by
      rintro c ⟨⟩
      decide
    exact hfold _ _ _ _ _ (.inr ⟨"k=\\".toList, rfl⟩) (by decide) (.carriage ['z']) (by decide)
      (by decide) hback hgap

end PropertyText
end Activation
