import Activation.Proofs.PropertyText.Layout
import Activation.PropertyText.Entry
import Mathlib.Data.List.Induction

/-!
# Physical lines are joined one by one

Property text is taken apart twice, and both times from the front: into physical lines, and
these are joined to logical ones.  So a text can be cut where a line begins, and all that is
handed over there is the logical line that is still open (`PropertyText.openedBy`).

* `Text.lines_append`: a text may be cut where a line begins.
* `Text.lines_append_newline_eq`, `Text.lines_append_of_endsLine`: the line that is read off a
  part of a text that holds no line feed.
* `PropertyText.joinLines_cons`: what one physical line adds and what it leaves open.
* `PropertyText.exists_entriesFrom_append`: what many of them add and leave open.
* `PropertyText.entriesFrom_lines_append_congr`: texts with the same beginning have the same
  entries if their ends add the same to what the beginning leaves open.
* `PropertyText.entriesFrom_lines_append_newline`: the entries of one text behind another.
-/

namespace Activation

/-! ## Physical lines -/

namespace Text

/-- **A line begins** at the beginning of a text and behind every line feed. -/
def AtLineStart (front : List Char) : Prop :=
  front = [] ∨ ∃ before, front = before ++ ['\n']

/-- A line without the carriage return at its end, which belongs to the line end if a line
feed follows. -/
def dropReturn (line : List Char) : List Char :=
  if line.getLast? = some '\r' then line.dropLast else line

/-- **A line ends** at the end of a text, or where a line end follows that takes no character
of it. -/
inductive EndsLine (line : List Char) : List Char → Prop
  /-- It is the last line, and nothing follows. -/
  | text : EndsLine line []
  /-- A line feed follows, and no carriage return stands before it. -/
  | feed (rest : List Char) (h : line.getLast? ≠ some '\r') : EndsLine line ('\n' :: rest)
  /-- A carriage return and a line feed follow. -/
  | carriage (rest : List Char) : EndsLine line ('\r' :: '\n' :: rest)

/-- The lines behind a line end. -/
def linesBehind : List Char → List (List Char)
  | '\n' :: rest => lines rest
  | '\r' :: '\n' :: rest => lines rest
  | _ => []

theorem lines_eq_nil_iff {text : List Char} : lines text = [] ↔ text = [] := by
  fun_cases lines text <;> simp [*]

/-- A text may be cut behind a line feed. -/
theorem lines_append_newline_append (before rest : List Char) :
    lines (before ++ '\n' :: rest) = lines (before ++ ['\n']) ++ lines rest := by
  induction before using lines.induct with
  | case1 => simp only [List.nil_append, lines, List.singleton_append]
  | case2 before ih => simp only [List.cons_append, lines, ih]
  | case3 before ih => simp only [List.cons_append, lines, ih]
  | case4 c before hreturn hfeed hnil ih =>
    rw [lines_eq_nil_iff.mp hnil]
    by_cases hc : c = '\r'
    · simp only [hc, List.cons_append, List.nil_append, lines]
    · simp [lines, hc]
  | case5 c before hreturn hfeed line more hlines ih =>
    have hne : before ≠ [] := fun h => by simp [h, lines] at hlines
    -- what follows a carriage return is in the part before, and so it is no line feed
    have hnext (x : List Char) : c = '\r' → (before ++ x).head? ≠ some '\n' := by
      intro hc hd
      obtain ⟨d, before, rfl⟩ := List.exists_cons_of_ne_nil hne
      exact hreturn before hc (by rw [Option.some.inj hd])
    obtain ⟨first, others, hfirst⟩ := List.exists_cons_of_ne_nil
      (mt lines_eq_nil_iff.mp (List.append_ne_nil_of_left_ne_nil hne ['\n']))
    rw [List.cons_append, lines_cons hfeed (hnext _), ih, List.cons_append,
      lines_cons hfeed (hnext _), hfirst]
    rfl

/-- **A text may be cut where a line begins.** -/
theorem lines_append {front : List Char} (h : AtLineStart front) (rest : List Char) :
    lines (front ++ rest) = lines front ++ lines rest := by
  rcases h with rfl | ⟨before, rfl⟩
  · rfl
  · rw [List.append_assoc, List.singleton_append, lines_append_newline_append]

/-- A part without line feeds is a line, with or without the carriage return at its end. -/
theorem lines_append_return {line : List Char} (h : '\n' ∉ line) (rest : List Char) :
    lines (line ++ '\r' :: '\n' :: rest) = line :: lines rest := by
  induction line with
  | nil => rw [List.nil_append, lines]
  | cons c line ih =>
    obtain ⟨hc, hn⟩ := List.ne_and_not_mem_of_not_mem_cons h
    have hnext : c = '\r' → (line ++ '\r' :: '\n' :: rest).head? ≠ some '\n' := by
      intro _ hd
      cases line with
      | nil => exact absurd (Option.some.inj hd) (by decide)
      | cons d line => exact hn (Option.some.inj hd ▸ List.mem_cons_self)
    rw [List.cons_append, lines_cons hc.symm hnext, ih hn]

/-- **A part without line feeds**, with a line feed behind it, is read as a line. -/
theorem lines_append_newline_eq {line : List Char} (h : '\n' ∉ line) (rest : List Char) :
    lines (line ++ '\n' :: rest) = dropReturn line :: lines rest := by
  rw [dropReturn]
  split
  · next hr =>
    obtain ⟨front, rfl⟩ := List.getLast?_eq_some_iff.mp hr
    rw [List.dropLast_concat, List.append_assoc, List.singleton_append]
    exact lines_append_return (fun hn => h (List.mem_append_left _ hn)) rest
  · next hr => exact lines_append_newline ⟨h, hr⟩ rest

/-- **A line that ends** is read as it is, unless it is empty and the last one. -/
theorem lines_append_of_endsLine {line back : List Char} (h : '\n' ∉ line)
    (hends : EndsLine line back) (hne : line ++ back ≠ []) :
    lines (line ++ back) = line :: linesBehind back := by
  cases hends with
  | text =>
    rw [List.append_nil] at hne ⊢
    exact lines_eq_singleton h hne
  | feed rest hr => exact lines_append_newline ⟨h, hr⟩ rest
  | carriage rest => exact lines_append_return h rest

/-- A text is cut where its last line begins. -/
theorem exists_eq_append_line (text : List Char) :
    ∃ front line, text = front ++ line ∧ AtLineStart front ∧ '\n' ∉ line := by
  induction text using List.reverseRecOn with
  | nil => exact ⟨[], [], rfl, .inl rfl, List.not_mem_nil⟩
  | append_singleton text c ih =>
    by_cases hc : c = '\n'
    · exact ⟨text ++ [c], [], (List.append_nil _).symm, .inr ⟨text, by rw [hc]⟩, List.not_mem_nil⟩
    · obtain ⟨front, line, rfl, hfront, hline⟩ := ih
      refine ⟨front, line ++ [c], List.append_assoc .., hfront, ?_⟩
      simpa [hline] using Ne.symm hc

end Text

/-! ## Logical lines -/

namespace PropertyText

/-- What a physical line completes and what it leaves open, given what was open before. -/
def joinLine : Option (List Char) → List Char → List (List Char) × Option (List Char)
  | none, line =>
    if isRemark line then ([], none)
    else if isFolded line then ([], some line.dropLast)
    else ([line], none)
  | some opened, line =>
    let rest := Text.stripStart line
    if isFolded rest then ([], some (opened ++ rest.dropLast)) else ([opened ++ rest], none)

/-- **One physical line** completes what it completes, and the next ones go on with what it
leaves open. -/
theorem joinLines_cons (opened : Option (List Char)) (line : List Char)
    (more : List (List Char)) :
    joinLines opened (line :: more) =
      (joinLine opened line).1 ++ joinLines (joinLine opened line).2 more := by
  cases opened with
  | none =>
    rw [joinLines, joinLine]
    split
    · rfl
    · split <;> rfl
  | some opened =>
    simp only [joinLines, joinLine]
    split <;> rfl

/-- What many physical lines leave open, given what was open before. -/
def openedAfter (opened : Option (List Char)) (ls : List (List Char)) : Option (List Char) :=
  ls.foldl (fun opened line => (joinLine opened line).2) opened

/-- **The logical line that is still open** at the end of a text, if there is one. -/
def openedBy (text : List Char) : Option (List Char) :=
  openedAfter none (Text.lines text)

/-- The entries on the logical lines that follow, given the beginning of the one still
open. -/
def entriesFrom (opened : Option (List Char)) (ls : List (List Char)) : List (String × String) :=
  (joinLines opened ls).filterMap readEntry?

theorem readEntries_eq (text : String) :
    readEntries text = entriesFrom none (Text.lines text.toList) := rfl

theorem entriesFrom_cons (opened : Option (List Char)) (line : List Char)
    (more : List (List Char)) :
    entriesFrom opened (line :: more) =
      (joinLine opened line).1.filterMap readEntry? ++
        entriesFrom (joinLine opened line).2 more := by
  rw [entriesFrom, joinLines_cons, List.filterMap_append]
  rfl

/-- **Many physical lines** complete some entries, and the next ones go on with what is left
open. -/
theorem exists_entriesFrom_append (opened : Option (List Char)) (ls : List (List Char)) :
    ∃ completed, ∀ more,
      entriesFrom opened (ls ++ more) = completed ++ entriesFrom (openedAfter opened ls) more := by
  induction ls generalizing opened with
  | nil => exact ⟨[], fun more => rfl⟩
  | cons line ls ih =>
    obtain ⟨completed, h⟩ := ih (joinLine opened line).2
    refine ⟨(joinLine opened line).1.filterMap readEntry? ++ completed, fun more => ?_⟩
    rw [List.cons_append, entriesFrom_cons, h, List.append_assoc]
    rfl

/-- **Texts with the same beginning** have the same entries if their ends add the same to what
the beginning leaves open. -/
theorem entriesFrom_lines_append_congr {front : List Char} (h : Text.AtLineStart front)
    {first second : List Char}
    (hsame : entriesFrom (openedBy front) (Text.lines first) =
      entriesFrom (openedBy front) (Text.lines second)) :
    entriesFrom none (Text.lines (front ++ first)) =
      entriesFrom none (Text.lines (front ++ second)) := by
  obtain ⟨completed, hc⟩ := exists_entriesFrom_append none (Text.lines front)
  rw [Text.lines_append h, Text.lines_append h, hc, hc]
  exact congrArg _ hsame

/-- An empty line adds nothing at the end of a text. -/
theorem entriesFrom_singleton_nil (opened : Option (List Char)) :
    entriesFrom opened [[]] = entriesFrom opened [] := by
  cases opened with
  | none => rfl
  | some opened =>
    have hnone : readEntry? [] = none := rfl
    cases opened with
    | nil => rfl
    | cons c cs =>
      rw [entriesFrom_cons, joinLine]
      simp [entriesFrom, joinLines, Text.stripStart, isFolded]

/-- **A line that ends** adds what it adds as a line, also if it is empty and the last one. -/
theorem entriesFrom_lines_append {line back : List Char} (h : '\n' ∉ line)
    (hends : Text.EndsLine line back) (opened : Option (List Char)) :
    entriesFrom opened (Text.lines (line ++ back)) =
      entriesFrom opened (line :: Text.linesBehind back) := by
  by_cases hne : line ++ back = []
  · obtain ⟨rfl, rfl⟩ := List.append_eq_nil_iff.mp hne
    exact (entriesFrom_singleton_nil opened).symm
  · rw [Text.lines_append_of_endsLine h hends hne]

/-- **One text behind another**, with a line feed between them, has the entries of both, if
nothing is open at the end of the first and it does not end in a carriage return. -/
theorem entriesFrom_lines_append_newline {text : List Char}
    (hreturn : text.getLast? ≠ some '\r') (hopened : openedBy text = none) (rest : List Char) :
    entriesFrom none (Text.lines (text ++ '\n' :: rest)) =
      entriesFrom none (Text.lines text) ++ entriesFrom none (Text.lines rest) := by
  have happend (ls more : List (List Char)) (h : openedAfter none ls = none) :
      entriesFrom none (ls ++ more) = entriesFrom none ls ++ entriesFrom none more := by
    obtain ⟨completed, hc⟩ := exists_entriesFrom_append none ls
    have hls := hc []
    rw [h, List.append_nil, show entriesFrom none [] = [] from rfl, List.append_nil] at hls
    rw [hc, h, hls]
  obtain ⟨front, line, rfl, hfront, hline⟩ := Text.exists_eq_append_line text
  have hlast : line.getLast? ≠ some '\r' := by
    intro h
    exact hreturn (by rw [List.getLast?_append, h, Option.some_or])
  rw [List.append_assoc, Text.lines_append hfront, Text.lines_append_newline ⟨hline, hlast⟩]
  cases line with
  | nil =>
    -- the text ends in a line feed, and the further one makes a blank line
    rw [List.append_nil] at hopened ⊢
    rw [happend _ _ hopened, entriesFrom_cons]
    rfl
  | cons c line =>
    have hlines : Text.lines (front ++ c :: line) = Text.lines front ++ [c :: line] := by
      rw [Text.lines_append hfront, Text.lines_eq_singleton hline (List.cons_ne_nil c line)]
    rw [openedBy, hlines] at hopened
    rw [List.append_cons, hlines, happend _ _ hopened]

end PropertyText
end Activation
