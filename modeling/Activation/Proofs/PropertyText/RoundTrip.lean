import Activation.Proofs.PropertyText.Layout
import Activation.PropertyText.Entry

/-!
# What is written is read

Entries are written one to a line, with a backslash before every character that the reader
would take for something else.  The reader takes a text apart four times: into physical
lines, into logical ones, into keys and values, and into the characters for which they
stand.  Each time the escapes are what keeps the parts together.

* `escapeChar_cases`: the two ways in which a character is written.
* `unescape_escape`: what is escaped stands for what it was.
* `splitKey_escape_append`: an escaped key ends at the mark behind it.
* `isFolded_append_escape`: an escaped text ends in an even number of backslashes.
* `readEntries_writeEntries`: entries that are written are read back.
-/

namespace Activation
namespace PropertyText

/-! ## Escaped text -/

/-- A character that a key or a value may hold as it stands. -/
structure IsPlain (c : Char) : Prop where
  /-- It escapes nothing. -/
  ne_backslash : c ≠ '\\'
  /-- It does not separate a key from a value. -/
  isMark_eq : isMark c = false
  /-- It is no blank, and so it ends no line. -/
  isBlank_eq : Text.isBlank c = false
  /-- It begins no comment. -/
  ne_remark : c ≠ '#' ∧ c ≠ '!'

/-- What separates a key from its value is blank or a mark. -/
theorem isBlank_of_isGap {c : Char} (h : isGap c = true) : Text.isBlank c = true := by
  rw [isGap, Bool.or_eq_true, Bool.or_eq_true, beq_iff_eq, beq_iff_eq, beq_iff_eq] at h
  rcases h with (rfl | rfl) | rfl <;> rfl

theorem IsPlain.isGap_eq {c : Char} (h : IsPlain c) : isGap c = false := by
  rw [← Bool.not_eq_true]
  exact fun hg => Bool.false_ne_true (h.isBlank_eq.symm.trans (isBlank_of_isGap hg))

/-- A character that names none but itself. -/
theorem named_eq_self {c : Char} (h : c ∉ ['t', 'n', 'r', 'f']) : named c = c := by
  unfold named
  split <;> first | rfl | exact absurd (by decide) h

/-- **A character is written** as it stands or, behind a backslash, as another that names
it. -/
theorem escapeChar_cases (c : Char) :
    (escapeChar c = [c] ∧ IsPlain c) ∨
    ∃ d, escapeChar c = ['\\', d] ∧ named d = c ∧ d ≠ 'u' ∧ d ≠ '\n' ∧ d ≠ '\r' := by
  by_cases hbackslash : c = '\\'
  · exact .inr ⟨'\\', by rw [hbackslash]; rfl, by rw [hbackslash]; decide⟩
  by_cases hn : c = '\n'
  · exact .inr ⟨'n', by rw [hn]; rfl, by rw [hn]; decide⟩
  by_cases hr : c = '\r'
  · exact .inr ⟨'r', by rw [hr]; rfl, by rw [hr]; decide⟩
  by_cases ht : c = '\t'
  · exact .inr ⟨'t', by rw [ht]; rfl, by rw [ht]; decide⟩
  by_cases hf : c = formFeed
  · exact .inr ⟨'f', by rw [hf]; rfl, by rw [hf]; decide⟩
  rw [escapeChar, if_neg hbackslash, if_neg hn, if_neg hr, if_neg ht, if_neg hf]
  cases hspecial : (c = '=' || c = ':' || c = '#' || c = '!' || Text.isBlank c) with
  | true =>
    -- no letter is among the characters that name themselves
    have hletter : c ∉ ['t', 'n', 'r', 'f', 'u'] := by
      intro hc
      simp only [List.mem_cons, List.not_mem_nil, or_false] at hc
      rcases hc with rfl | rfl | rfl | rfl | rfl <;> exact absurd hspecial (by decide)
    have hself : named c = c := named_eq_self fun hc => hletter (by simp_all)
    exact .inr ⟨c, if_pos rfl, hself, fun hu => hletter (by simp [hu]), hn, hr⟩
  | false =>
    simp only [Bool.or_eq_false_iff, decide_eq_false_iff_not] at hspecial
    obtain ⟨⟨⟨⟨heq, hcolon⟩, hhash⟩, hbang⟩, hblank⟩ := hspecial
    refine .inl ⟨if_neg Bool.false_ne_true, hbackslash, ?_, hblank, hhash, hbang⟩
    rw [isMark, Bool.or_eq_false_iff, beq_eq_false_iff_ne, beq_eq_false_iff_ne]
    exact ⟨heq, hcolon⟩

theorem escape_cons (c : Char) (cs : List Char) : escape (c :: cs) = escapeChar c ++ escape cs :=
  List.flatMap_cons

/-- An escaped text begins with nothing that a line may not begin with. -/
theorem head_escape {c d : Char} {cs rest : List Char} (h : escape (c :: cs) = d :: rest) :
    Text.isBlank d = false ∧ d ≠ '#' ∧ d ≠ '!' := by
  rw [escape_cons] at h
  rcases escapeChar_cases c with ⟨hc, hplain⟩ | ⟨e, hc, -⟩
  · rw [hc, List.singleton_append, List.cons.injEq] at h
    exact h.1 ▸ ⟨hplain.isBlank_eq, hplain.ne_remark⟩
  · rw [hc, List.cons_append, List.cons.injEq] at h
    exact h.1 ▸ by decide

/-- An escaped text holds no line end. -/
theorem ne_of_mem_escape {cs : List Char} {d : Char} (h : d ∈ escape cs) :
    d ≠ '\n' ∧ d ≠ '\r' := by
  obtain ⟨c, -, hd⟩ := List.mem_flatMap.mp h
  rcases escapeChar_cases c with ⟨hc, hplain⟩ | ⟨e, hc, -, -, hn, hr⟩
  · rw [hc, List.mem_singleton] at hd
    have hblank := hd ▸ hplain.isBlank_eq
    exact ⟨by rintro rfl; exact absurd hblank (by decide),
      by rintro rfl; exact absurd hblank (by decide)⟩
  · rw [hc, List.mem_cons, List.mem_singleton] at hd
    rcases hd with rfl | rfl
    · decide
    · exact ⟨hn, hr⟩

/-! ## The characters that escaped text stands for -/

/-- A character that is no backslash stands for itself. -/
theorem unescape_cons {c : Char} (h : c ≠ '\\') (rest : List Char) :
    unescape (c :: rest) = c :: unescape rest := by
  rw [unescape]
  all_goals
    intros
    exact h ‹_›

/-- A character behind a backslash stands for what it names, unless it begins a number. -/
theorem unescape_backslash_cons {c : Char} (h : c ≠ 'u') (rest : List Char) :
    unescape ('\\' :: c :: rest) = named c :: unescape rest := by
  rw [unescape]
  exact h

/-- **What is escaped** stands for what it was. -/
theorem unescape_escape (cs : List Char) : unescape (escape cs) = cs := by
  induction cs with
  | nil => rw [escape, List.flatMap_nil, unescape]
  | cons c cs ih =>
    rw [escape_cons]
    rcases escapeChar_cases c with ⟨hc, hplain⟩ | ⟨d, hc, hnamed, hu, -⟩
    · rw [hc, List.singleton_append, unescape_cons hplain.ne_backslash, ih]
    · rw [hc, List.cons_append, List.singleton_append, unescape_backslash_cons hu, hnamed, ih]

/-! ## Keys and values -/

/-- A character that neither escapes nor separates belongs to the key. -/
theorem splitKey_cons {c : Char} (hbackslash : c ≠ '\\') (hmark : isMark c = false)
    (hgap : isGap c = false) (rest : List Char) :
    splitKey (c :: rest) = (c :: (splitKey rest).1, (splitKey rest).2) := by
  rw [splitKey, hmark, hgap]
  · rfl
  · exact fun _ _ h => absurd h hbackslash

/-- An escaped key ends at the mark behind it. -/
theorem splitKey_escape_append (cs rest : List Char) :
    splitKey (escape cs ++ '=' :: rest) = (escape cs, '=' :: rest) := by
  induction cs with
  | nil => rfl
  | cons c cs ih =>
    rw [escape_cons]
    rcases escapeChar_cases c with ⟨hc, hplain⟩ | ⟨d, hc, -⟩
    · rw [hc, List.singleton_append, List.cons_append,
        splitKey_cons hplain.ne_backslash hplain.isMark_eq hplain.isGap_eq, ih]
    · rw [hc, List.cons_append, List.singleton_append, List.cons_append, List.cons_append,
        splitKey, ih]

/-- An escaped value begins right behind the mark. -/
theorem dropSeparator_escape (cs : List Char) : dropSeparator ('=' :: escape cs) = escape cs := by
  have hgap : (escape cs).dropWhile isGap = escape cs := by
    cases cs with
    | nil => rfl
    | cons c cs =>
      cases hd : escape (c :: cs) with
      | nil => rfl
      | cons d rest =>
        refine List.dropWhile_cons_of_neg fun hg => ?_
        exact Bool.false_ne_true ((head_escape hd).1.symm.trans (isBlank_of_isGap hg))
  exact hgap

/-! ## Written lines -/

/-- An escaped text ends in an even number of backslashes. -/
theorem isFolded_append_escape {front : List Char} (h : isFolded front = false) (cs : List Char) :
    isFolded (front ++ escape cs) = false := by
  induction cs generalizing front with
  | nil => rwa [escape, List.flatMap_nil, List.append_nil]
  | cons c cs ih =>
    rw [escape_cons, ← List.append_assoc]
    refine ih ?_
    rcases escapeChar_cases c with ⟨hc, hplain⟩ | ⟨d, hc, -⟩
    · rw [hc, isFolded_append_of_ne front hplain.ne_backslash]
    · by_cases hd : d = '\\'
      · rw [hc, hd, isFolded_append_backslashes, h]
      · rw [hc, ← List.singleton_append, ← List.append_assoc, isFolded_append_of_ne _ hd]

section WriteEntry

variable (entry : String × String)

/-- A written line begins with nothing that a line may not begin with. -/
theorem exists_writeEntry_eq_cons : ∃ d rest, writeEntry entry = d :: rest ∧
    Text.isBlank d = false ∧ d ≠ '#' ∧ d ≠ '!' := by
  rw [writeEntry]
  cases hkey : entry.1.toList with
  | nil => exact ⟨'=', _, rfl, by decide⟩
  | cons c cs =>
    cases hd : escape (c :: cs) with
    | nil => exact ⟨'=', _, rfl, by decide⟩
    | cons d rest => exact ⟨d, _, rfl, head_escape hd⟩

theorem isLine_writeEntry : Text.IsLine (writeEntry entry) := by
  have hmem : ∀ d ∈ writeEntry entry, d ≠ '\n' ∧ d ≠ '\r' := by
    intro d hd
    rw [writeEntry, List.mem_append, List.mem_cons] at hd
    rcases hd with hd | rfl | hd
    · exact ne_of_mem_escape hd
    · decide
    · exact ne_of_mem_escape hd
  exact ⟨fun hn => (hmem _ hn).1 rfl, fun hr => (hmem _ (List.mem_of_getLast? hr)).2 rfl⟩

theorem stripStart_writeEntry : Text.stripStart (writeEntry entry) = writeEntry entry := by
  obtain ⟨d, rest, hwritten, hblank, -⟩ := exists_writeEntry_eq_cons entry
  rw [hwritten, Text.stripStart, List.dropWhile_cons_of_neg (Bool.eq_false_iff.mp hblank)]

theorem isRemark_writeEntry : isRemark (writeEntry entry) = false := by
  obtain ⟨d, rest, hwritten, -, hhash, hbang⟩ := exists_writeEntry_eq_cons entry
  rw [isRemark, stripStart_writeEntry, hwritten]
  exact Bool.or_eq_false_iff.mpr ⟨beq_eq_false_iff_ne.mpr hhash, beq_eq_false_iff_ne.mpr hbang⟩

theorem isFolded_writeEntry : isFolded (writeEntry entry) = false := by
  rw [writeEntry, ← List.singleton_append, ← List.append_assoc]
  exact isFolded_append_escape (isFolded_append_of_ne _ (by decide)) _

/-- The entry on a written line is the one that was written. -/
theorem readEntry?_writeEntry : readEntry? (writeEntry entry) = some entry := by
  obtain ⟨d, rest, hwritten, -⟩ := exists_writeEntry_eq_cons entry
  have hsplit : splitKey (d :: rest) =
      (escape entry.1.toList, '=' :: escape entry.2.toList) := by
    rw [← hwritten, writeEntry, splitKey_escape_append]
  unfold readEntry?
  rw [stripStart_writeEntry, hwritten]
  simp only [hsplit, dropSeparator_escape, unescape_escape, String.ofList_toList]

end WriteEntry

/-- Written lines are read as the lines that were written. -/
theorem logicalLines_writeEntries (entries : List (String × String)) :
    logicalLines (writeEntries entries).toList = entries.map writeEntry := by
  have hne : ∀ entry, writeEntry entry ≠ [] := by
    intro entry
    obtain ⟨d, rest, hwritten, -⟩ := exists_writeEntry_eq_cons entry
    exact hwritten ▸ List.cons_ne_nil d rest
  rw [logicalLines, writeEntries, String.toList_ofList, Text.lines_intercalate
    (List.forall_mem_map.mpr fun entry _ => isLine_writeEntry entry)
    (List.forall_mem_map.mpr fun entry _ => hne entry)]
  exact joinLines_eq_self (List.forall_mem_map.mpr fun entry _ => isRemark_writeEntry entry)
    (List.forall_mem_map.mpr fun entry _ => isFolded_writeEntry entry)

/-- **Entries that are written are read back**, in order and with repetitions, whatever
characters are in their keys and values. -/
theorem readEntries_writeEntries (entries : List (String × String)) :
    readEntries (writeEntries entries) = entries := by
  rw [readEntries, logicalLines_writeEntries, List.filterMap_map]
  exact (List.filterMap_congr fun entry _ => readEntry?_writeEntry entry).trans
    List.filterMap_some

end PropertyText
end Activation
