import Activation.Proofs.PropertyText.RoundTrip
import Mathlib.Data.List.Forall2
import Mathlib.Data.Nat.Digits.Defs

/-!
# Characters written as numbers

A backslash and a `u` are followed by a group of up to four characters.  If the group
writes the number of a character, the escape stands for that character; otherwise the `u`
and the group are kept.  What a text stands for therefore hangs on one question, which
groups write a character, and `StandsFor` leaves that question open.

Two answers are compared.  A group is complete if it is four hexadecimal digits
(`IsComplete`).  The reader also admits a group with a plus sign in front of its digits, and
one that the end of the text has cut short (`IsAdmitted`); these groups are loose
(`IsLoose`).

* `Text.digitOf?_eq_some_iff`, `Text.readNat?_eq_some_iff`: which digits are read, and as
  which number.
* `numbered?_eq_some_iff`: the groups that the reader admits.
* `unescape_eq_iff_of_agreesOn`: a text stands for what is read, for any answer that agrees
  with the reader on the groups of that text (`Holds`).
* `length_unescape_le`: what is read is never longer than what a text stands for if only
  complete groups count, and a loose group makes it shorter.
* `unescape_eq_iff_standsFor`: the two answers.  If only complete groups count, the texts that
  stand for what is read, and for nothing else, are those without loose groups.
* `unescape_loose`: a text for each of the two kinds of loose groups.
-/

namespace Activation

/-! ## Hexadecimal digits -/

namespace Text

/-- The hexadecimal digits in the order of their values, with small letters. -/
def smallFigures : List Char := "0123456789abcdef".toList

/-- The hexadecimal digits in the order of their values, with capital letters. -/
def largeFigures : List Char := "0123456789ABCDEF".toList

/-- **A hexadecimal digit** of a given value. -/
def IsHexDigit (c : Char) (value : Nat) : Prop :=
  smallFigures[value]? = some c ∨ largeFigures[value]? = some c

instance (c : Char) (value : Nat) : Decidable (IsHexDigit c value) :=
  inferInstanceAs (Decidable (_ ∨ _))

/-- **Hexadecimal digits that write a number**, the first weighing most. -/
def WritesHex (digits : List Char) (n : Nat) : Prop :=
  ∃ values, List.Forall₂ IsHexDigit digits values ∧ Nat.ofDigits 16 values.reverse = n

theorem IsHexDigit.lt {c : Char} {value : Nat} (h : IsHexDigit c value) : value < 16 := by
  rcases h with h | h <;> exact (List.getElem?_eq_some_iff.mp h).1

theorem IsHexDigit.toNat_lt {c : Char} {value : Nat} (h : IsHexDigit c value) :
    c.toNat < 128 := by
  have hall : (smallFigures ++ largeFigures).all (fun d => d.toNat < 128) = true := by decide
  have hmem : c ∈ smallFigures ++ largeFigures :=
    List.mem_append.mpr (h.imp List.mem_of_getElem? List.mem_of_getElem?)
  exact of_decide_eq_true (List.all_eq_true.mp hall c hmem)

theorem toNat_lt_of_digitOf? {c : Char} {value : Nat} (h : digitOf? 16 c = some value) :
    c.toNat < 128 := by
  obtain ⟨hvalue, -⟩ := Option.filter_eq_some_iff.mp h
  have hletter : c ≤ '9' ∨ c ≤ 'z' ∨ c ≤ 'Z' := by
    unfold digitValue? at hvalue
    split at hvalue
    · next hc => exact .inl hc.2
    · split at hvalue
      · next hc => exact .inr (.inl hc.2)
      · split at hvalue
        · next hc => exact .inr (.inr hc.2)
        · exact nomatch hvalue
  have hbelow : ∀ d : Char, d.toNat < 128 → c ≤ d → c.toNat < 128 :=
    fun d hd hc => Nat.lt_of_le_of_lt hc hd
  rcases hletter with hc | hc | hc <;> exact hbelow _ (by decide) hc

/-- A number of fewer than four digits. -/
theorem WritesHex.lt {digits : List Char} {n : Nat} (h : WritesHex digits n)
    (hlength : digits.length < 4) : n < 4096 := by
  obtain ⟨values, hall, rfl⟩ := h
  have hvalues : ∀ value ∈ values.reverse, value < 16 := by
    intro value hv
    rw [List.mem_reverse] at hv
    induction hall with
    | nil => cases hv
    | cons hdigit _ ih =>
      rcases List.mem_cons.mp hv with rfl | hv
      · exact hdigit.lt
      · exact ih (Nat.lt_of_succ_lt hlength) hv
  have hcount : values.reverse.length ≤ 3 := by
    rw [List.length_reverse, ← hall.length_eq]
    omega
  calc Nat.ofDigits 16 values.reverse
      < 16 ^ values.reverse.length := Nat.ofDigits_lt_base_pow_length (by decide) hvalues
    _ ≤ 16 ^ 3 := Nat.pow_le_pow_right (by decide) hcount

/-- **The hexadecimal digits are the sixteen figures**, of either case. -/
theorem digitOf?_eq_some_iff {c : Char} {value : Nat} :
    digitOf? 16 c = some value ↔ IsHexDigit c value := by
  -- beyond the characters of ASCII there is nothing on either side
  have hascii : ∀ n < 128, ∀ v < 16,
      digitOf? 16 (Char.ofNat n) = some v ↔ IsHexDigit (Char.ofNat n) v := by
    decide +kernel
  constructor
  · intro h
    have hv : value < 16 := by simpa using (Option.filter_eq_some_iff.mp h).2
    have hc := hascii c.toNat (toNat_lt_of_digitOf? h) value hv
    rw [Char.ofNat_toNat] at hc
    exact hc.mp h
  · intro h
    have hc := hascii c.toNat h.toNat_lt value h.lt
    rw [Char.ofNat_toNat] at hc
    exact hc.mpr h

/-- Digits behind a number are read as digits that weigh less. -/
theorem accumulate?_eq_some_iff {n m : Nat} {digits : List Char} :
    accumulate? 16 n digits = some m ↔
      ∃ values, List.Forall₂ IsHexDigit digits values ∧
        values.foldl (fun total value => total * 16 + value) n = m := by
  induction digits generalizing n with
  | nil =>
    rw [accumulate?, Option.some.injEq]
    constructor
    · exact fun hm => ⟨[], .nil, hm⟩
    · rintro ⟨values, hall, hm⟩
      cases hall
      exact hm
  | cons c digits ih =>
    rw [accumulate?, Option.bind_eq_some_iff]
    constructor
    · rintro ⟨value, hvalue, hrest⟩
      obtain ⟨values, hall, hm⟩ := ih.mp hrest
      exact ⟨value :: values, .cons (digitOf?_eq_some_iff.mp hvalue) hall, hm⟩
    · rintro ⟨values, hall, hm⟩
      cases hall with
      | cons hvalue hall => exact ⟨_, digitOf?_eq_some_iff.mpr hvalue, ih.mpr ⟨_, hall, hm⟩⟩

/-- **What is read as a hexadecimal number** is one digit or more. -/
theorem readNat?_eq_some_iff {n : Nat} {digits : List Char} :
    readNat? 16 digits = some n ↔ digits ≠ [] ∧ WritesHex digits n := by
  have hfold : ∀ values : List Nat, Nat.ofDigits 16 values.reverse =
      values.foldl (fun total value => total * 16 + value) 0 := by
    intro values
    rw [Nat.ofDigits_eq_foldr, List.foldr_reverse]
    congr
    funext total value
    rw [Nat.cast_id, Nat.mul_comm, Nat.add_comm]
  cases digits with
  | nil => simp [readNat?]
  | cons c digits =>
    rw [readNat?, if_neg (by simp), accumulate?_eq_some_iff]
    simp only [WritesHex, hfold, ne_eq, reduceCtorEq, not_false_eq_true, true_and]

theorem scalar?_eq_some_iff {n : Nat} {c : Char} : scalar? n = some c ↔ c.toNat = n := by
  rw [scalar?]
  split
  · next hn =>
    rw [Option.some.injEq]
    constructor
    · rintro rfl
      rw [Char.ofNat, dif_pos hn]
      rfl
    · rintro rfl
      exact Char.ofNat_toNat c
  · next hn =>
    simp only [reduceCtorEq, false_iff]
    rintro rfl
    exact hn c.valid

end Text

namespace PropertyText

open Text

/-! ## Groups that write a character -/

/-- **A complete group**: four hexadecimal digits, which write the number of the
character. -/
structure IsComplete (digits : List Char) (c : Char) : Prop where
  /-- There are four characters. -/
  length_eq : digits.length = 4
  /-- They are digits and write the number of the character. -/
  writes : WritesHex digits c.toNat

/-- **A group that the reader admits**: one hexadecimal digit or more, perhaps behind a plus
sign, which write the number of the character. -/
inductive IsAdmitted : List Char → Char → Prop
  | plain {digits : List Char} {c : Char} :
      digits ≠ [] → WritesHex digits c.toNat → IsAdmitted digits c
  | signed {digits : List Char} {c : Char} :
      digits ≠ [] → WritesHex digits c.toNat → IsAdmitted ('+' :: digits) c

/-- **A loose group**: digits behind a plus sign, or digits that are fewer than four. -/
inductive IsLoose : List Char → Prop
  | signed {digits : List Char} {n : Nat} :
      digits ≠ [] → WritesHex digits n → IsLoose ('+' :: digits)
  | short {digits : List Char} {n : Nat} :
      digits ≠ [] → digits.length < 4 → WritesHex digits n → IsLoose digits

/-- An admitted group is not empty. -/
theorem IsAdmitted.ne_nil {digits : List Char} {c : Char} (h : IsAdmitted digits c) :
    digits ≠ [] := by
  cases h with
  | plain hne => exact hne
  | signed => exact List.cons_ne_nil _ _

/-- No number begins with a plus sign. -/
theorem not_writesHex_plus (digits : List Char) (n : Nat) : ¬WritesHex ('+' :: digits) n := by
  rintro ⟨values, hall, -⟩
  cases hall with
  | cons hplus _ => exact absurd (digitOf?_eq_some_iff.mpr hplus) (by simp [digitOf?, digitValue?])

/-- The number of a group, a plus sign in front of it apart. -/
theorem hexNumber?_eq_some_iff {digits : List Char} {n : Nat} :
    hexNumber? digits = some n ↔
      (digits ≠ [] ∧ WritesHex digits n) ∨
        ∃ rest, digits = '+' :: rest ∧ rest ≠ [] ∧ WritesHex rest n := by
  unfold hexNumber?
  split
  · next rest =>
    rw [readNat?_eq_some_iff]
    constructor
    · exact fun h => .inr ⟨rest, rfl, h⟩
    · rintro (⟨-, h⟩ | ⟨rest', heq, h⟩)
      · exact absurd h (not_writesHex_plus rest n)
      · exact (List.cons.inj heq).2 ▸ h
  · next hsign =>
    rw [readNat?_eq_some_iff]
    exact ⟨.inl, fun h => h.resolve_right fun ⟨rest, heq, _⟩ => hsign rest heq⟩

/-- **The groups that the reader admits**, and the characters that it reads. -/
theorem numbered?_eq_some_iff {digits : List Char} {c : Char} :
    numbered? digits = some c ↔ IsAdmitted digits c := by
  rw [numbered?, Option.bind_eq_some_iff]
  constructor
  · rintro ⟨n, hn, hc⟩
    obtain rfl := scalar?_eq_some_iff.mp hc
    rcases hexNumber?_eq_some_iff.mp hn with ⟨hne, h⟩ | ⟨rest, rfl, hne, h⟩
    · exact .plain hne h
    · exact .signed hne h
  · intro h
    refine ⟨c.toNat, hexNumber?_eq_some_iff.mpr ?_, scalar?_eq_some_iff.mpr rfl⟩
    cases h with
    | plain hne h => exact .inl ⟨hne, h⟩
    | signed hne h => exact .inr ⟨_, rfl, hne, h⟩

/-- A complete group is admitted. -/
theorem IsComplete.isAdmitted {digits : List Char} {c : Char} (h : IsComplete digits c) :
    IsAdmitted digits c := by
  refine .plain ?_ h.writes
  rintro rfl
  exact absurd h.length_eq (by decide)

/-- A complete group is not loose. -/
theorem IsComplete.not_isLoose {digits : List Char} {c : Char} (h : IsComplete digits c) :
    ¬IsLoose digits := by
  intro hloose
  cases hloose with
  | signed => exact not_writesHex_plus _ _ h.writes
  | short _ hlt =>
    have hfour := h.length_eq
    omega

/-- Loose groups apart, the groups that the reader admits are the complete ones. -/
theorem isAdmitted_iff_isComplete {digits : List Char} (hlength : digits.length ≤ 4)
    (hloose : ¬IsLoose digits) {c : Char} : IsAdmitted digits c ↔ IsComplete digits c := by
  constructor
  · intro h
    cases h with
    | plain hne h =>
      have hfour : ¬digits.length < 4 := fun hlt => hloose (.short hne hlt h)
      exact ⟨by omega, h⟩
    | signed hne h => exact absurd (.signed hne h) hloose
  · exact IsComplete.isAdmitted

/-- **A loose group is admitted**, since a number of three digits is always the number of a
character. -/
theorem IsLoose.exists_isAdmitted {digits : List Char} (hlength : digits.length ≤ 4)
    (h : IsLoose digits) : ∃ c, IsAdmitted digits c := by
  have hchar : ∀ {hex : List Char} {n : Nat}, hex.length < 4 → WritesHex hex n →
      ∃ c : Char, WritesHex hex c.toNat := by
    intro hex n hlt hwrites
    have hn : n.isValidChar := .inl (lt_trans (hwrites.lt hlt) (by decide))
    exact ⟨Char.ofNat n, by rwa [scalar?_eq_some_iff.mp (if_pos hn)]⟩
  cases h with
  | signed hne h =>
    obtain ⟨c, hc⟩ := hchar (Nat.lt_of_succ_le hlength) h
    exact ⟨c, .signed hne hc⟩
  | short hne hlt h =>
    obtain ⟨c, hc⟩ := hchar hlt h
    exact ⟨c, .plain hne hc⟩

/-! ## What a text stands for -/

/-- **What a text stands for**, given which groups write which character.  A group holds the
next four characters, or all that are left; whatever is made of it, the text goes on behind
it. -/
inductive StandsFor (writes : List Char → Char → Prop) : List Char → List Char → Prop
  | nil : StandsFor writes [] []
  | dangling : StandsFor writes ['\\'] []
  | plain {c : Char} {rest text : List Char} :
      c ≠ '\\' → StandsFor writes rest text → StandsFor writes (c :: rest) (c :: text)
  | named {c : Char} {rest text : List Char} :
      c ≠ 'u' → StandsFor writes rest text →
        StandsFor writes ('\\' :: c :: rest) (named c :: text)
  | numbered {c : Char} {rest text : List Char} :
      writes (rest.take 4) c → StandsFor writes (rest.drop 4) text →
        StandsFor writes ('\\' :: 'u' :: rest) (c :: text)
  | kept {rest text : List Char} :
      (∀ c, ¬writes (rest.take 4) c) → StandsFor writes (rest.drop 4) text →
        StandsFor writes ('\\' :: 'u' :: rest) ('u' :: (rest.take 4 ++ text))

/-- **A text holds a group**: reading it, one comes to a numeric escape with that group. -/
inductive Holds : List Char → List Char → Prop
  | here {rest : List Char} : Holds ('\\' :: 'u' :: rest) (rest.take 4)
  | behind {rest digits : List Char} :
      Holds (rest.drop 4) digits → Holds ('\\' :: 'u' :: rest) digits
  | plain {c : Char} {rest digits : List Char} :
      c ≠ '\\' → Holds rest digits → Holds (c :: rest) digits
  | named {c : Char} {rest digits : List Char} :
      c ≠ 'u' → Holds rest digits → Holds ('\\' :: c :: rest) digits

theorem Holds.length_le {raw digits : List Char} (h : Holds raw digits) : digits.length ≤ 4 := by
  induction h with
  | here => exact List.length_take_le 4 _
  | behind _ ih => exact ih
  | plain _ _ ih => exact ih
  | named _ _ ih => exact ih

theorem holds_numbered_iff {rest digits : List Char} :
    Holds ('\\' :: 'u' :: rest) digits ↔ digits = rest.take 4 ∨ Holds (rest.drop 4) digits := by
  constructor
  · intro h
    cases h with
    | here => exact .inl rfl
    | behind h => exact .inr h
    | plain hc => exact absurd rfl hc
    | named hu => exact absurd rfl hu
  · rintro (rfl | h)
    · exact .here
    · exact .behind h

/-- An escape that begins with a number. -/
theorem unescape_numbered {rest : List Char} {c : Char} (h : numbered? (rest.take 4) = some c) :
    unescape ('\\' :: 'u' :: rest) = c :: unescape (rest.drop 4) := by
  rw [unescape]
  simp only [h]

/-- An escape that begins with no number. -/
theorem unescape_kept {rest : List Char} (h : numbered? (rest.take 4) = none) :
    unescape ('\\' :: 'u' :: rest) = 'u' :: (rest.take 4 ++ unescape (rest.drop 4)) := by
  rw [unescape]
  simp only [h]

section Agreement

variable {writes : List Char → Char → Prop} {raw : List Char}

/-- The reader and an answer to which groups write a character agree on the groups that a text
holds. -/
def AgreesOn (writes : List Char → Char → Prop) (raw : List Char) : Prop :=
  ∀ digits, Holds raw digits → ∀ c, numbered? digits = some c ↔ writes digits c

/-- A text stands for what is read. -/
theorem standsFor_unescape (h : AgreesOn writes raw) : StandsFor writes raw (unescape raw) := by
  induction raw using unescape.induct with
  | case1 => rw [unescape]; exact .nil
  | case2 => rw [unescape]; exact .dangling
  | case3 rest digits c hc ih =>
    rw [unescape_numbered hc]
    exact .numbered ((h _ .here c).mp hc) (ih fun digits hd => h digits (.behind hd))
  | case4 rest digits hnone ih =>
    rw [unescape_kept hnone]
    refine .kept (fun c hc => ?_) (ih fun digits hd => h digits (.behind hd))
    have hsome := (h _ .here c).mpr hc
    exact absurd (hnone.symm.trans hsome) (Option.some_ne_none c).symm
  | case5 c rest hu ih =>
    rw [unescape_backslash_cons hu]
    exact .named hu (ih fun digits hd => h digits (.named hu hd))
  | case6 c rest hlast _ hnext ih =>
    have hc : c ≠ '\\' := by
      rintro rfl
      cases rest with
      | nil => exact hlast rfl rfl
      | cons d rest => exact hnext d rest rfl rfl
    rw [unescape_cons hc]
    exact .plain hc (ih fun digits hd => h digits (.plain hc hd))

/-- What a text stands for is read. -/
theorem StandsFor.unescape_eq {text : List Char} (hs : StandsFor writes raw text)
    (h : AgreesOn writes raw) : unescape raw = text := by
  induction hs with
  | nil => rw [unescape]
  | dangling => rw [unescape]
  | plain hc _ ih => rw [unescape_cons hc, ih fun digits hd => h digits (.plain hc hd)]
  | named hu _ ih => rw [unescape_backslash_cons hu, ih fun digits hd => h digits (.named hu hd)]
  | @numbered c rest text hc _ ih =>
    rw [unescape_numbered ((h _ .here c).mpr hc), ih fun digits hd => h digits (.behind hd)]
  | @kept rest text hnone _ ih =>
    have hn : numbered? (rest.take 4) = none := by
      refine Option.eq_none_iff_forall_ne_some.mpr fun c hc => ?_
      exact hnone c ((h _ .here c).mp hc)
    rw [unescape_kept hn, ih fun digits hd => h digits (.behind hd)]

/-- **A text stands for what is read, and for nothing else**, as long as its groups are
judged as the reader judges them. -/
theorem unescape_eq_iff_of_agreesOn (h : AgreesOn writes raw) (text : List Char) :
    unescape raw = text ↔ StandsFor writes raw text :=
  ⟨fun heq => heq ▸ standsFor_unescape h, fun hs => hs.unescape_eq h⟩

end Agreement

/-! ## Texts with loose groups -/

/-- **A loose group makes what is read shorter** than what the text stands for if only complete
groups count: it is read as one character, and otherwise it is kept. -/
theorem length_unescape_le {raw text : List Char} (h : StandsFor IsComplete raw text) :
    (unescape raw).length ≤ text.length ∧
      ∀ digits, Holds raw digits → IsLoose digits → (unescape raw).length < text.length := by
  induction h with
  | nil =>
    refine ⟨by rw [unescape], ?_⟩
    intro digits hd
    cases hd
  | dangling =>
    refine ⟨by rw [unescape], ?_⟩
    intro digits hd
    cases hd with
    | plain hc => exact absurd rfl hc
  | @plain c rest text hc _ ih =>
    rw [unescape_cons hc, List.length_cons, List.length_cons]
    refine ⟨Nat.succ_le_succ ih.1, fun digits hd hloose => ?_⟩
    cases hd with
    | here => exact absurd rfl hc
    | behind => exact absurd rfl hc
    | plain _ hd => exact Nat.succ_lt_succ (ih.2 digits hd hloose)
    | named => exact absurd rfl hc
  | @named c rest text hu _ ih =>
    rw [unescape_backslash_cons hu, List.length_cons, List.length_cons]
    refine ⟨Nat.succ_le_succ ih.1, fun digits hd hloose => ?_⟩
    cases hd with
    | here => exact absurd rfl hu
    | behind => exact absurd rfl hu
    | plain hc => exact absurd rfl hc
    | named _ hd => exact Nat.succ_lt_succ (ih.2 digits hd hloose)
  | @numbered c rest text hc _ ih =>
    rw [unescape_numbered (numbered?_eq_some_iff.mpr hc.isAdmitted), List.length_cons,
      List.length_cons]
    refine ⟨Nat.succ_le_succ ih.1, fun digits hd hloose => ?_⟩
    rcases holds_numbered_iff.mp hd with rfl | hd
    · exact absurd hloose hc.not_isLoose
    · exact Nat.succ_lt_succ (ih.2 digits hd hloose)
  | @kept rest text _ _ ih =>
    cases hread : numbered? (rest.take 4) with
    | some c =>
      -- the group is read although it is not complete, and it is not empty
      have hlength : 0 < (rest.take 4).length :=
        List.length_pos_of_ne_nil (numbered?_eq_some_iff.mp hread).ne_nil
      rw [unescape_numbered hread]
      simp only [List.length_cons, List.length_append]
      refine ⟨?_, fun _ _ _ => ?_⟩ <;> omega
    | none =>
      rw [unescape_kept hread]
      simp only [List.length_cons, List.length_append]
      refine ⟨by omega, fun digits hd hloose => ?_⟩
      rcases holds_numbered_iff.mp hd with rfl | hd
      · obtain ⟨c, hc⟩ := hloose.exists_isAdmitted (List.length_take_le 4 rest)
        have hsome := numbered?_eq_some_iff.mpr hc
        exact absurd (hread.symm.trans hsome) (Option.some_ne_none c).symm
      · have hlt := ih.2 digits hd hloose
        omega

/-- **Which numbers are read.**  If the groups count that the reader admits, every text stands
for what is read and for nothing else.  If only complete groups count, this is so of the texts
that hold no loose group, and of no others. -/
theorem unescape_eq_iff_standsFor (raw : List Char) :
    (∀ text, unescape raw = text ↔ StandsFor IsAdmitted raw text) ∧
    ((∀ text, unescape raw = text ↔ StandsFor IsComplete raw text) ↔
      ∀ digits, Holds raw digits → ¬IsLoose digits) := by
  constructor
  · exact unescape_eq_iff_of_agreesOn fun digits _ c => numbered?_eq_some_iff
  · constructor
    · intro h digits hd hloose
      have hstands : StandsFor IsComplete raw (unescape raw) := (h _).mp rfl
      exact absurd ((length_unescape_le hstands).2 digits hd hloose) (Nat.lt_irrefl _)
    · intro hloose
      refine unescape_eq_iff_of_agreesOn fun digits hd c => ?_
      rw [numbered?_eq_some_iff]
      exact isAdmitted_iff_isComplete hd.length_le (hloose digits hd)

/-- **Loose groups are read as numbers**: a plus sign with three digits behind it, and two
digits at the end of a text.  Neither text stands for what is read if only complete groups
count. -/
theorem unescape_loose :
    (unescape ['\\', 'u', '+', '0', '4', '1'] = ['A'] ∧
      ¬StandsFor IsComplete ['\\', 'u', '+', '0', '4', '1']
        (unescape ['\\', 'u', '+', '0', '4', '1'])) ∧
    (unescape ['\\', 'u', '4', '1'] = ['A'] ∧
      ¬StandsFor IsComplete ['\\', 'u', '4', '1'] (unescape ['\\', 'u', '4', '1'])) := by
  have hsigned : unescape ['\\', 'u', '+', '0', '4', '1'] = ['A'] := by
    rw [unescape_numbered (c := 'A') (by decide)]
    simp [unescape]
  have hshort : unescape ['\\', 'u', '4', '1'] = ['A'] := by
    rw [unescape_numbered (c := 'A') (by decide)]
    simp [unescape]
  refine ⟨⟨hsigned, fun h => ?_⟩, hshort, fun h => ?_⟩
  · rw [hsigned] at h
    cases h with
    | numbered hc => exact not_writesHex_plus _ _ hc.writes
  · rw [hshort] at h
    cases h with
    | numbered hc => exact absurd hc.length_eq (by decide)

end PropertyText
end Activation
