import ClientGem.Proofs.Ruby.Balance
import ClientGem.Proofs.Ruby.Value
import Mathlib.Data.List.Basic

/-!
Lines with a name or a text put into them. A line whose beginning and whose end are fixed is told
from one that opens or closes a block, whatever stands between the two.
-/

namespace ClientGem.Ruby

/-- Whatever begins so, neither its first word opens a block nor does it close one. -/
def beginsPlain (start : String) : Bool :=
  start.toList.head? != some ' ' && !start.toList.isPrefixOf "end".toList &&
    openings.all fun opening =>
      !opening.isPrefixOf start.toList && !start.toList.isPrefixOf opening

def endsPlain (last : String) : Bool :=
  match last.toList.getLast? with
  | some c => c != 'o' && c != '|'
  | none => false

section Ends

variable {code : List Char}

theorem endsInDo_iff : endsInDo code = true ↔ " do".toList <:+ code ∨
    ∃ name, isPlainSymbol name = true ∧ " do |".toList ++ name.toList ++ ['|'] <:+ code := by
  unfold endsInDo
  rw [Bool.or_eq_true, Bool.and_eq_true, List.isSuffixOf_iff_suffix, List.isSuffixOf_iff_suffix]
  refine or_congr_right ⟨?_, ?_⟩
  · rintro ⟨plain, isSuffix⟩
    have spelled : (String.ofList (lastName code)).toList = lastName code := String.toList_ofList
    rw [← spelled] at isSuffix
    exact ⟨_, plain, isSuffix⟩
  · rintro ⟨name, plain, before, whole⟩
    have word : lastName code = name.toList := by
      have reversed : code.dropLast.reverse =
          name.toList.reverse ++ '|' :: (before ++ " do ".toList).reverse := by
        rw [← whole, ← List.append_assoc, List.dropLast_concat]
        simp
      rw [lastName, reversed, List.takeWhile_append_of_pos, List.takeWhile_cons_of_neg (by decide),
        List.append_nil, List.reverse_reverse]
      intro c member
      exact (Token.wordChars_of_isPlainSymbol plain).2 c (List.mem_reverse.mp member)
    rw [word, String.ofList_toList]
    exact ⟨plain, before, whole⟩

/-- What stands in front of a block that is opened at the end does not matter. -/
theorem endsInDo_append {last : List Char} (front : List Char) (opens : endsInDo last = true) :
    endsInDo (front ++ last) = true := by
  have further : last <:+ front ++ last := List.suffix_append front last
  rw [endsInDo_iff] at opens ⊢
  rcases opens with bare | ⟨name, plain, named⟩
  · exact .inl (bare.trans further)
  · exact .inr ⟨name, plain, named.trans further⟩

theorem endsInDo_of_getLast {c : Char} (last : code.getLast? = some c) (noDo : c ≠ 'o')
    (noBar : c ≠ '|') : endsInDo code = false := by
  rw [Bool.eq_false_iff, Ne, endsInDo_iff]
  rintro (⟨before, rfl⟩ | ⟨name, -, before, rfl⟩)
  · have same : some 'o' = some c := by simpa using last
    exact noDo (Option.some.inj same).symm
  · rw [← List.append_assoc, List.getLast?_concat] at last
    exact noBar (Option.some.inj last).symm

/-- A name at the end opens no block unless a blank stands before it. -/
theorem endsInDo_append_word {front word : List Char} {c : Char}
    (each : ∀ d ∈ word, isWordChar d = true) (other : isWordChar c = false) (noBlank : c ≠ ' ')
    (noBar : c ≠ '|') : endsInDo (front ++ c :: word) = false := by
  have bare : " do".toList = [' ', 'd', 'o'] := rfl
  rw [Bool.eq_false_iff, Ne, endsInDo_iff, bare]
  rintro (⟨before, whole⟩ | ⟨name, -, before, whole⟩)
  · rcases List.append_eq_append_iff.mp whole with ⟨mid, -, same⟩ | ⟨mid, -, same⟩
    · rcases mid with - | ⟨_, - | ⟨_, - | ⟨_, mid⟩⟩⟩ <;> simp at same
      · exact noBlank same.1.symm
      · rw [← same.2.1] at other
        cases other
      · rw [← same.2.2.1] at other
        cases other
    · cases mid with
      | nil => exact noBlank (List.cons.inj same).1
      | cons d mid =>
        have inWord : ' ' ∈ word := by
          rw [(List.cons.inj same).2]
          simp
        exact absurd (each ' ' inWord) (by decide)
  · have last : (front ++ c :: word).getLast? = some '|' := by
      rw [← whole, ← List.append_assoc, List.getLast?_concat]
    have member : '|' ∈ c :: word := by
      rw [List.getLast?_append, List.getLast?_cons, Option.some_or, ← List.getLast?_cons] at last
      exact List.mem_of_getLast? last
    rcases List.mem_cons.mp member with same | inWord
    · exact noBar same.symm
    · exact absurd (each '|' inWord) (by decide)

end Ends

theorem endsInDo_of_endsPlain {front last : String} (ends : endsPlain last = true) :
    endsInDo (front ++ last).toList = false := by
  unfold endsPlain at ends
  cases found : last.toList.getLast? with
  | none => simp [found] at ends
  | some c =>
    obtain ⟨noDo, noBar⟩ : c ≠ 'o' ∧ c ≠ '|' := by simpa [found] using ends
    have same : (front ++ last).toList.getLast? = some c := by
      rw [String.toList_append, List.getLast?_append, found]
      rfl
    exact endsInDo_of_getLast same noDo noBar

theorem isPlain_of_begins {text : String} (start : String)
    (begins : start.toList <+: text.toList) (fixed : beginsPlain start = true)
    (ends : endsInDo text.toList = false) (unbroken : '\n' ∉ text.toList) : IsPlain text := by
  obtain ⟨⟨noBlank, noEnd⟩, noOpening⟩ : (start.toList.head? ≠ some ' ' ∧
      ¬start.toList <+: "end".toList) ∧ ∀ opening ∈ openings,
        ¬opening <+: start.toList ∧ ¬start.toList <+: opening := by
    simpa [beginsPlain, ← Bool.not_eq_true] using fixed
  have nonempty : start.toList ≠ [] := by
    intro empty
    rw [empty] at noEnd
    exact noEnd List.nil_prefix
  have unindented : unindented text.toList = text.toList := by
    obtain ⟨rest, whole⟩ := begins
    apply unindented_of_head
    rwa [← whole, List.head?_append_of_ne_nil _ nonempty]
  constructor
  · exact unbroken
  · rw [unindented, opensBlock, ends, Bool.or_false, List.any_eq_false]
    intro opening member opens
    obtain ⟨notBefore, notBehind⟩ := noOpening opening member
    rcases List.prefix_or_prefix_of_prefix (List.isPrefixOf_iff_prefix.mp opens) begins with
      before | behind
    · exact notBefore before
    · exact notBehind behind
  · rw [unindented, closesBlock, beq_eq_false_iff_ne]
    intro whole
    exact noEnd (whole ▸ begins)

/-- Only the beginning and the end of the text matter. -/
theorem isPlain_of_ends {front last : String} (start : String)
    (begins : start.toList <+: (front ++ last).toList) (fixed : beginsPlain start = true)
    (ends : endsPlain last = true) (unbroken : '\n' ∉ (front ++ last).toList) :
    IsPlain (front ++ last) :=
  isPlain_of_begins start begins fixed (endsInDo_of_endsPlain ends) unbroken

theorem isPlain_behind {start last : String} (begins : beginsPlain start = true)
    (ends : endsPlain last = true) (unbroken : '\n' ∉ (start ++ last).toList) :
    IsPlain (start ++ last) :=
  isPlain_of_ends start (by simp) begins ends unbroken

theorem isPlain_around {start middle last : String} (begins : beginsPlain start = true)
    (ends : endsPlain last = true) (unbroken : '\n' ∉ (start ++ middle ++ last).toList) :
    IsPlain (start ++ middle ++ last) :=
  isPlain_of_ends start (by simp) begins ends unbroken

theorem isHeader_opening {opening : String} (rest : String)
    (known : opening.toList ∈ openings) (unbroken : '\n' ∉ rest.toList) :
    IsHeader (opening ++ rest) := by
  have fixed : ∀ opening ∈ openings,
      opening.head? ≠ some ' ' ∧ opening ≠ [] ∧ '\n' ∉ opening := by decide
  obtain ⟨noBlank, nonempty, oneLine⟩ := fixed _ known
  have begins : opening.toList <+: (opening ++ rest).toList := by
    rw [String.toList_append]
    exact List.prefix_append _ _
  have start : (opening ++ rest).toList.head? ≠ some ' ' := by
    rwa [String.toList_append, List.head?_append_of_ne_nil _ nonempty]
  constructor
  · rw [String.toList_append, List.mem_append, not_or]
    exact ⟨oneLine, unbroken⟩
  · exact start
  · rw [unindented_of_head start, opensBlock, Bool.or_eq_true, List.any_eq_true]
    exact .inl ⟨_, known, List.isPrefixOf_iff_prefix.mpr begins⟩

theorem isHeader_do {front last : String} (opens : endsInDo last.toList = true)
    (start : (front ++ last).toList.head? ≠ some ' ')
    (unbroken : '\n' ∉ (front ++ last).toList) : IsHeader (front ++ last) where
  unbroken := unbroken
  unindented := start
  opensOne := by
    rw [unindented_of_head start, opensBlock, String.toList_append, endsInDo_append _ opens,
      Bool.or_true]

theorem beginsPlain_upper {c : Char} (upper : c.isUpper = true) :
    beginsPlain (String.singleton c) = true := by
  have small : ∀ fixed ∈ " cdeim".toList, (!fixed.isUpper) = true := List.all_eq_true.mp (by decide)
  have other : ∀ fixed ∈ " cdeim".toList, c ≠ fixed ∧ fixed ≠ c := by
    intro fixed member
    have different : c ≠ fixed := by
      intro same
      have noCapital := small fixed member
      rw [← same, upper] at noCapital
      cases noCapital
    exact ⟨different, different.symm⟩
  simp only [beginsPlain, openings, List.all_cons, List.all_nil]
  simp_all [List.isPrefixOf]

theorem endsPlain_append {front last : String} (ends : endsPlain last = true) :
    endsPlain (front ++ last) = true := by
  unfold endsPlain at *
  rw [String.toList_append, List.getLast?_append]
  cases found : last.toList.getLast? with
  | none => simp [found] at ends
  | some c => simpa [found] using ends

theorem endsPlain_stringLiteral (text : String) : endsPlain (stringLiteral text) = true :=
  endsPlain_append (by decide)

theorem endsPlain_braced (text : String) : endsPlain (braced text) = true :=
  endsPlain_append (by decide)

/-- A call ends in a closing parenthesis or, without arguments, in a name behind a point. -/
theorem endsInDo_applied (front : String) {callee : String} (args : List String)
    {before name : List Char} (spelled : callee.toList = before ++ '.' :: name)
    (each : ∀ c ∈ name, isWordChar c = true) :
    endsInDo (front ++ applied callee args).toList = false := by
  unfold applied
  split
  · rw [String.toList_append, spelled, ← List.append_assoc]
    exact endsInDo_append_word each (by decide) (by decide) (by decide)
  · exact endsInDo_of_endsPlain (endsPlain_append (by decide))

end ClientGem.Ruby
