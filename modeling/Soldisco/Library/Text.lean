import Mathlib.Data.List.TakeWhile
import Mathlib.Data.String.Basic

/-
This file gives the string operations of the source language on lists of characters.
-/

namespace Text

/-- The characters with the Unicode property of white space. -/
def isWhitespace (character : Char) : Bool :=
  let code := character.toNat
  (9 ≤ code && code ≤ 13) || code == 32 || code == 0x85 || code == 0xA0 || code == 0x1680 ||
    (0x2000 ≤ code && code ≤ 0x200A) || code == 0x2028 || code == 0x2029 || code == 0x202F ||
    code == 0x205F || code == 0x3000

/-- Trimming drops the white space at both ends. -/
def trim (text : List Char) : List Char :=
  ((text.dropWhile isWhitespace).reverse.dropWhile isWhitespace).reverse

/-- A text is blank when nothing is left of it after trimming. -/
def isBlank (text : String) : Bool := (trim text.toList).isEmpty

def startsWith (text front : String) : Bool := front.toList.isPrefixOf text.toList

/-- The text after the given front. -/
def stripPrefix (text front : String) : Option String :=
  if startsWith text front then some (String.ofList (text.toList.drop front.toList.length)) else none

/-- The text before the given back. -/
def stripSuffix (text back : String) : Option String :=
  if back.toList.isSuffixOf text.toList then
    some (String.ofList (text.toList.take (text.toList.length - back.toList.length)))
  else none

/-- The characters before and after the first occurrence of the separator. -/
def splitAtFirst (separator : List Char) : List Char → Option (List Char × List Char)
  | [] => if separator.isEmpty then some ([], []) else none
  | character :: rest =>
      if separator.isPrefixOf (character :: rest) then
        some ([], (character :: rest).drop separator.length)
      else (splitAtFirst separator rest).map fun parts => (character :: parts.1, parts.2)

def splitOnce (text separator : String) : Option (String × String) :=
  (splitAtFirst separator.toList text.toList).map fun parts =>
    (String.ofList parts.1, String.ofList parts.2)

def decimalValue (digits : List Char) : Nat :=
  digits.foldl (fun value digit => value * 10 + (digit.toNat - '0'.toNat)) 0

/-- An unsigned number has an optional plus sign, at least one digit and fits its width. -/
def parseUnsigned (size : Nat) (text : String) : Option Nat :=
  let digits := match text.toList with
    | '+' :: rest => rest
    | characters => characters
  if digits.isEmpty || !digits.all (fun digit => '0' ≤ digit && digit ≤ '9') then none
  else if decimalValue digits < size then some (decimalValue digits)
  else none

def isAsciiWhitespace (character : Char) : Bool :=
  character == ' ' || character == '\t' || character == '\n' || character == '\x0C' ||
    character == '\r'

/-- A text column of a database holds every character but the null character. -/
def isNullFree (text : String) : Bool := text.toList.all fun character => character ≠ '\x00'

/-- A text without the null character and with at most the given number of bytes. -/
structure IsShort (most : Nat) (text : String) : Prop where
  size : text.utf8ByteSize ≤ most
  nullFree : isNullFree text = true

instance (most : Nat) (text : String) : Decidable (IsShort most text) :=
  decidable_of_iff (text.utf8ByteSize ≤ most ∧ isNullFree text = true)
    ⟨fun short => ⟨short.1, short.2⟩, fun short => ⟨short.size, short.nullFree⟩⟩

/-- A separator is first looked for where its first character first stands. -/
theorem splitAtFirst_append (first : Char) (separator front text : List Char)
    (absent : first ∉ front) :
    splitAtFirst (first :: separator) (front ++ first :: text) =
      if separator.isPrefixOf text then some (front, text.drop separator.length)
      else (splitAtFirst (first :: separator) text).map fun parts =>
        (front ++ first :: parts.1, parts.2) := by
  induction front with
  | nil =>
      simp only [List.nil_append, splitAtFirst, List.isPrefixOf, beq_self_eq_true, Bool.true_and,
        List.length_cons, List.drop_succ_cons]
  | cons character rest ih =>
      have different : first ≠ character := fun same => absent (same ▸ List.mem_cons_self)
      have later : first ∉ rest := fun member => absent (List.mem_cons_of_mem _ member)
      have skipped : (first == character) = false := beq_false_of_ne different
      simp only [List.cons_append, splitAtFirst, List.isPrefixOf, skipped, Bool.false_and,
        Bool.false_eq_true, if_false, ih later]
      split
      · rfl
      · simp [Function.comp_def]

/-- A separator is not found where its first character does not stand. -/
theorem splitAtFirst_of_absent {first : Char} (separator : List Char) {text : List Char}
    (absent : first ∉ text) : splitAtFirst (first :: separator) text = none := by
  induction text with
  | nil => rfl
  | cons character rest ih =>
      have different : first ≠ character := fun same => absent (same ▸ List.mem_cons_self)
      have later : first ∉ rest := fun member => absent (List.mem_cons_of_mem _ member)
      have skipped : (first == character) = false := beq_false_of_ne different
      simp only [splitAtFirst, List.isPrefixOf, skipped, Bool.false_and, Bool.false_eq_true,
        if_false, ih later, Option.map_none]

/-- A front that the text has is followed by what is stripped of it. -/
theorem stripPrefix_append (front text : String) :
    stripPrefix (front ++ text) front = some text := by
  rw [stripPrefix, startsWith, String.toList_append, if_pos (by simp), List.drop_left,
    String.ofList_toList]

/-- A text starts with the front exactly when it is the front and a rest. -/
theorem startsWith_iff {text front : String} :
    startsWith text front = true ↔ ∃ rest : String, text = front ++ rest := by
  rw [startsWith, List.isPrefixOf_iff_prefix]
  constructor
  · rintro ⟨rest, whole⟩
    refine ⟨String.ofList rest, ?_⟩
    rw [← String.toList_inj, String.toList_append, String.toList_ofList, whole]
  · rintro ⟨rest, rfl⟩
    exact ⟨rest.toList, String.toList_append.symm⟩

theorem eq_append_of_stripPrefix {text front rest : String}
    (stripped : stripPrefix text front = some rest) : text = front ++ rest := by
  unfold stripPrefix at stripped
  split at stripped
  · rename_i starts
    obtain ⟨after, rfl⟩ := startsWith_iff.mp starts
    cases stripped
    rw [String.toList_append, List.drop_left, String.ofList_toList]
  · cases stripped

theorem stripSuffix_append (text back : String) :
    stripSuffix (text ++ back) back = some text := by
  rw [stripSuffix, String.toList_append, if_pos (by simp), List.length_append,
    Nat.add_sub_cancel, List.take_left, String.ofList_toList]

theorem eq_append_of_stripSuffix {text back front : String}
    (stripped : stripSuffix text back = some front) : text = front ++ back := by
  unfold stripSuffix at stripped
  split at stripped
  · rename_i ends
    obtain ⟨before, whole⟩ := List.isSuffixOf_iff_suffix.mp ends
    cases stripped
    rw [← String.toList_inj, String.toList_append, String.toList_ofList, ← whole,
      List.length_append, Nat.add_sub_cancel, List.take_left]
  · cases stripped

/-- A text is blank when all its characters are white space. -/
theorem isBlank_iff {text : String} :
    isBlank text = true ↔ ∀ character ∈ text.toList, isWhitespace character = true := by
  rw [isBlank, trim, List.isEmpty_iff, List.reverse_eq_nil_iff, List.dropWhile_eq_nil_iff]
  constructor
  · intro trimmed
    have front : ∀ character ∈ text.toList.dropWhile isWhitespace,
        isWhitespace character = true := fun character member =>
      trimmed character (List.mem_reverse.mpr member)
    cases rest : text.toList.dropWhile isWhitespace with
    | nil => exact List.dropWhile_eq_nil_iff.mp rest
    | cons first others =>
        have remains : text.toList.dropWhile isWhitespace ≠ [] := by
          rw [rest]
          exact List.cons_ne_nil _ _
        have stops := List.head_dropWhile_not isWhitespace remains
        have blank := front _ (List.head_mem remains)
        rw [stops] at blank
        cases blank
  · intro all character member
    exact all character ((List.dropWhile_sublist _).subset (List.mem_reverse.mp member))

/-- A text with a visible front is not blank. -/
theorem isBlank_append {front : String} (visible : isBlank front = false) (text : String) :
    isBlank (front ++ text) = false := by
  by_contra blank
  rw [Bool.not_eq_false, isBlank_iff, String.toList_append] at blank
  have frontBlank : isBlank front = true := isBlank_iff.mpr fun character member =>
    blank character (List.mem_append_left _ member)
  rw [visible] at frontBlank
  cases frontBlank

theorem decimalValue_eq_ofDigitChars (digits : List Char) :
    decimalValue digits = Nat.ofDigitChars 10 digits 0 := by
  rw [decimalValue, Nat.ofDigitChars_eq_foldl]
  simp only [Nat.mul_comm]

theorem toList_toString (number : Nat) : (toString number).toList = Nat.toDigits 10 number :=
  Nat.toList_repr

/-- A number is written with decimal digits. -/
theorem digit_of_mem_toDigits {number : Nat} {digit : Char}
    (member : digit ∈ Nat.toDigits 10 number) : '0' ≤ digit ∧ digit ≤ '9' := by
  have isDigit := Nat.isDigit_of_mem_toDigits (by decide) (by decide) member
  simpa [Char.isDigit, Char.le_def] using isDigit

/-- A number within its width is read back from its decimal digits. -/
theorem parseUnsigned_toString {size number : Nat} (fits : number < size) :
    parseUnsigned size (toString number) = some number := by
  have characters := toList_toString number
  have digits : ∀ digit ∈ Nat.toDigits 10 number, '0' ≤ digit ∧ digit ≤ '9' :=
    fun _ member => digit_of_mem_toDigits member
  have unsigned : ∀ rest, Nat.toDigits 10 number ≠ '+' :: rest := by
    intro rest signed
    have plus := digits '+' (signed ▸ List.mem_cons_self)
    exact absurd plus.1 (by decide)
  have value : decimalValue (Nat.toDigits 10 number) = number := by
    rw [decimalValue_eq_ofDigitChars, Nat.ofDigitChars_ten_toDigits]
  unfold parseUnsigned
  rw [characters]
  have kept : (match Nat.toDigits 10 number with
      | '+' :: rest => rest
      | characters => characters) = Nat.toDigits 10 number := by
    split
    · exact absurd ‹_› (unsigned _)
    · rfl
  rw [kept]
  have valid : (Nat.toDigits 10 number).all (fun digit => '0' ≤ digit && digit ≤ '9') = true :=
    List.all_eq_true.mpr fun digit member => by simpa using digits digit member
  have present : (Nat.toDigits 10 number).isEmpty = false := by
    simp
  simp [valid, present, value, fits]

/-- A text of one-byte characters has as many bytes as characters. -/
theorem utf8ByteSize_of_ascii {text : String}
    (single : ∀ letter ∈ text.toList, letter.utf8Size = 1) : text.utf8ByteSize = text.toList.length := by
  have counted : ∀ letters : List Char, (∀ letter ∈ letters, letter.utf8Size = 1) →
      String.utf8Len letters = letters.length := by
    intro letters
    induction letters with
    | nil => exact fun _ => rfl
    | cons letter rest ih =>
        intro single
        obtain ⟨first, others⟩ := List.forall_mem_cons.mp single
        rw [String.utf8Len_cons, ih others, first, List.length_cons]
  rw [← counted text.toList single, String.utf8Len_toList]

theorem length_toList_le (text : String) : text.toList.length ≤ text.utf8ByteSize := by
  have counted : ∀ letters : List Char, letters.length ≤ String.utf8Len letters := by
    intro letters
    induction letters with
    | nil => exact le_rfl
    | cons letter rest ih =>
        have positive := letter.utf8Size_pos
        rw [String.utf8Len_cons, List.length_cons]
        omega
  have bound := counted text.toList
  rwa [String.utf8Len_toList] at bound

/-- The digits of a number take a byte each. -/
theorem utf8ByteSize_toString {number count : Nat} (positive : 0 < count)
    (small : number < 10 ^ count) : (toString number).utf8ByteSize ≤ count := by
  have characters := toList_toString number
  have single : ∀ digit ∈ (toString number).toList, digit.utf8Size = 1 := by
    intro digit member
    rw [characters] at member
    have decimal := (digit_of_mem_toDigits member).2
    exact Char.utf8Size_eq_one_iff.mpr (UInt32.le_trans decimal (by decide))
  rw [utf8ByteSize_of_ascii single, characters]
  exact (Nat.length_toDigits_le_iff (by decide) positive).mpr small

theorem isNullFree_append (front back : String) :
    isNullFree (front ++ back) = (isNullFree front && isNullFree back) := by
  rw [isNullFree, String.toList_append, List.all_append]
  rfl

/-- Decimal digits are not the null character. -/
theorem isNullFree_toString (number : Nat) : isNullFree (toString number) = true := by
  rw [isNullFree, toList_toString]
  apply List.all_eq_true.mpr
  intro digit member
  have decimal := (digit_of_mem_toDigits member).1
  apply decide_eq_true
  rintro rfl
  exact absurd decimal (by decide)

namespace IsShort

variable {most : Nat} {text : String}

theorem self (visible : isNullFree text = true) : IsShort text.utf8ByteSize text :=
  ⟨le_rfl, visible⟩

theorem mono (short : IsShort most text) {more : Nat} (within : most ≤ more) : IsShort more text :=
  ⟨short.size.trans within, short.nullFree⟩

/-- A text is as short as its parts together. -/
theorem append {front back : String} {frontSize backSize : Nat} (frontShort : IsShort frontSize front)
    (backShort : IsShort backSize back) : IsShort (frontSize + backSize) (front ++ back) where
  size := by
    have frontFits := frontShort.size
    have backFits := backShort.size
    rw [String.utf8ByteSize_append]
    omega
  nullFree := by
    rw [isNullFree_append, frontShort.nullFree, backShort.nullFree]
    rfl

/-- A number takes a byte for each of its digits. -/
theorem number {number count : Nat} (positive : 0 < count) (small : number < 10 ^ count) :
    IsShort count (toString number) :=
  ⟨utf8ByteSize_toString positive small, isNullFree_toString number⟩

theorem intercalate {separator : String} {texts : List String}
    (visible : isNullFree separator = true) (short : ∀ text ∈ texts, IsShort most text) :
    IsShort (texts.length * (most + separator.utf8ByteSize)) (separator.intercalate texts) := by
  induction texts with
  | nil => exact ⟨by simp, by rfl⟩
  | cons text rest ih =>
      obtain ⟨first, others⟩ := List.forall_mem_cons.mp short
      have later := ih others
      rw [List.length_cons, Nat.succ_mul]
      by_cases last : rest = []
      · subst last
        rw [String.intercalate_singleton]
        exact first.mono (by omega)
      · rw [String.intercalate_cons_of_ne_nil last]
        exact ((first.append (.self visible)).append later).mono (by omega)

end IsShort

/-- A number that is read fits its width. -/
theorem parseUnsigned_lt {size number : Nat} {text : String}
    (parsed : parseUnsigned size text = some number) : number < size := by
  unfold parseUnsigned at parsed
  dsimp only at parsed
  split_ifs at parsed with invalid fits
  cases parsed
  exact fits

end Text
