import Mathlib.Data.List.Basic
import Mathlib.Tactic.Ring

/-
This file gives little-endian words and readers that accept exactly the encodings of their values.
-/

namespace LittleEndian

def value (bytes : List UInt8) : Nat :=
  bytes.foldr (fun byte rest => byte.toNat + 256 * rest) 0

/-- The lowest bytes of a number, lowest first. -/
def bytes : Nat → Nat → List UInt8
  | 0, _ => []
  | count + 1, number => UInt8.ofNat number :: bytes count (number / 256)

@[simp]
theorem length_bytes (count number : Nat) : (bytes count number).length = count := by
  induction count generalizing number with
  | zero => rfl
  | succ count ih => rw [bytes, List.length_cons, ih]

theorem value_cons (byte : UInt8) (rest : List UInt8) :
    value (byte :: rest) = byte.toNat + 256 * value rest := rfl

theorem value_lt (word : List UInt8) : value word < 256 ^ word.length := by
  induction word with
  | nil => decide
  | cons byte rest ih =>
      have small : byte.toNat < 256 := byte.toNat_lt
      rw [value_cons, List.length_cons, pow_succ]
      omega

/-- A number that fits is read back from its bytes. -/
theorem value_bytes {count number : Nat} (fits : number < 256 ^ count) :
    value (bytes count number) = number := by
  induction count generalizing number with
  | zero =>
      rw [pow_zero] at fits
      change 0 = number
      omega
  | succ count ih =>
      have shorter : number / 256 < 256 ^ count := by
        rw [pow_succ] at fits
        omega
      have low : (UInt8.ofNat number).toNat = number % 256 := UInt8.toNat_ofNat'
      rw [bytes, value_cons, ih shorter, low]
      omega

/-- A word is the bytes of its number. -/
theorem bytes_value (word : List UInt8) : bytes word.length (value word) = word := by
  induction word with
  | nil => rfl
  | cons byte rest ih =>
      have small : byte.toNat < 256 := byte.toNat_lt
      have low : UInt8.ofNat (byte.toNat + 256 * value rest) = byte := by
        apply UInt8.toNat_inj.mp
        rw [UInt8.toNat_ofNat']
        omega
      have high : (byte.toNat + 256 * value rest) / 256 = value rest := by omega
      rw [List.length_cons, bytes, value_cons, low, high, ih]

end LittleEndian

namespace ByteReader

/-- A reader takes bytes off the front of its input or fails. -/
abbrev Reader (Error : Type) := StateT (List UInt8) (Except Error)

variable {Error Value Part : Type}

theorem bind_eq_ok {first : Reader Error Part} {next : Part → Reader Error Value}
    {input rest : List UInt8} {value : Value} :
    (first >>= next) input = .ok (value, rest) ↔
      ∃ part after, first input = .ok (part, after) ∧ next part after = .ok (value, rest) := by
  change (first input >>= fun outcome => next outcome.1 outcome.2) = _ ↔ _
  cases first input with
  | error error =>
      constructor
      · intro impossible
        cases impossible
      · rintro ⟨_, _, impossible, -⟩
        cases impossible
  | ok outcome =>
      constructor
      · intro read
        exact ⟨outcome.1, outcome.2, rfl, read⟩
      · rintro ⟨_, _, same, read⟩
        cases same
        exact read

theorem pure_eq_ok {read value : Value} {input rest : List UInt8} :
    (pure read : Reader Error Value) input = .ok (value, rest) ↔ value = read ∧ input = rest := by
  constructor
  · intro same
    cases same
    exact ⟨rfl, rfl⟩
  · rintro ⟨rfl, rfl⟩
    rfl

/-- The next bytes of the given number, or an error that knows how many are left. -/
def take (failure : Nat → Error) (count : Nat) : Reader Error (List UInt8) := fun input =>
  if input.length < count then .error (failure input.length)
  else .ok (input.take count, input.drop count)

/-- The values of a reader that is run the given number of times. -/
def repeated (reader : Reader Error Value) : Nat → Reader Error (List Value)
  | 0 => pure []
  | count + 1 => do
      let value ← reader
      let values ← repeated reader count
      return value :: values

/-- The reader accepts the encodings of the valid values, whatever follows them. -/
def Reads (reader : Reader Error Value) (encode : Value → List UInt8) (valid : Value → Prop) :
    Prop :=
  ∀ input value rest, reader input = .ok (value, rest) ↔
    valid value ∧ input = encode value ++ rest

/-- The encoding and the condition of a reader are found by its form. -/
class Readable (reader : Reader Error Value) (encode : outParam (Value → List UInt8))
    (valid : outParam (Value → Prop)) : Prop where
  reads : Reads reader encode valid

/-- A record is read part by part; what is known of it are the parts already read. -/
def ReadsRecord (reader : Reader Error Value) (parts : Value → List (List UInt8))
    (known valid : Value → Prop) : Prop :=
  ∀ input value rest, reader input = .ok (value, rest) ↔
    known value ∧ valid value ∧ input = (parts value).flatten ++ rest

namespace Reads

variable {reader : Reader Error Value} {encode : Value → List UInt8} {valid : Value → Prop}

theorem congr {other : Value → Prop} (reads : Reads reader encode valid)
    (same : ∀ value, valid value ↔ other value) : Reads reader encode other := by
  intro input value rest
  rw [reads input value rest, same]

theorem take (failure : Nat → Error) (count : Nat) :
    Reads (ByteReader.take failure count) id fun word => word.length = count := by
  intro input word rest
  unfold ByteReader.take
  constructor
  · intro read
    split at read
    · cases read
    · cases read
      refine ⟨List.length_take_of_le (by omega), ?_⟩
      rw [id, List.take_append_drop]
  · rintro ⟨rfl, rfl⟩
    rw [if_neg (by simp), id, List.take_left, List.drop_left]

/-- A value that is converted with a left inverse is encoded through the inverse. -/
theorem map {Result : Type} (reads : Reads reader encode valid) (convert : Value → Result)
    (back : Result → Value) (inverse : ∀ value, valid value → back (convert value) = value) :
    Reads (do return convert (← reader)) (fun result => encode (back result))
      fun result => valid (back result) ∧ convert (back result) = result := by
  intro input result rest
  rw [bind_eq_ok]
  constructor
  · rintro ⟨value, after, read, returned⟩
    obtain ⟨rfl, rfl⟩ := pure_eq_ok.mp returned
    obtain ⟨accepted, rfl⟩ := (reads _ _ _).mp read
    refine ⟨⟨?_, ?_⟩, ?_⟩
    · rw [inverse value accepted]
      exact accepted
    · rw [inverse value accepted]
    · change _ = encode (back (convert value)) ++ after
      rw [inverse value accepted]
  · rintro ⟨⟨accepted, converts⟩, rfl⟩
    exact ⟨back result, rest, (reads _ _ _).mpr ⟨accepted, rfl⟩,
      pure_eq_ok.mpr ⟨converts.symm, rfl⟩⟩

/-- A constructor around the value keeps the encoding. -/
theorem wrap {Result : Type} (reads : Reads reader encode valid) (construct : Value → Result)
    {encodeResult : Result → List UInt8}
    (same : ∀ value, encodeResult (construct value) = encode value) :
    Reads (do return construct (← reader)) encodeResult
      fun result => ∃ value, construct value = result ∧ valid value := by
  intro input result rest
  rw [bind_eq_ok]
  constructor
  · rintro ⟨value, after, read, returned⟩
    obtain ⟨rfl, rfl⟩ := pure_eq_ok.mp returned
    obtain ⟨accepted, rfl⟩ := (reads _ _ _).mp read
    exact ⟨⟨value, rfl, accepted⟩, by rw [same]⟩
  · rintro ⟨⟨value, rfl, accepted⟩, rfl⟩
    exact ⟨value, rest, (reads _ _ _).mpr ⟨accepted, by rw [same]⟩, pure_eq_ok.mpr ⟨rfl, rfl⟩⟩

/-- A reader that always fails accepts nothing. -/
theorem never {error : Error} (invalid : ∀ value, ¬ valid value) :
    Reads (throw error : Reader Error Value) encode valid := by
  intro input value rest
  constructor
  · intro impossible
    cases impossible
  · rintro ⟨holds, -⟩
    exact absurd holds (invalid value)

/-- A repeated reader accepts lists of the given length. -/
theorem repeated (reads : Reads reader encode valid) (count : Nat) :
    Reads (ByteReader.repeated reader count) (fun values => (values.map encode).flatten)
      fun values => values.length = count ∧ ∀ value ∈ values, valid value := by
  induction count with
  | zero =>
      intro input values rest
      rw [ByteReader.repeated, pure_eq_ok]
      constructor
      · rintro ⟨rfl, rfl⟩
        simp
      · rintro ⟨⟨none, -⟩, rfl⟩
        rw [List.length_eq_zero_iff] at none
        subst none
        exact ⟨rfl, rfl⟩
  | succ count ih =>
      intro input values rest
      simp only [ByteReader.repeated, bind_eq_ok, pure_eq_ok]
      constructor
      · rintro ⟨value, _, read, others, _, later, rfl, rfl⟩
        obtain ⟨accepted, rfl⟩ := (reads _ _ _).mp read
        obtain ⟨⟨length, all⟩, rfl⟩ := (ih _ _ _).mp later
        refine ⟨⟨by rw [List.length_cons, length], List.forall_mem_cons.mpr ⟨accepted, all⟩⟩, ?_⟩
        rw [List.map_cons, List.flatten_cons, List.append_assoc]
      · rintro ⟨⟨length, all⟩, rfl⟩
        cases values with
        | nil => cases length
        | cons value others =>
            obtain ⟨accepted, later⟩ := List.forall_mem_cons.mp all
            refine ⟨value, (others.map encode).flatten ++ rest, ?_, others, rest, ?_, rfl, rfl⟩
            · refine (reads _ _ _).mpr ⟨accepted, ?_⟩
              rw [List.map_cons, List.flatten_cons, List.append_assoc]
            · exact (ih _ _ _).mpr ⟨⟨Nat.succ.inj length, later⟩, rfl⟩

/-- Two complete reads of which one continues the other are the same. -/
theorem complete_unique (reads : Reads reader encode valid) {front back : List UInt8}
    {first second : Value} (short : reader front = .ok (first, []))
    (long : reader (front ++ back) = .ok (second, [])) : back = [] := by
  obtain ⟨accepted, rfl⟩ := (reads _ _ _).mp short
  have again : reader (encode first ++ [] ++ back) = .ok (first, back) := by
    rw [List.append_nil]
    exact (reads _ _ _).mpr ⟨accepted, rfl⟩
  rw [long] at again
  cases again
  rfl

end Reads

/-- The reader fails only in allowed ways on an input of less than the given size and takes at most
the given number of bytes. -/
structure Bounded (allowed : Error → Prop) (size : Nat) (reader : Reader Error Value)
    (most : Nat) : Prop where
  fails : ∀ {input error}, input.length < size → reader input = .error error → allowed error
  takes : ∀ {input value rest}, reader input = .ok (value, rest) →
    rest.length ≤ input.length ∧ input.length ≤ rest.length + most

namespace Bounded

variable {allowed : Error → Prop} {size most : Nat}

theorem mono {reader : Reader Error Value} {more : Nat} (bounded : Bounded allowed size reader most)
    (within : most ≤ more) : Bounded allowed size reader more where
  fails := bounded.fails
  takes := by
    intro input value rest read
    obtain ⟨shorter, few⟩ := bounded.takes read
    exact ⟨shorter, by omega⟩

theorem pure {value : Value} : Bounded allowed size (pure value : Reader Error Value) 0 where
  fails := by
    intro input error _ failed
    cases failed
  takes := by
    intro input read rest returned
    cases returned
    exact ⟨le_rfl, le_rfl⟩

theorem throw {error : Error} (expected : allowed error) :
    Bounded allowed size (throw error : Reader Error Value) 0 where
  fails := by
    intro input thrown _ failed
    cases failed
    exact expected
  takes := by
    intro input value rest read
    cases read

theorem take {failure : Nat → Error} {count : Nat}
    (expected : ∀ remaining < size, allowed (failure remaining)) :
    Bounded allowed size (ByteReader.take failure count) count where
  fails := by
    intro input error small failed
    unfold ByteReader.take at failed
    split at failed
    · cases failed
      exact expected _ small
    · cases failed
  takes := by
    intro input word rest read
    obtain ⟨length, rfl⟩ := (Reads.take failure count _ _ _).mp read
    simp only [id, List.length_append]
    omega

theorem bind {first : Reader Error Part} {next : Part → Reader Error Value} {part : Nat}
    (firstBounded : Bounded allowed size first part)
    (nextBounded : ∀ read, Bounded allowed size (next read) most) :
    Bounded allowed size (first >>= next) (part + most) where
  fails := by
    intro input error small failed
    change (first input >>= fun outcome => next outcome.1 outcome.2) = _ at failed
    cases read : first input with
    | error early =>
        rw [read] at failed
        cases failed
        exact firstBounded.fails small read
    | ok outcome =>
        rw [read] at failed
        exact (nextBounded _).fails (lt_of_le_of_lt (firstBounded.takes read).1 small) failed
  takes := by
    intro input value rest read
    obtain ⟨value, middle, firstRead, later⟩ := bind_eq_ok.mp read
    have before := firstBounded.takes firstRead
    have after := (nextBounded _).takes later
    omega

/-- What the next part takes is left for the parts after it. -/
theorem field {first : Reader Error Part} {next : Part → Reader Error Value} {part : Nat}
    (firstBounded : Bounded allowed size first part) (within : part ≤ most)
    (nextBounded : ∀ read, Bounded allowed size (next read) (most - part)) :
    Bounded allowed size (first >>= next) most :=
  (firstBounded.bind nextBounded).mono (by omega)

/-- After its last part the record takes nothing. -/
theorem done {value : Value} : Bounded allowed size (Pure.pure value : Reader Error Value) most :=
  Bounded.pure.mono (Nat.zero_le most)

theorem repeated {reader : Reader Error Value} (bounded : Bounded allowed size reader most)
    (count : Nat) : Bounded allowed size (ByteReader.repeated reader count) (count * most) := by
  induction count with
  | zero =>
      rw [Nat.zero_mul]
      exact .pure
  | succ count ih =>
      refine (bounded.bind fun value => ih.bind fun values => .pure).mono ?_
      rw [Nat.succ_mul]
      omega

end Bounded

namespace ReadsRecord

variable {reader : Reader Error Part} {next : Part → Reader Error Value}
  {encode : Part → List UInt8} {part : Value → Part} {parts : Value → List (List UInt8)}
  {accepted : Part → Prop} {known valid : Value → Prop}

/-- The next part of the record has its own condition. -/
theorem field [first : Readable reader encode accepted]
    (rest : ∀ read, ReadsRecord (next read) parts
      (fun value => known value ∧ read = part value) valid) :
    ReadsRecord (reader >>= next) (fun value => encode (part value) :: parts value) known
      fun value => accepted (part value) ∧ valid value := by
  intro input value after
  rw [bind_eq_ok]
  constructor
  · rintro ⟨read, middle, firstRead, later⟩
    obtain ⟨holds, rfl⟩ := (first.reads _ _ _).mp firstRead
    obtain ⟨⟨before, rfl⟩, others, rfl⟩ := (rest read _ _ _).mp later
    refine ⟨before, ⟨holds, others⟩, ?_⟩
    rw [List.flatten_cons, List.append_assoc]
  · rintro ⟨before, ⟨holds, others⟩, rfl⟩
    refine ⟨part value, (parts value).flatten ++ after, ?_, ?_⟩
    · refine (first.reads _ _ _).mpr ⟨holds, ?_⟩
      rw [List.flatten_cons, List.append_assoc]
    · exact (rest _ _ _ _).mpr ⟨⟨before, rfl⟩, others, rfl⟩

/-- The last part with a condition of its own. -/
theorem lastField [first : Readable reader encode accepted]
    (rest : ∀ read, ReadsRecord (next read) parts
      (fun value => known value ∧ read = part value) fun _ => True) :
    ReadsRecord (reader >>= next) (fun value => encode (part value) :: parts value) known
      fun value => accepted (part value) := by
  intro input value after
  rw [field rest input value after]
  simp only [and_true]

/-- The next part of the record takes every value of its type. -/
theorem word [first : Readable reader encode fun _ => True]
    (rest : ∀ read, ReadsRecord (next read) parts
      (fun value => known value ∧ read = part value) valid) :
    ReadsRecord (reader >>= next) (fun value => encode (part value) :: parts value) known valid := by
  intro input value after
  rw [field rest input value after]
  simp only [true_and]

/-- After its last part the record is known. -/
theorem done {read : Value} (same : ∀ value, known value ↔ value = read) :
    ReadsRecord (pure read : Reader Error Value) (fun _ => []) known fun _ => True := by
  intro input value after
  rw [pure_eq_ok, same, List.flatten_nil, List.nil_append, true_and]

end ReadsRecord

/-- The rules for a record are found by the form of its reader. It remains to show that the parts make
up the record. -/
class RecordLayout (reader : Reader Error Value) (parts : Value → List (List UInt8))
    (known valid : Value → Prop) (complete : outParam Prop) : Prop where
  reads : complete → ReadsRecord reader parts known valid

section Layout

variable {reader : Reader Error Part} {next : Part → Reader Error Value}
  {encode : Part → List UInt8} {part : Value → Part} {parts : Value → List (List UInt8)}
  {accepted : Part → Prop} {known valid : Value → Prop} {complete : Part → Prop}

instance (priority := high) [Readable reader encode fun _ => True]
    [rest : ∀ read, RecordLayout (next read) parts
      (fun value => known value ∧ read = part value) valid (complete read)] :
    RecordLayout (reader >>= next) (fun value => encode (part value) :: parts value) known valid
      (∀ read, complete read) :=
  ⟨fun all => .word fun read => (rest read).reads (all read)⟩

instance [Readable reader encode accepted]
    [rest : ∀ read, RecordLayout (next read) parts
      (fun value => known value ∧ read = part value) valid (complete read)] :
    RecordLayout (reader >>= next) (fun value => encode (part value) :: parts value) known
      (fun value => accepted (part value) ∧ valid value) (∀ read, complete read) :=
  ⟨fun all => .field fun read => (rest read).reads (all read)⟩

instance (priority := low) [Readable reader encode accepted]
    [rest : ∀ read, RecordLayout (next read) parts
      (fun value => known value ∧ read = part value) (fun _ => True) (complete read)] :
    RecordLayout (reader >>= next) (fun value => encode (part value) :: parts value) known
      (fun value => accepted (part value)) (∀ read, complete read) :=
  ⟨fun all => .lastField fun read => (rest read).reads (all read)⟩

instance {read : Value} : RecordLayout (pure read : Reader Error Value) (fun _ => []) known
    (fun _ => True) (∀ value, known value ↔ value = read) :=
  ⟨ReadsRecord.done⟩

/-- A reader with a layout reads its parts one after the other. -/
theorem Reads.ofLayout {whole : Reader Error Value} {complete : Prop}
    [layout : RecordLayout whole parts (fun _ => True) valid complete] (parted : complete) :
    Reads whole (fun value => (parts value).flatten) valid := by
  intro input value after
  rw [layout.reads parted input value after, true_and]

end Layout
end ByteReader
