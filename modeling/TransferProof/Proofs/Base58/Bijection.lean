import Mathlib.Algebra.Order.Ring.Nat
import Mathlib.Data.List.GetD
import Mathlib.Data.List.Induction
import TransferProof.Base58

/-!
# One text for each byte string

Decoding takes the text of a byte string back to it, and accepts no other text than the one that
spells the bytes it gives. For one block this is a matter of numbers: the digits that the table
grants a block have room for every number of so many bytes, and a greater number is refused. The
blocks of a text are then those of its bytes, since a block is full on one side just when it is full
on the other.
-/

namespace TransferProof.Base58

/-- In a list without repetitions an element is found where it stands. -/
theorem idxOf?_eq_some_iff_of_nodup {l : List Nat} (nodup : l.Nodup) {a i : Nat} :
    l.idxOf? a = some i ↔ i < l.length ∧ l.getD i 0 = a := by
  rw [List.idxOf?_eq_some_iff]
  constructor
  · rintro ⟨inside, here, _⟩
    exact ⟨inside, by rw [List.getD_eq_getElem _ _ inside, here]⟩
  · rintro ⟨inside, here⟩
    rw [List.getD_eq_getElem _ _ inside] at here
    refine ⟨inside, here, ?_⟩
    intro j before there
    have same := (List.getElem_inj nodup).mp (there.trans here.symm)
    omega

section Digits

theorem digitValue?_eq_some_iff {c : CodePoint} {d : Nat} :
    digitValue? c = some d ↔ d < 58 ∧ alphabet.getD d 0 = c :=
  idxOf?_eq_some_iff_of_nodup (by decide)

theorem number_concat_eq_ok_iff {n m : Nat} {t : Text} {c : CodePoint} :
    number n (t ++ [c]) = .ok m ↔
      ∃ k d, number n t = .ok k ∧ digitValue? c = some d ∧ m = 58 * k + d := by
  induction t generalizing n with
  | nil =>
    cases found : digitValue? c with
    | none => simp [number, found]
    | some d => simp [number, found, eq_comm]
  | cons first rest ih =>
    cases found : digitValue? first with
    | none => simp [number, found]
    | some d => simpa [number, found] using ih

/-- A text spells a number, read on from `n`, if it consists of the last digits of that number and
`n` is what stands before them. -/
theorem number_eq_ok_iff {n m : Nat} {t : Text} :
    number n t = .ok m ↔ digits t.length m = t ∧ m / 58 ^ t.length = n := by
  induction t using List.reverseRecOn generalizing m with
  | nil => simp [number, digits, eq_comm]
  | append_singleton t c ih =>
    have quotient : m / 58 ^ (t.length + 1) = m / 58 / 58 ^ t.length := by
      rw [pow_succ', Nat.div_div_eq_div_mul]
    rw [number_concat_eq_ok_iff, List.length_append, List.length_singleton, digits, quotient]
    constructor
    · rintro ⟨k, d, before, last, rfl⟩
      obtain ⟨small, digit⟩ := digitValue?_eq_some_iff.mp last
      obtain ⟨spelled, started⟩ := ih.mp before
      have high : (58 * k + d) / 58 = k := by omega
      have low : (58 * k + d) % 58 = d := by omega
      rw [high, low, spelled, digit]
      exact ⟨rfl, started⟩
    · rintro ⟨spelled, started⟩
      obtain ⟨before, last⟩ := List.append_inj' spelled rfl
      refine ⟨m / 58, m % 58, ih.mpr ⟨before, started⟩, ?_, (Nat.div_add_mod m 58).symm⟩
      exact digitValue?_eq_some_iff.mpr ⟨Nat.mod_lt _ (by decide), List.singleton_inj.mp last⟩

end Digits

section Bytes

theorem ofBigEndian_concat (bytes : List UInt8) (b : UInt8) :
    ofBigEndian (bytes ++ [b]) = 256 * ofBigEndian bytes + b.toNat := by
  rw [ofBigEndian, List.foldl_append]
  rfl

theorem ofBigEndian_lt (bytes : List UInt8) : ofBigEndian bytes < 256 ^ bytes.length := by
  induction bytes using List.reverseRecOn with
  | nil => exact Nat.one_pos
  | append_singleton bytes b ih =>
    have small := b.toNat_lt
    rw [ofBigEndian_concat, List.length_append, List.length_singleton, pow_succ]
    omega

theorem bigEndian_ofBigEndian (bytes : List UInt8) :
    bigEndian bytes.length (ofBigEndian bytes) = bytes := by
  induction bytes using List.reverseRecOn with
  | nil => rfl
  | append_singleton bytes b ih =>
    have small := b.toNat_lt
    have high : (256 * ofBigEndian bytes + b.toNat) / 256 = ofBigEndian bytes := by omega
    have low : (256 * ofBigEndian bytes + b.toNat) % 256 = b.toNat := by omega
    rw [ofBigEndian_concat, List.length_append, List.length_singleton, bigEndian, high, low, ih,
      UInt8.ofNat_toNat]

theorem ofBigEndian_bigEndian {size n : Nat} (room : n < 256 ^ size) :
    ofBigEndian (bigEndian size n) = n := by
  induction size generalizing n with
  | zero => exact (Nat.lt_one_iff.mp room).symm
  | succ size ih =>
    have high : n / 256 < 256 ^ size := by
      rw [pow_succ] at room
      omega
    have low : (UInt8.ofNat (n % 256)).toNat = n % 256 :=
      UInt8.toNat_ofNat_of_lt (Nat.mod_lt _ (by decide))
    rw [bigEndian, ofBigEndian_concat, ih high, low]
    omega

end Bytes

section Blocks

theorem idxOf?_digitCounts_eq_some_iff {count size : Nat} :
    digitCounts.idxOf? count = some size ↔ size < 9 ∧ digitCounts.getD size 0 = count :=
  idxOf?_eq_some_iff_of_nodup (by decide)

/-- As many digits as the table says have room for every number of so many bytes. -/
theorem bytes_le_digits {size : Nat} (fits : size < 9) :
    256 ^ size ≤ 58 ^ digitCounts.getD size 0 := by
  have every : ∀ size < 9, 256 ^ size ≤ 58 ^ digitCounts.getD size 0 := by decide
  exact every size fits

theorem length_encodeBlock (bytes : List UInt8) :
    (encodeBlock bytes).length = digitCounts.getD bytes.length 0 :=
  length_digits _ _

/-- A block spells the bytes of which it is the text, and no others. -/
theorem decodeBlock_eq_ok_iff {block : Text} {bytes : List UInt8} :
    decodeBlock block = .ok bytes ↔ bytes.length < 9 ∧ encodeBlock bytes = block := by
  constructor
  · intro decoded
    rw [decodeBlock] at decoded
    split at decoded
    case h_1 => cases decoded
    case h_2 size found =>
      obtain ⟨fits, count⟩ := idxOf?_digitCounts_eq_some_iff.mp found
      split at decoded
      case h_1 => cases decoded
      case h_2 n spelled =>
        split at decoded
        case isTrue => cases decoded
        case isFalse room =>
          obtain rfl := Except.ok.inj decoded
          have value : ofBigEndian (bigEndian size n) = n :=
            ofBigEndian_bigEndian (Nat.lt_of_not_le room)
          rw [encodeBlock, length_bigEndian, value, count]
          exact ⟨fits, (number_eq_ok_iff.mp spelled).1⟩
  · rintro ⟨fits, rfl⟩
    have small := ofBigEndian_lt bytes
    have room : ofBigEndian bytes < 58 ^ digitCounts.getD bytes.length 0 :=
      Nat.lt_of_lt_of_le small (bytes_le_digits fits)
    have found : digitCounts.idxOf? (encodeBlock bytes).length = some bytes.length :=
      idxOf?_digitCounts_eq_some_iff.mpr ⟨fits, (length_encodeBlock bytes).symm⟩
    have spelled : number 0 (encodeBlock bytes) = .ok (ofBigEndian bytes) := by
      rw [number_eq_ok_iff, length_encodeBlock]
      exact ⟨rfl, Nat.div_eq_of_lt room⟩
    rw [decodeBlock, found]
    dsimp only
    rw [spelled]
    dsimp only
    rw [if_neg, bigEndian_ofBigEndian]
    exact Nat.not_le_of_lt small

end Blocks

section Texts

/-- Pieces as they are cut: none is empty, and all but the last one are full. -/
inductive Regular {α : Type} (size : Nat) : List (List α) → Prop where
  | nil : Regular size []
  | last {piece : List α} (inhabited : piece ≠ []) (short : piece.length ≤ size) :
      Regular size [piece]
  | cons {piece : List α} {rest : List (List α)} (full : piece.length = size)
      (regular : Regular size rest) : Regular size (piece :: rest)

theorem regular_cut {α : Type} (size : Nat) (xs : List α) : Regular (size + 1) (cut size xs) := by
  fun_induction cut size xs with
  | case1 => exact .nil
  | case2 a rest ih =>
    by_cases long : size ≤ rest.length
    · refine .cons ?_ ih
      rw [List.length_cons, List.length_take_of_le long]
    · have short : rest.length ≤ size := Nat.le_of_not_le long
      rw [List.take_of_length_le short, List.drop_of_length_le short, cut]
      exact .last (List.cons_ne_nil a rest) (Nat.succ_le_succ short)

/-- Nothing else gives the same pieces. -/
theorem cut_flatten {α : Type} {size : Nat} {pieces : List (List α)}
    (regular : Regular (size + 1) pieces) : cut size pieces.flatten = pieces := by
  induction regular with
  | nil => rw [List.flatten_nil, cut]
  | @last piece inhabited short =>
    obtain ⟨a, others, rfl⟩ := List.exists_cons_of_ne_nil inhabited
    have short : others.length ≤ size := Nat.le_of_succ_le_succ short
    rw [List.flatten_singleton, cut, List.take_of_length_le short, List.drop_of_length_le short,
      cut]
  | @cons piece rest full _ ih =>
    obtain ⟨a, others, rfl⟩ := List.exists_cons_of_length_eq_add_one full
    obtain rfl : others.length = size := Nat.succ.inj full
    rw [List.flatten_cons, List.cons_append, cut, List.take_left, List.drop_left, ih]

theorem regular_cons_iff {α : Type} {size : Nat} {piece : List α} {rest : List (List α)} :
    Regular size (piece :: rest) ↔
      piece.length = size ∧ Regular size rest
        ∨ rest = [] ∧ piece ≠ [] ∧ piece.length ≤ size := by
  constructor
  · intro regular
    cases regular with
    | last inhabited short => exact Or.inr ⟨rfl, inhabited, short⟩
    | cons full regular => exact Or.inl ⟨full, regular⟩
  · rintro (⟨full, regular⟩ | ⟨rfl, inhabited, short⟩)
    · exact .cons full regular
    · exact .last inhabited short

theorem Regular.length_le {α : Type} {size : Nat} {pieces : List (List α)}
    (regular : Regular size pieces) : ∀ piece ∈ pieces, piece.length ≤ size := by
  induction regular with
  | nil => exact fun _ member => nomatch member
  | last _ short => exact List.forall_mem_singleton.mpr short
  | cons full _ ih => exact List.forall_mem_cons.mpr ⟨Nat.le_of_eq full, ih⟩

/-- A block of digits is empty just when its bytes are, and full just when they are. -/
theorem length_encodeBlock_iffs {part : List UInt8} (fits : part.length < 9) :
    (encodeBlock part ≠ [] ↔ part ≠ [])
      ∧ ((encodeBlock part).length = fullDigits ↔ part.length = fullSize)
      ∧ (encodeBlock part).length ≤ fullDigits ∧ part.length ≤ fullSize := by
  have every : ∀ size < 9, (digitCounts.getD size 0 = 0 ↔ size = 0)
      ∧ (digitCounts.getD size 0 = fullDigits ↔ size = fullSize)
      ∧ digitCounts.getD size 0 ≤ fullDigits ∧ size ≤ fullSize := by decide
  rw [ne_eq, ne_eq, ← List.length_eq_zero_iff, ← List.length_eq_zero_iff, not_iff_not,
    length_encodeBlock]
  exact every _ fits

theorem regular_map_encodeBlock_iff {parts : List (List UInt8)}
    (fit : ∀ part ∈ parts, part.length < 9) :
    Regular fullDigits (parts.map encodeBlock) ↔ Regular fullSize parts := by
  induction parts with
  | nil => exact ⟨fun _ => .nil, fun _ => .nil⟩
  | cons part parts ih =>
    obtain ⟨fits, fit⟩ := List.forall_mem_cons.mp fit
    obtain ⟨inhabited, full, shortDigits, shortBytes⟩ := length_encodeBlock_iffs fits
    rw [List.map_cons, regular_cons_iff, regular_cons_iff, ih fit, full, inhabited,
      List.map_eq_nil_iff, and_iff_left shortDigits, and_iff_left shortBytes]

theorem decodeBlocks_eq_ok_iff {blocks : List Text} {bytes : List UInt8} :
    decodeBlocks blocks = .ok bytes ↔
      ∃ parts : List (List UInt8), (∀ part ∈ parts, part.length < 9)
        ∧ parts.map encodeBlock = blocks ∧ parts.flatten = bytes := by
  induction blocks generalizing bytes with
  | nil => simp [decodeBlocks, eq_comm]
  | cons block blocks ih =>
    constructor
    · intro decoded
      rw [decodeBlocks] at decoded
      split at decoded
      case h_1 => cases decoded
      case h_2 part here =>
        split at decoded
        case h_1 => cases decoded
        case h_2 more later =>
          obtain rfl := Except.ok.inj decoded
          obtain ⟨fits, rfl⟩ := decodeBlock_eq_ok_iff.mp here
          obtain ⟨parts, fit, rfl, rfl⟩ := ih.mp later
          exact ⟨part :: parts, List.forall_mem_cons.mpr ⟨fits, fit⟩, rfl, rfl⟩
    · rintro ⟨parts, fit, same, rfl⟩
      obtain ⟨part, parts, rfl, rfl, rfl⟩ := List.map_eq_cons_iff.mp same
      obtain ⟨fits, fit⟩ := List.forall_mem_cons.mp fit
      rw [decodeBlocks, decodeBlock_eq_ok_iff.mpr ⟨fits, rfl⟩, ih.mpr ⟨parts, fit, rfl, rfl⟩]
      rfl

/-- The pieces of bytes have at most so many, and their texts are the blocks of the whole text. -/
theorem cut_encode (bytes : List UInt8) :
    (∀ part ∈ cut (fullSize - 1) bytes, part.length < 9)
      ∧ cut (fullDigits - 1) (encode bytes) = (cut (fullSize - 1) bytes).map encodeBlock := by
  have regular : Regular fullSize (cut (fullSize - 1) bytes) := regular_cut _ bytes
  have fit : ∀ part ∈ cut (fullSize - 1) bytes, part.length < 9 :=
    fun part member => Nat.lt_succ_of_le (regular.length_le part member)
  rw [← regular_map_encodeBlock_iff fit] at regular
  exact ⟨fit, cut_flatten regular⟩

/-- The blocks of a text spell the bytes of which it is the text, and no others. -/
theorem decodeBlocks_cut_eq_ok_iff {t : Text} {bytes : List UInt8} :
    decodeBlocks (cut (fullDigits - 1) t) = .ok bytes ↔ encode bytes = t := by
  have cutDigits : Regular fullDigits (cut (fullDigits - 1) t) := regular_cut _ t
  rw [decodeBlocks_eq_ok_iff]
  constructor
  · rintro ⟨parts, fit, spelled, rfl⟩
    rw [← spelled, regular_map_encodeBlock_iff fit] at cutDigits
    have same : cut (fullSize - 1) parts.flatten = parts := cut_flatten cutDigits
    rw [encode, same, List.flatMap, spelled, flatten_cut]
  · rintro rfl
    obtain ⟨fit, spelled⟩ := cut_encode bytes
    exact ⟨cut (fullSize - 1) bytes, fit, spelled.symm, flatten_cut _ _⟩

/-- A text spells the bytes of which it is the text, and no others; no text at all is none. -/
theorem decode_eq_ok_iff {t : Text} {bytes : List UInt8} :
    decode t = .ok bytes ↔ bytes ≠ [] ∧ encode bytes = t := by
  have empty : encode bytes = [] ↔ bytes = [] := by
    rw [← decodeBlocks_cut_eq_ok_iff, cut, decodeBlocks, Except.ok.injEq, eq_comm]
  rw [decode]
  split
  case isTrue nothing =>
    rw [nothing, empty]
    constructor
    · intro impossible
      cases impossible
    · rintro ⟨some, none⟩
      exact absurd none some
  case isFalse something =>
    rw [decodeBlocks_cut_eq_ok_iff]
    refine ⟨fun spelled => ⟨?_, spelled⟩, And.right⟩
    rw [ne_eq, ← empty, spelled]
    exact something

end Texts

/-- Each byte string but the empty one has a text, leading zeros included, and each text that is
accepted is the one of its bytes. So no two texts spell the same bytes. -/
theorem text_of_bytes_unique :
    (∀ bytes, bytes ≠ [] → decode (encode bytes) = .ok bytes)
      ∧ (∀ t bytes, decode t = .ok bytes → encode bytes = t)
      ∧ ∀ s t bytes, decode s = .ok bytes → decode t = .ok bytes → s = t := by
  refine ⟨?_, ?_, ?_⟩
  · intro bytes some
    exact decode_eq_ok_iff.mpr ⟨some, rfl⟩
  · intro t bytes decoded
    exact (decode_eq_ok_iff.mp decoded).2
  · intro s t bytes first second
    exact (decode_eq_ok_iff.mp first).2.symm.trans (decode_eq_ok_iff.mp second).2

/-- A full block of zeros but for its last byte, and a short one. -/
theorem text_of_bytes_unique_zeros :
    encode [0, 0, 0, 0, 0, 0, 0, 1, 255] = "111111111125Q"
      ∧ decode "111111111125Q" = .ok [0, 0, 0, 0, 0, 0, 0, 1, 255]
      ∧ ∀ t, decode t = .ok [0, 0, 0, 0, 0, 0, 0, 1, 255] → t = "111111111125Q" := by
  have spelled : encode [0, 0, 0, 0, 0, 0, 0, 1, 255] = "111111111125Q" := by cbv
  have decoded := text_of_bytes_unique.1 [0, 0, 0, 0, 0, 0, 0, 1, 255] (by decide)
  rw [spelled] at decoded
  exact ⟨spelled, decoded, fun t same => text_of_bytes_unique.2.2 _ _ _ same decoded⟩

end TransferProof.Base58
