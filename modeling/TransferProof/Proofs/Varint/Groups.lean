import Mathlib.Algebra.BigOperators.Group.Finset.Basic
import Mathlib.Algebra.BigOperators.Ring.Finset
import Mathlib.Tactic.Ring
import TransferProof.Address

/-!
# Groups of seven bits

A number is put together by laying its groups over each other, each seven bits higher than the one
before. No two of them meet, so they add up by their places, and what stands behind the last byte of
a number plays no part in it. The shortest bytes of a number are read back as this number.
-/

namespace TransferProof.Varint

def isLast (byte : UInt8) : Bool := byte.toNat < 0x80

/-- What the groups of the first bytes, so many of them, come to by their places. -/
def groupSum (bytes : List UInt8) (count : Nat) : Nat :=
  ∑ j ∈ Finset.range count, (bytes.getD j 0).toNat % 128 * 128 ^ j

section Bits

theorem group_eq (n : Nat) : n &&& 0x7F = n % 128 := Nat.and_two_pow_sub_one_eq_mod n 7

theorem highBit_eq_zero_iff (byte : UInt8) : byte.toNat &&& 0x80 = 0 ↔ byte.toNat < 128 := by
  have every : ∀ n < 256, n &&& 0x80 = 0 ↔ n < 128 := by decide +kernel
  exact every byte.toNat byte.toNat_lt

/-- A group that is put in above all bits of a number is added to it. -/
theorem or_shiftLeft {value shift : Nat} (low : value < 2 ^ shift) (group : Nat) :
    value ||| (group <<< shift) = value + 2 ^ shift * group := by
  rw [Nat.or_comm, ← Nat.shiftLeft_add_eq_or_of_lt low, Nat.shiftLeft_eq, Nat.mul_comm,
    Nat.add_comm]

/-- With one more group a number stays below the place of the next one. -/
theorem add_group_lt {value shift : Nat} (low : value < 2 ^ shift) (n : Nat) :
    value + 2 ^ shift * (n % 128) < 2 ^ (shift + 7) := by
  have group : n % 128 + 1 ≤ 2 ^ 7 := Nat.mod_lt n (by decide)
  calc value + 2 ^ shift * (n % 128)
      < 2 ^ shift + 2 ^ shift * (n % 128) := Nat.add_lt_add_right low _
    _ = 2 ^ shift * (n % 128 + 1) := by ring
    _ ≤ 2 ^ shift * 2 ^ 7 := Nat.mul_le_mul_left _ group
    _ = 2 ^ (shift + 7) := (Nat.pow_add 2 shift 7).symm

end Bits

section Reading

variable {bytes : List UInt8}

/-- Reading on adds what the rest comes to by itself, at its place. The invariant of the loop is
that all bits so far are below `shift`. -/
theorem readOn_eq {value shift : Nat} (low : value < 2 ^ shift) (index : Nat)
    (bytes : List UInt8) :
    readOn value shift index bytes =
      (decode bytes).map fun r => ⟨value + 2 ^ shift * r.value, index + r.consumed⟩ := by
  induction bytes generalizing value shift index with
  | nil => rfl
  | cons byte rest ih =>
    have first : (0 : Nat) < 2 ^ 0 := Nat.one_pos
    rw [decode, readOn, readOn]
    rw [group_eq, or_shiftLeft low, or_shiftLeft first]
    by_cases last : byte.toNat &&& 0x80 = 0
    · rw [if_pos last, if_pos last]
      simp
    · rw [if_neg last, if_neg last, ih (add_group_lt low byte.toNat),
        ih (add_group_lt first byte.toNat), Option.map_map]
      congr 1
      funext r
      simp only [Function.comp_apply, Reading.mk.injEq]
      constructor <;> ring

theorem decode_cons (byte : UInt8) (rest : List UInt8) :
    decode (byte :: rest) =
      if byte.toNat < 128 then some ⟨byte.toNat, 1⟩
      else (decode rest).map fun r => ⟨byte.toNat % 128 + 128 * r.value, r.consumed + 1⟩ := by
  have first : (0 : Nat) < 2 ^ 0 := Nat.one_pos
  rw [decode, readOn, group_eq, or_shiftLeft first, if_congr (highBit_eq_zero_iff byte) rfl rfl]
  by_cases last : byte.toNat < 128
  · rw [if_pos last, if_pos last, Nat.mod_eq_of_lt last]
    simp
  · rw [if_neg last, if_neg last, readOn_eq (add_group_lt first byte.toNat)]
    congr 1
    funext r
    simp only [Reading.mk.injEq]
    constructor <;> ring

theorem groupSum_cons (byte : UInt8) (rest : List UInt8) (count : Nat) :
    groupSum (byte :: rest) (count + 1) = byte.toNat % 128 + 128 * groupSum rest count := by
  rw [groupSum, Finset.sum_range_succ', groupSum, Finset.mul_sum, Nat.add_comm]
  congr 1
  · simp
  · refine Finset.sum_congr rfl fun j _ => ?_
    rw [List.getD_cons_succ]
    ring

/-- The number at the front is that of all groups up to the first byte without a high bit. -/
theorem decode_eq (bytes : List UInt8) :
    decode bytes = (bytes.findIdx? isLast).map fun i => ⟨groupSum bytes (i + 1), i + 1⟩ := by
  induction bytes with
  | nil => rfl
  | cons byte rest ih =>
    rw [decode_cons, List.findIdx?_cons, isLast]
    by_cases last : byte.toNat < 128
    · rw [if_pos last, if_pos (decide_eq_true last)]
      simp [groupSum, Nat.mod_eq_of_lt last]
    · rw [if_neg last, if_neg (by simpa using last), ih, Option.map_map, Option.map_map]
      congr 1
      funext i
      simp only [Function.comp_apply, groupSum_cons]

/-- What follows the last byte of a number plays no part in it. -/
theorem decode_take_append {i : Nat} (found : bytes.findIdx? isLast = some i)
    (rest : List UInt8) : decode (bytes.take (i + 1) ++ rest) = decode bytes := by
  induction bytes generalizing i with
  | nil => cases found
  | cons byte tail ih =>
    rw [List.findIdx?_cons, isLast] at found
    rw [List.take_succ_cons, List.cons_append, decode_cons, decode_cons]
    by_cases last : byte.toNat < 128
    · rw [if_pos last, if_pos last]
    · rw [if_neg (by simpa using last)] at found
      obtain ⟨j, earlier, rfl⟩ := Option.map_eq_some_iff.mp found
      rw [if_neg last, if_neg last, ih earlier]

end Reading

section Writing

/-- A number is read back from its bytes, and what follows them is left. -/
theorem decode_encode_append (n : Nat) (tail : List UInt8) :
    decode (encode n ++ tail) = some ⟨n, (encode n).length⟩ := by
  fun_induction encode n with
  | case1 n small =>
    have byte : (UInt8.ofNat n).toNat = n :=
      UInt8.toNat_ofNat_of_lt' (Nat.lt_trans small (by decide))
    rw [List.singleton_append, decode_cons, byte, if_pos small]
    rfl
  | case2 n large ih =>
    have room : n % 128 + 128 < UInt8.size := Nat.add_lt_add_right (Nat.mod_lt n (by decide)) 128
    have byte : (UInt8.ofNat (n % 128 + 128)).toNat = n % 128 + 128 :=
      UInt8.toNat_ofNat_of_lt' room
    have parts : n % 128 + 128 * (n / 128) = n := Nat.mod_add_div n 128
    rw [List.cons_append, decode_cons, byte, if_neg (by omega), ih, Option.map_some,
      Nat.add_mod_right, Nat.mod_mod, parts]
    rfl

/-- No bytes from which a number is read are fewer than those that are written for it. -/
theorem length_encode_le {bytes : List UInt8} {r : Reading} (read : decode bytes = some r) :
    (encode r.value).length ≤ r.consumed := by
  induction bytes generalizing r with
  | nil => cases read
  | cons byte rest ih =>
    rw [decode_cons] at read
    split at read
    case isTrue small =>
      obtain rfl := Option.some.inj read
      rw [encode, if_pos small]
      exact Nat.le_refl 1
    case isFalse =>
      obtain ⟨later, found, rfl⟩ := Option.map_eq_some_iff.mp read
      have shorter := ih found
      have above : (byte.toNat % 128 + 128 * later.value) / 128 = later.value := by omega
      rw [encode, above]
      split
      · exact Nat.le_add_left 1 _
      · exact Nat.succ_le_succ shorter

end Writing

/-- Only an address whose bytes all have a high bit is refused for its number. -/
theorem publicKeys_eq_truncated_iff {address : Text} :
    Address.publicKeys address = .error .truncatedNetwork ↔
      ∃ bytes, Base58.decode (Text.trim Text.isBlank address) = .ok bytes
        ∧ bytes.findIdx? isLast = none := by
  rw [Address.publicKeys]
  cases decoded : Base58.decode (Text.trim Text.isBlank address) with
  | error fault => simp
  | ok bytes =>
    have unread : bytes.findIdx? isLast = none ↔ decode bytes = none := by
      rw [decode_eq, Option.map_eq_none_iff]
    simp only [Except.ok.injEq, exists_eq_left', unread]
    cases read : decode bytes with
    | none => simp
    | some network =>
      dsimp only
      split <;> simp

/-- Of any bytes the groups up to the first byte without a high bit are read, by their places, and
the bytes behind it play no part. Bytes without such a byte are no number, and an address made of
them is refused for that. Every number is read back from its bytes, whatever follows them, and no
fewer bytes are read as it. -/
theorem number_at_front :
    (∀ bytes, decode bytes = (bytes.findIdx? isLast).map fun i =>
        ⟨∑ j ∈ Finset.range (i + 1), (bytes.getD j 0).toNat % 128 * 128 ^ j, i + 1⟩)
      ∧ (∀ bytes rest i, bytes.findIdx? isLast = some i →
          decode (bytes.take (i + 1) ++ rest) = decode bytes)
      ∧ (∀ address, Address.publicKeys address = .error .truncatedNetwork ↔
          ∃ bytes, Base58.decode (Text.trim Text.isBlank address) = .ok bytes
            ∧ bytes.findIdx? isLast = none)
      ∧ (∀ n tail, decode (encode n ++ tail) = some ⟨n, (encode n).length⟩)
      ∧ ∀ bytes r, decode bytes = some r → (encode r.value).length ≤ r.consumed :=
  ⟨decode_eq, fun _ rest _ found => decode_take_append found rest,
    fun _ => publicKeys_eq_truncated_iff, decode_encode_append, fun _ _ => length_encode_le⟩

/-- Three hundred, written with a group more than it needs and followed by half a number. -/
theorem number_at_front_padded :
    List.findIdx? isLast [172, 130, 0, 128] = some 2
      ∧ decode ([172, 130, 0] ++ [7]) = decode [172, 130, 0, 128]
      ∧ decode [172, 130, 0, 128] = some ⟨300, 3⟩
      ∧ (encode 300).length ≤ 3 := by
  have found : List.findIdx? isLast [172, 130, 0, 128] = some 2 := by decide
  have read : decode [172, 130, 0, 128] = some ⟨300, 3⟩ := by decide
  exact ⟨found, number_at_front.2.1 _ [7] 2 found, read, number_at_front.2.2.2.2 _ _ read⟩

end TransferProof.Varint
