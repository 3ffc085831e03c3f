import TransferProof.Address
import TransferProof.Proofs.Base58.Bijection
import TransferProof.Proofs.Text.Digits
import TransferProof.Proofs.Text.Trimming
import TransferProof.Proofs.Varint.Groups

/-!
# The keys of an address

An address, with blanks around it or without, is read as a network number, two keys and a rest that
is at least a checksum long. The network number ends with its first byte below 128, so there is only
one way to read the bytes, and whatever else stands in them the keys are those that were put there.
-/

namespace TransferProof

namespace Varint

/-- The bytes of one number: any count of bytes from 128 on, and a last one below. -/
def Whole (bytes : List UInt8) : Prop :=
  ∃ more last, bytes = more ++ [last] ∧ (∀ b ∈ more, 128 ≤ b.toNat) ∧ last.toNat < 128

/-- Only the number at the front is read. -/
theorem decode_append {bytes : List UInt8} (whole : Whole bytes) (rest : List UInt8) :
    ∃ value, decode (bytes ++ rest) = some ⟨value, bytes.length⟩ := by
  obtain ⟨more, last, rfl, high, low⟩ := whole
  induction more with
  | nil => exact ⟨last.toNat, by simp [decode_cons, low]⟩
  | cons b more ih =>
    obtain ⟨first, high⟩ := List.forall_mem_cons.mp high
    obtain ⟨value, tail⟩ := ih high
    refine ⟨b.toNat % 128 + 128 * value, ?_⟩
    rw [List.cons_append, List.cons_append, decode_cons, if_neg (Nat.not_lt.mpr first), tail]
    rfl

/-- What is read is one number, and something follows it or nothing. -/
theorem whole_of_decode {bytes : List UInt8} {r : Reading} (read : decode bytes = some r) :
    ∃ number rest, bytes = number ++ rest ∧ Whole number ∧ r.consumed = number.length := by
  induction bytes generalizing r with
  | nil => cases read
  | cons b rest ih =>
    rw [decode_cons] at read
    split at read
    case isTrue low =>
      obtain rfl := Option.some.inj read
      exact ⟨[b], rest, rfl, ⟨[], b, rfl, fun _ member => absurd member List.not_mem_nil, low⟩, rfl⟩
    case isFalse high =>
      obtain ⟨tail, later, rfl⟩ := Option.map_eq_some_iff.mp read
      obtain ⟨number, rest, rfl, ⟨more, last, rfl, highs, low⟩, consumed⟩ := ih later
      refine ⟨b :: (more ++ [last]), rest, rfl, ⟨b :: more, last, rfl, ?_, low⟩,
        congrArg (· + 1) consumed⟩
      exact List.forall_mem_cons.mpr ⟨Nat.le_of_not_lt high, highs⟩

/-- A number as it is written is whole. -/
theorem whole_encode (n : Nat) : Whole (encode n) := by
  fun_induction encode n with
  | case1 n small =>
    refine ⟨[], UInt8.ofNat n, rfl, fun _ member => absurd member List.not_mem_nil, ?_⟩
    rw [UInt8.toNat_ofNat_of_lt' (Nat.lt_trans small (by decide))]
    exact small
  | case2 n large ih =>
    obtain ⟨more, last, written, high, low⟩ := ih
    refine ⟨UInt8.ofNat (n % 128 + 128) :: more, last, ?_, ?_, low⟩
    · rw [written, List.cons_append]
    · refine List.forall_mem_cons.mpr ⟨?_, high⟩
      have room : n % 128 + 128 < UInt8.size := Nat.add_lt_add_right (Nat.mod_lt n (by decide)) 128
      rw [UInt8.toNat_ofNat_of_lt' room]
      exact Nat.le_add_left _ _

end Varint

namespace Base58

theorem mem_alphabet_of_mem_digits {count n : Nat} {c : CodePoint} (member : c ∈ digits count n) :
    c ∈ alphabet := by
  induction count generalizing n with
  | zero => cases member
  | succ count ih =>
    rcases List.mem_append.mp member with earlier | last
    · exact ih earlier
    · have inside : n % 58 < alphabet.length := Nat.mod_lt n (by decide)
      obtain rfl := List.mem_singleton.mp last
      rw [List.getD_eq_getElem _ _ inside]
      exact List.getElem_mem inside

theorem not_isBlank_of_mem_encode {bytes : List UInt8} {c : CodePoint} (member : c ∈ encode bytes) :
    Text.isBlank c = false := by
  have visible : ∀ c ∈ alphabet, Text.isBlank c = false := by decide
  obtain ⟨block, _, digit⟩ := List.mem_flatMap.mp member
  exact visible c (mem_alphabet_of_mem_digits digit)

/-- Blanks around a text are no part of what it spells. -/
theorem decode_trim {before core after : Text} {bytes : List UInt8}
    (blank : ∀ c ∈ before ++ after, Text.isBlank c = true) (decoded : decode core = .ok bytes) :
    decode (Text.trim Text.isBlank (before ++ core ++ after)) = .ok bytes := by
  have some : core ≠ [] := by
    rintro rfl
    cases decoded
  obtain ⟨_, rfl⟩ := decode_eq_ok_iff.mp decoded
  rw [Text.trim_append blank (fun c => not_isBlank_of_mem_encode) some]
  exact decoded

end Base58

namespace Address

/-- The address, between blanks, is the text of these bytes: a network number, two keys, and a rest
that has room for a checksum. -/
structure Spells (address : Text) (network keys tail : List UInt8) : Prop where
  text : ∃ before core after, address = before ++ core ++ after
    ∧ (∀ c ∈ before ++ after, Text.isBlank c = true)
    ∧ Base58.decode core = .ok (network ++ keys ++ tail)
  network : Varint.Whole network
  keys : keys.length = 2 * keySize
  tail : checksumSize ≤ tail.length

theorem publicKeys_of_decode {address : Text} {network payload : List UInt8}
    (decoded : Base58.decode (Text.trim Text.isBlank address) = .ok (network ++ payload))
    (whole : Varint.Whole network) :
    publicKeys address =
      if payload.length < 2 * keySize + checksumSize then .error .tooShort
      else .ok (payload.take (2 * keySize)) := by
  obtain ⟨value, read⟩ := Varint.decode_append whole payload
  rw [publicKeys, decoded]
  dsimp only
  rw [read]
  dsimp only
  rw [List.drop_left]

/-- The keys of an address stand where they have been put. -/
theorem publicKeys_eq_ok_iff {address : Text} {keys : List UInt8} :
    publicKeys address = .ok keys ↔ ∃ network tail, Spells address network keys tail := by
  constructor
  · intro found
    cases decoded : Base58.decode (Text.trim Text.isBlank address) with
    | error fault => simp [publicKeys, decoded] at found
    | ok bytes =>
      cases read : Varint.decode bytes with
      | none => simp [publicKeys, decoded, read] at found
      | some number =>
        obtain ⟨network, payload, rfl, whole, _⟩ := Varint.whole_of_decode read
        rw [publicKeys_of_decode decoded whole] at found
        split at found
        case isTrue => cases found
        case isFalse long =>
          obtain rfl := Except.ok.inj found
          obtain ⟨before, after, parts, blank⟩ := Text.exists_trim Text.isBlank address
          refine ⟨network, payload.drop (2 * keySize), ⟨_, _, _, parts, blank, ?_⟩, whole, ?_, ?_⟩
          · rw [List.append_assoc, List.take_append_drop]
            exact decoded
          · rw [List.length_take]
            omega
          · rw [List.length_drop]
            omega
  · rintro ⟨network, tail, ⟨before, core, after, rfl, blank, decoded⟩, whole, size, room⟩
    have decoded := Base58.decode_trim blank decoded
    rw [List.append_assoc network] at decoded
    have long : ¬ (keys ++ tail).length < 2 * keySize + checksumSize := by
      rw [List.length_append]
      omega
    rw [publicKeys_of_decode decoded whole, if_neg long, ← size, List.take_left]

theorem echo_eq_ok_iff {address echoed : Text} :
    echo address = .ok echoed ↔
      ∃ network keys tail, Spells address network keys tail ∧ echoed = Text.ofBytes keys := by
  rw [echo]
  constructor
  · intro found
    cases read : publicKeys address with
    | error fault => simp [read, Except.map] at found
    | ok keys =>
      rw [read] at found
      obtain rfl := Except.ok.inj found
      obtain ⟨network, tail, spells⟩ := publicKeys_eq_ok_iff.mp read
      exact ⟨network, keys, tail, spells, rfl⟩
  · rintro ⟨network, keys, tail, spells, rfl⟩
    rw [publicKeys_eq_ok_iff.mpr ⟨network, tail, spells⟩]
    rfl

/-- An address, blanks around it included, spells what it was built from. -/
theorem echo_encode (before after : Text) {network spendKey viewKey tail : List UInt8}
    (blank : ∀ c ∈ before ++ after, Text.isBlank c = true) (whole : Varint.Whole network)
    (spend : spendKey.length = keySize) (view : viewKey.length = keySize)
    (room : checksumSize ≤ tail.length) :
    echo (before ++ Base58.encode (network ++ spendKey ++ viewKey ++ tail) ++ after) =
      .ok (Text.ofBytes (spendKey ++ viewKey)) := by
  have keys : (spendKey ++ viewKey).length = 2 * keySize := by
    rw [List.length_append, spend, view]
    rfl
  have some : network ++ (spendKey ++ viewKey) ++ tail ≠ [] := by
    rintro nothing
    rw [← List.length_eq_zero_iff, List.length_append, List.length_append, keys] at nothing
    have positive : 0 < 2 * keySize := by decide
    omega
  rw [List.append_assoc network]
  refine echo_eq_ok_iff.mpr
    ⟨network, _, tail, ⟨⟨before, _, after, rfl, blank, ?_⟩, whole, keys, room⟩, rfl⟩
  exact Base58.decode_eq_ok_iff.mpr ⟨some, rfl⟩

/-- The echo of the address that is built from keys is made of these keys. -/
theorem echo_ofKeys {spendKey viewKey tail : List UInt8} (network : Nat)
    (spend : spendKey.length = keySize) (view : viewKey.length = keySize)
    (room : checksumSize ≤ tail.length) :
    echo (ofKeys network spendKey viewKey tail) = .ok (Text.ofBytes (spendKey ++ viewKey)) := by
  have none : ∀ c ∈ ([] ++ [] : Text), Text.isBlank c = true :=
    fun c member => absurd member List.not_mem_nil
  have bare := echo_encode [] [] none (Varint.whole_encode network) spend view room
  rwa [List.nil_append, List.append_nil] at bare

/-- The echo of an address is made of the keys in it, in 128 small hexadecimal digits, and a text in
which there are none has no echo. Whatever network an address is for, with a payment id or without
and with any checksum, its echo is made of the keys from which it was built. -/
theorem echo_made_of_keys :
    (∀ address echoed, echo address = .ok echoed ↔
        ∃ network keys tail, Spells address network keys tail ∧ echoed = Text.ofBytes keys)
      ∧ (∀ address echoed, echo address = .ok echoed →
          echoed.length = 128 ∧ ∀ c ∈ echoed, c ∈ Text.ofString "0123456789abcdef")
      ∧ (∀ address, (¬ ∃ network keys tail, Spells address network keys tail) →
          ∃ fault, echo address = .error fault)
      ∧ ∀ before after network spendKey viewKey paymentId checksum,
          (∀ c ∈ before ++ after, Text.isBlank c = true) → Varint.Whole network →
          spendKey.length = keySize → viewKey.length = keySize → checksum.length = checksumSize →
          echo (before ++ Base58.encode
              (network ++ spendKey ++ viewKey ++ (paymentId ++ checksum)) ++ after) =
            .ok (Text.ofBytes (spendKey ++ viewKey)) := by
  refine ⟨fun address echoed => echo_eq_ok_iff, ?_, ?_, ?_⟩
  · intro address echoed found
    obtain ⟨network, keys, tail, spells, rfl⟩ := echo_eq_ok_iff.mp found
    refine ⟨?_, fun c => Text.mem_of_mem_ofBytes⟩
    rw [Text.length_ofBytes, spells.keys]
    rfl
  · intro address nothing
    cases found : echo address with
    | error fault => exact ⟨fault, rfl⟩
    | ok echoed =>
      obtain ⟨network, keys, tail, spells, _⟩ := echo_eq_ok_iff.mp found
      exact absurd ⟨network, keys, tail, spells⟩ nothing
  · intro before after network spendKey viewKey paymentId checksum blank whole spend view size
    refine echo_encode before after blank whole spend view ?_
    rw [List.length_append, size]
    exact Nat.le_add_left _ _

/-- An integrated address of a network with a long number, between blanks, and a standard address of
the same wallet have the same echo. -/
theorem echo_made_of_keys_integrated :
    echo ("  " ++ Base58.encode ([165, 5] ++ List.replicate 32 1 ++ List.replicate 32 2
          ++ (List.replicate 8 3 ++ [7, 7, 7, 7])) ++ "\n") =
        .ok (Text.ofBytes (List.replicate 32 1 ++ List.replicate 32 2))
      ∧ echo ([] ++ Base58.encode ([18] ++ List.replicate 32 1 ++ List.replicate 32 2
          ++ ([] ++ [0, 0, 0, 0])) ++ []) =
        .ok (Text.ofBytes (List.replicate 32 1 ++ List.replicate 32 2)) := by
  have long : Varint.Whole [165, 5] := ⟨[165], 5, rfl, by simp, by simp⟩
  have short : Varint.Whole [18] := ⟨[], 18, rfl, by simp, by simp⟩
  exact ⟨echo_made_of_keys.2.2.2 _ _ _ _ _ _ _ (by decide) long rfl rfl rfl,
    echo_made_of_keys.2.2.2 _ _ _ _ _ _ _ (by decide) short rfl rfl rfl⟩

end Address

end TransferProof
