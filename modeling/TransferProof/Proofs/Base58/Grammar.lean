import Mathlib.Data.Nat.Digits.Defs
import TransferProof.Address
import TransferProof.Proofs.Base58.Bijection

/-!
# The grammar of base 58

A text is taken just if it is a row of blocks of digits that are all of a length from the table and
not too great for their bytes. Of every other text the first faulty block is reported, and of this
block its length before its first strange code point, and this before its value.
-/

namespace TransferProof.Base58

/-- The block that comes after so many others, the last one being what is left of the text. -/
def blockAt (t : Text) (i : Nat) : Text :=
  (t.drop (11 * i)).take 11

/-- How many bytes a block of so many digits has. -/
def bytesOf (count : Nat) : Nat :=
  digitCounts.idxOf count

/-- The number that digits spell by their places, the last of them counting ones. -/
def value (block : Text) : Nat :=
  Nat.ofDigits 58 (block.map alphabet.idxOf).reverse

/-- The text is a row of blocks that spell bytes. -/
structure Grammatical (t : Text) : Prop where
  inhabited : t ≠ []
  counted : t.length % 11 ∈ [0, 2, 3, 5, 6, 7, 9, 10]
  digits : ∀ c ∈ t, c ∈ alphabet
  room : ∀ i, 11 * i < t.length → value (blockAt t i) < 256 ^ bytesOf (blockAt t i).length

/-- The bytes are those of the text: each block gives as many as its length says, and they spell its
number. -/
structure Spelled (t : Text) (bytes : List UInt8) : Prop where
  length : bytes.length = 8 * (t.length / 11) + bytesOf (t.length % 11)
  numbers : ∀ i, 11 * i < t.length →
    ofBigEndian ((bytes.drop (8 * i)).take 8) = value (blockAt t i)

/-- What is wrong with a block, by what is looked at first: its length, its digits, its value. -/
inductive Wrong : Text → Text → Prop where
  | length {block : Text} (count : block.length ∉ digitCounts) :
      Wrong block ("Invalid block length " ++ Text.ofNat block.length)
  | digit {before after : Text} {c : CodePoint}
      (count : (before ++ c :: after).length ∈ digitCounts)
      (digits : ∀ d ∈ before, d ∈ alphabet) (stranger : c ∉ alphabet) :
      Wrong (before ++ c :: after) ("Invalid base58 character " ++ Text.quoted [c])
  | value {block : Text} (count : block.length ∈ digitCounts) (digits : ∀ d ∈ block, d ∈ alphabet)
      (large : 256 ^ bytesOf block.length ≤ value block) : Wrong block "Block overflow"

/-- What is said of a text: that there is none, or what is wrong with its first faulty block. -/
inductive Refused : Text → Text → Prop where
  | empty : Refused [] "Empty address"
  | block {t words : Text} {i : Nat} (inside : 11 * i < t.length)
      (before : ∀ j < i, ∀ other, ¬ Wrong (blockAt t j) other) (here : Wrong (blockAt t i) words) :
      Refused t words

theorem idxOf?_eq_some_iff_idxOf {l : List Nat} {a i : Nat} :
    l.idxOf? a = some i ↔ a ∈ l ∧ l.idxOf a = i := by
  induction l generalizing i with
  | nil => simp
  | cons b l ih =>
    by_cases same : b = a
    · simp [List.idxOf?_cons, same]
    · have other : (b == a) = false := beq_eq_false_iff_ne.mpr same
      have absent : a ≠ b := fun here => same here.symm
      simp [List.idxOf?_cons, List.idxOf_cons, other, absent, ih]

section Numbers

theorem value_concat (t : Text) (c : CodePoint) :
    value (t ++ [c]) = 58 * value t + alphabet.idxOf c := by
  simp [value, Nat.ofDigits_cons, Nat.add_comm]

/-- The digits of a block are read from the left, which gives each its place. -/
theorem number_eq_ok_iff_value {t : Text} {m : Nat} :
    number 0 t = .ok m ↔ (∀ c ∈ t, c ∈ alphabet) ∧ value t = m := by
  induction t using List.reverseRecOn generalizing m with
  | nil => simp [number, value]
  | append_singleton t c ih =>
    have last (d : Nat) : digitValue? c = some d ↔ c ∈ alphabet ∧ alphabet.idxOf c = d :=
      idxOf?_eq_some_iff_idxOf
    rw [number_concat_eq_ok_iff, value_concat, List.forall_mem_append]
    constructor
    · rintro ⟨k, d, before, digit, rfl⟩
      obtain ⟨digits, rfl⟩ := ih.mp before
      obtain ⟨known, rfl⟩ := (last d).mp digit
      exact ⟨⟨digits, List.forall_mem_singleton.mpr known⟩, rfl⟩
    · rintro ⟨⟨digits, known⟩, rfl⟩
      exact ⟨value t, alphabet.idxOf c, ih.mpr ⟨digits, rfl⟩,
        (last _).mpr ⟨List.forall_mem_singleton.mp known, rfl⟩, rfl⟩

theorem number_eq_error_iff {n : Nat} {t : Text} {fault : Fault} :
    number n t = .error fault ↔ ∃ before c after, t = before ++ c :: after
      ∧ (∀ d ∈ before, d ∈ alphabet) ∧ c ∉ alphabet ∧ fault = .badDigit c := by
  induction t generalizing n with
  | nil => simp [number]
  | cons first rest ih =>
    rw [number]
    cases found : digitValue? first with
    | none =>
      have stranger : first ∉ alphabet := List.idxOf?_eq_none_iff.mp found
      constructor
      · rintro ⟨rfl⟩
        exact ⟨[], first, rest, rfl, fun _ none => absurd none List.not_mem_nil, stranger, rfl⟩
      · rintro ⟨before, c, after, same, digits, -, rfl⟩
        cases before with
        | nil =>
          obtain ⟨rfl, -⟩ := List.cons.inj same
          rfl
        | cons d before =>
          obtain ⟨rfl, -⟩ := List.cons.inj same
          exact absurd (digits first List.mem_cons_self) stranger
    | some d =>
      have known : first ∈ alphabet := (idxOf?_eq_some_iff_idxOf.mp found).1
      dsimp only
      rw [ih]
      constructor
      · rintro ⟨before, c, after, rfl, digits, stranger, rfl⟩
        exact ⟨first :: before, c, after, rfl, List.forall_mem_cons.mpr ⟨known, digits⟩, stranger,
          rfl⟩
      · rintro ⟨before, c, after, same, digits, stranger, rfl⟩
        cases before with
        | nil =>
          obtain ⟨rfl, -⟩ := List.cons.inj same
          exact absurd known stranger
        | cons d before =>
          obtain ⟨-, rfl⟩ := List.cons.inj same
          exact ⟨before, c, after, rfl, (List.forall_mem_cons.mp digits).2, stranger, rfl⟩

end Numbers

section Blocks

variable {block : Text}

def Fault.words (fault : Fault) : Text :=
  (Address.Fault.encoding fault).message

structure Sound (block : Text) : Prop where
  count : block.length ∈ digitCounts
  digits : ∀ c ∈ block, c ∈ alphabet
  room : value block < 256 ^ bytesOf block.length

theorem decodeBlock_of_count (count : block.length ∈ digitCounts) :
    decodeBlock block = match number 0 block with
      | .error fault => .error fault
      | .ok n => if 256 ^ bytesOf block.length ≤ n then .error .overflow
        else .ok (bigEndian (bytesOf block.length) n) := by
  rw [decodeBlock, idxOf?_eq_some_iff_idxOf.mpr ⟨count, rfl⟩]
  rfl

theorem Sound.decodeBlock (sound : Sound block) :
    decodeBlock block = .ok (bigEndian (bytesOf block.length) (value block)) := by
  rw [decodeBlock_of_count sound.count, number_eq_ok_iff_value.mpr ⟨sound.digits, rfl⟩]
  exact if_neg (Nat.not_le_of_lt sound.room)

/-- What is wrong with a block is said of it. -/
theorem Wrong.decodeBlock {words : Text} (wrong : Wrong block words) :
    ∃ fault, decodeBlock block = .error fault ∧ fault.words = words := by
  cases wrong with
  | length count =>
    refine ⟨.badLength block.length, ?_, rfl⟩
    rw [Base58.decodeBlock, List.idxOf?_eq_none_iff.mpr count]
  | @digit before after c count digits stranger =>
    refine ⟨.badDigit c, ?_, rfl⟩
    rw [decodeBlock_of_count count,
      number_eq_error_iff.mpr ⟨before, c, after, rfl, digits, stranger, rfl⟩]
  | value count digits large =>
    refine ⟨.overflow, ?_, rfl⟩
    rw [decodeBlock_of_count count, number_eq_ok_iff_value.mpr ⟨digits, rfl⟩]
    exact if_pos large

theorem sound_or_wrong (block : Text) : Sound block ∨ ∃ words, Wrong block words := by
  by_cases count : block.length ∈ digitCounts
  · cases spelled : number 0 block with
    | error fault =>
      obtain ⟨before, c, after, rfl, digits, stranger, -⟩ := number_eq_error_iff.mp spelled
      exact .inr ⟨_, .digit count digits stranger⟩
    | ok n =>
      obtain ⟨digits, -⟩ := number_eq_ok_iff_value.mp spelled
      by_cases room : value block < 256 ^ bytesOf block.length
      · exact .inl ⟨count, digits, room⟩
      · exact .inr ⟨_, .value count digits (Nat.not_lt.mp room)⟩
  · exact .inr ⟨_, .length count⟩

theorem Wrong.not_sound {words : Text} (wrong : Wrong block words) : ¬ Sound block := by
  intro sound
  obtain ⟨fault, refused, -⟩ := wrong.decodeBlock
  rw [sound.decodeBlock] at refused
  cases refused

theorem sound_of_not_wrong (fine : ∀ words, ¬ Wrong block words) : Sound block := by
  obtain sound | ⟨words, wrong⟩ := sound_or_wrong block
  · exact sound
  · exact absurd wrong (fine words)

/-- Nothing else is said of it. -/
theorem wrong_of_decodeBlock {fault : Fault} (refused : decodeBlock block = .error fault) :
    Wrong block fault.words := by
  obtain sound | ⟨words, wrong⟩ := sound_or_wrong block
  · rw [sound.decodeBlock] at refused
    cases refused
  · obtain ⟨other, found, rfl⟩ := wrong.decodeBlock
    obtain rfl := Except.error.inj (refused.symm.trans found)
    exact wrong

end Blocks

section Texts

variable {t : Text} {bytes : List UInt8}

/-- The pieces of a list, by their places. -/
theorem getElem?_cut {α : Type} (size : Nat) (xs : List α) (i : Nat) :
    (cut size xs)[i]? = if (size + 1) * i < xs.length
      then some ((xs.drop ((size + 1) * i)).take (size + 1)) else none := by
  fun_induction cut size xs generalizing i with
  | case1 => simp
  | case2 a rest ih =>
    cases i with
    | zero => simp
    | succ i =>
      have place : (size + 1) * (i + 1) = (size + 1) * i + size + 1 := by ring
      have inside : (size + 1) * i < (rest.drop size).length
          ↔ (size + 1) * (i + 1) < (a :: rest).length := by
        rw [List.length_drop, List.length_cons]
        omega
      rw [List.getElem?_cons_succ, ih]
      refine if_congr inside ?_ rfl
      rw [List.drop_drop, place, List.drop_succ_cons,
        Nat.add_comm size ((size + 1) * i)]

theorem blockAt_eq_iff {i : Nat} {block : Text} : (cut 10 t)[i]? = some block ↔
    11 * i < t.length ∧ blockAt t i = block := by
  rw [getElem?_cut, blockAt]
  simp

/-- The first faulty block decides. -/
theorem decodeBlocks_eq_error_iff {blocks : List Text} {fault : Fault} :
    decodeBlocks blocks = .error fault ↔ ∃ (i : Nat) (block : Text), blocks[i]? = some block
      ∧ decodeBlock block = .error fault
      ∧ ∀ j < i, ∀ earlier, blocks[j]? = some earlier → Sound earlier := by
  induction blocks with
  | nil => simp [decodeBlocks]
  | cons first blocks ih =>
    obtain sound | ⟨words, wrong⟩ := sound_or_wrong first
    · have passed : decodeBlocks (first :: blocks) = .error fault ↔
          decodeBlocks blocks = .error fault := by
        rw [decodeBlocks, sound.decodeBlock]
        cases decodeBlocks blocks <;> simp
      rw [passed, ih]
      constructor
      · rintro ⟨i, block, here, refused, before⟩
        refine ⟨i + 1, block, here, refused, ?_⟩
        intro j less earlier there
        cases j with
        | zero =>
          obtain rfl := Option.some.inj there
          exact sound
        | succ j => exact before j (Nat.lt_of_succ_lt_succ less) earlier there
      · rintro ⟨i, block, here, refused, before⟩
        cases i with
        | zero =>
          obtain rfl := Option.some.inj here
          rw [sound.decodeBlock] at refused
          cases refused
        | succ i =>
          exact ⟨i, block, here, refused,
            fun j less earlier there => before (j + 1) (Nat.succ_lt_succ less) earlier there⟩
    · obtain ⟨other, refused, -⟩ := wrong.decodeBlock
      rw [decodeBlocks, refused]
      constructor
      · rintro ⟨rfl⟩
        exact ⟨0, first, rfl, refused, fun j none => absurd none (Nat.not_lt_zero j)⟩
      · rintro ⟨i, block, here, found, before⟩
        cases i with
        | zero =>
          obtain rfl := Option.some.inj here
          exact refused.symm.trans found
        | succ i => exact absurd (before 0 (Nat.succ_pos i) first rfl) wrong.not_sound

theorem decodeBlocks_sound {blocks : List Text} (decoded : decodeBlocks blocks = .ok bytes) :
    ∀ block ∈ blocks, Sound block := by
  induction blocks generalizing bytes with
  | nil => exact nofun
  | cons first blocks ih =>
    obtain sound | ⟨words, wrong⟩ := sound_or_wrong first
    · rw [decodeBlocks, sound.decodeBlock] at decoded
      cases later : decodeBlocks blocks with
      | error fault => simp [later] at decoded
      | ok more => exact List.forall_mem_cons.mpr ⟨sound, ih later⟩
    · obtain ⟨fault, refused, -⟩ := wrong.decodeBlock
      rw [decodeBlocks, refused] at decoded
      cases decoded

/-- A text is refused with the words for its first faulty block. -/
theorem decode_eq_error_iff {words : Text} :
    (∃ fault, decode t = .error fault ∧ fault.words = words) ↔ Refused t words := by
  rw [decode]
  split
  case isTrue nothing =>
    subst nothing
    constructor
    · rintro ⟨fault, ⟨rfl⟩, rfl⟩
      exact .empty
    · intro refused
      cases refused with
      | empty => exact ⟨.empty, rfl, rfl⟩
      | block inside => exact absurd inside (Nat.not_lt_zero _)
  case isFalse something =>
    constructor
    · rintro ⟨fault, refused, rfl⟩
      obtain ⟨i, block, here, refused, before⟩ := decodeBlocks_eq_error_iff.mp refused
      obtain ⟨inside, rfl⟩ := blockAt_eq_iff.mp here
      refine .block inside ?_ (wrong_of_decodeBlock refused)
      intro j less other wrong
      have there : 11 * j < t.length := by omega
      exact wrong.not_sound (before j less _ (blockAt_eq_iff.mpr ⟨there, rfl⟩))
    · intro refused
      cases refused with
      | empty => exact absurd rfl something
      | @block _ _ i inside before here =>
        obtain ⟨fault, refused, same⟩ := here.decodeBlock
        refine ⟨fault, decodeBlocks_eq_error_iff.mpr ?_, same⟩
        refine ⟨i, blockAt t i, blockAt_eq_iff.mpr ⟨inside, rfl⟩, refused, ?_⟩
        intro j less earlier there
        obtain ⟨-, rfl⟩ := blockAt_eq_iff.mp there
        exact sound_of_not_wrong (before j less)

/-- The rows of blocks that spell bytes are those of which each block does. -/
theorem grammatical_iff_sound :
    Grammatical t ↔ t ≠ [] ∧ ∀ i, 11 * i < t.length → Sound (blockAt t i) := by
  have length (i : Nat) : (blockAt t i).length = min 11 (t.length - 11 * i) := by
    rw [blockAt, List.length_take, List.length_drop]
  have short : ∀ count ∈ [0, 2, 3, 5, 6, 7, 9, 10], count ∈ digitCounts := by decide
  have long : ∀ count ∈ digitCounts, count < 11 → count ∈ [0, 2, 3, 5, 6, 7, 9, 10] := by decide
  constructor
  · intro grammatical
    refine ⟨grammatical.inhabited, fun i inside => ⟨?_, ?_, grammatical.room i inside⟩⟩
    · rw [length]
      by_cases full : 11 ≤ t.length - 11 * i
      · rw [Nat.min_eq_left full]
        decide
      · have last : min 11 (t.length - 11 * i) = t.length % 11 := by omega
        rw [last]
        exact short _ grammatical.counted
    · intro c member
      exact grammatical.digits c (List.mem_of_mem_drop (List.mem_of_mem_take member))
  · rintro ⟨inhabited, sound⟩
    refine ⟨inhabited, ?_, ?_, fun i inside => (sound i inside).room⟩
    · by_cases rest : t.length % 11 = 0
      · rw [rest]
        decide
      · have inside : 11 * (t.length / 11) < t.length := by omega
        have last : min 11 (t.length - 11 * (t.length / 11)) = t.length % 11 := by omega
        have count := (sound (t.length / 11) inside).count
        rw [length, last] at count
        exact long _ count (Nat.mod_lt _ (by decide))
    · intro c member
      rw [← flatten_cut 10 t] at member
      obtain ⟨block, here, member⟩ := List.mem_flatten.mp member
      obtain ⟨i, here⟩ := List.mem_iff_getElem?.mp here
      obtain ⟨inside, rfl⟩ := blockAt_eq_iff.mp here
      exact (sound i inside).digits c member

theorem decode_isOk_iff : (∃ bytes, decode t = .ok bytes) ↔ Grammatical t := by
  rw [grammatical_iff_sound]
  constructor
  · rintro ⟨bytes, decoded⟩
    obtain ⟨some, spelled⟩ := decode_eq_ok_iff.mp decoded
    refine ⟨?_, fun i inside => ?_⟩
    · rintro rfl
      cases decoded
    · exact decodeBlocks_sound (decodeBlocks_cut_eq_ok_iff.mpr spelled) _
        (List.mem_of_getElem? (blockAt_eq_iff.mpr ⟨inside, rfl⟩))
  · rintro ⟨inhabited, sound⟩
    cases decoded : decode t with
    | ok bytes => exact ⟨bytes, rfl⟩
    | error fault =>
      have refused : Refused t fault.words := decode_eq_error_iff.mp ⟨fault, decoded, rfl⟩
      generalize fault.words = words at refused
      cases refused with
      | empty => exact absurd rfl inhabited
      | block inside before here => exact absurd (sound _ inside) here.not_sound

theorem length_encode (bytes : List UInt8) : (encode bytes).length =
    11 * (bytes.length / 8) + digitCounts.getD (bytes.length % 8) 0 := by
  rw [encode, fullSize]
  fun_induction cut (8 - 1) bytes with
  | case1 => rfl
  | case2 a rest ih =>
    rw [List.flatMap_cons, List.length_append, ih, length_encodeBlock, List.length_cons,
      List.length_take, List.length_drop, List.length_cons]
    by_cases full : 7 ≤ rest.length
    · have size : min (8 - 1) rest.length + 1 = 8 := by omega
      have rows : (rest.length + 1) / 8 = (rest.length - (8 - 1)) / 8 + 1 := by omega
      have left : (rest.length + 1) % 8 = (rest.length - (8 - 1)) % 8 := by omega
      have whole : digitCounts.getD 8 0 = 11 := rfl
      rw [size, rows, left, whole]
      ring
    · have size : min (8 - 1) rest.length + 1 = rest.length + 1 := by omega
      have rows : (rest.length + 1) / 8 = 0 := by omega
      have left : (rest.length + 1) % 8 = rest.length + 1 := by omega
      have beyond : rest.length - (8 - 1) = 0 := by omega
      rw [size, rows, left, beyond, Nat.add_comm]
      rfl

theorem spelled_of_decode (decoded : decode t = .ok bytes) : Spelled t bytes := by
  obtain ⟨-, rfl⟩ := decode_eq_ok_iff.mp decoded
  have sound := (grammatical_iff_sound.mp (decode_isOk_iff.mp ⟨bytes, decoded⟩)).2
  constructor
  case length =>
    have every : ∀ size < 8, digitCounts.getD size 0 < 11
        ∧ bytesOf (digitCounts.getD size 0) = size := by decide
    obtain ⟨less, size⟩ := every (bytes.length % 8) (Nat.mod_lt _ (by decide))
    have rows : (encode bytes).length / 11 = bytes.length / 8 := by
      rw [length_encode]
      omega
    have left : (encode bytes).length % 11 = digitCounts.getD (bytes.length % 8) 0 := by
      rw [length_encode]
      omega
    rw [rows, left, size]
    exact (Nat.div_add_mod bytes.length 8).symm
  case numbers =>
    intro i inside
    obtain ⟨fit, blocks⟩ := cut_encode bytes
    have here : (cut (fullDigits - 1) (encode bytes))[i]? = some (blockAt (encode bytes) i) :=
      blockAt_eq_iff.mpr ⟨inside, rfl⟩
    rw [blocks, List.getElem?_map] at here
    obtain ⟨part, there, spelled⟩ := Option.map_eq_some_iff.mp here
    have read := decodeBlock_eq_ok_iff.mpr ⟨fit part (List.mem_of_getElem? there), spelled⟩
    rw [(sound i inside).decodeBlock] at read
    have big := Except.ok.inj read
    have piece : (bytes.drop (8 * i)).take 8 = part := by
      rw [getElem?_cut] at there
      split at there
      · exact Option.some.inj there
      · cases there
    rw [piece, ← big]
    exact ofBigEndian_bigEndian (sound i inside).room

end Texts

/-- Bytes are read from a text just if it obeys the grammar, and then each block gives as many as
its length says. Every other text is refused, with the words for its first faulty block. -/
theorem decode_by_grammar (t : Text) :
    ((∃ bytes, decode t = .ok bytes) ↔ Grammatical t)
      ∧ (∀ bytes, decode t = .ok bytes → Spelled t bytes)
      ∧ ∀ words, (∃ fault, decode t = .error fault ∧ fault.words = words) ↔ Refused t words :=
  ⟨decode_isOk_iff, fun _ => spelled_of_decode, fun _ => decode_eq_error_iff⟩

/-- The first block is too great, the second has a strange code point, and the last has a length
that no block has: only the first is reported. -/
theorem decode_by_grammar_first_of_three :
    Refused "zzzzzzzzzzz111101111111" "Block overflow" ∧ ∃ fault,
      decode "zzzzzzzzzzz111101111111" = .error fault ∧ fault.words = "Block overflow" := by
  have first : blockAt "zzzzzzzzzzz111101111111" 0 = "zzzzzzzzzzz" := by decide
  have wrong : Wrong (blockAt "zzzzzzzzzzz111101111111" 0) "Block overflow" := by
    rw [first]
    exact .value (by decide) (by decide) (by decide +kernel)
  have refused : Refused "zzzzzzzzzzz111101111111" "Block overflow" :=
    .block (by decide) (fun j none => absurd none (Nat.not_lt_zero j)) wrong
  exact ⟨refused, ((decode_by_grammar _).2.2 _).mpr refused⟩

end TransferProof.Base58
