import Mathlib.Data.List.TakeWhile
import TransferProof.Network.Locality
import TransferProof.Proofs.Text.Digits
import TransferProof.Proofs.Text.Lower
import TransferProof.Proofs.Text.Splitting
import TransferProof.Text.Digit

/-!
# Which services are local

A host that is written in letters, digits, hyphens and points has a locality, whatever its port and
the case of its letters. It is local just if it is the name of this machine, or a name below that,
or a dotted quad from a block that is registered as loopback or private.
-/

namespace TransferProof

namespace IpAddress

def dotted (a b c d : Nat) : Text :=
  Text.ofNat a ++ 0x2E :: (Text.ofNat b ++ 0x2E :: (Text.ofNat c ++ 0x2E :: Text.ofNat d))

theorem octet?_eq_some_iff {t : Text} {n : Nat} :
    octet? t = some n ↔ n ≤ 255 ∧ t = Text.ofNat n := by
  constructor
  · intro read
    rw [octet?] at read
    split at read
    case isFalse => cases read
    case isTrue good =>
      obtain ⟨some, digits, -, canonical, small⟩ := good
      obtain rfl := Option.some.inj read
      exact ⟨small, (Text.ofNat_toNat some (List.all_eq_true.mp digits) canonical).symm⟩
  · rintro ⟨small, rfl⟩
    have digits : (Text.ofNat n).all Text.isAsciiDigit = true :=
      List.all_eq_true.mpr fun c member => Text.isAsciiDigit_of_mem_ofNat member
    have short : (Text.ofNat n).length ≤ 3 := by
      rw [Text.ofNat, List.length_map]
      exact (Nat.length_toDigits_le_iff (by decide) (by decide)).mpr (by omega)
    have canonical : Text.ofNat n = [0x30] ∨ (Text.ofNat n).head? ≠ some 0x30 := by
      obtain rfl | positive := Nat.eq_zero_or_pos n
      · exact .inl rfl
      · exact .inr (Text.head?_ofNat_ne positive)
    rw [octet?, Text.toNat_ofNat, if_pos ⟨Text.ofNat_ne_nil n, digits, short, canonical, small⟩]

/-- A dotted quad is four numbers of a byte each, written without zeros at the front. -/
theorem quad?_eq_some_iff {t : Text} {n : Nat} : quad? t = some n ↔
    ∃ a b c d, (a ≤ 255 ∧ b ≤ 255 ∧ c ≤ 255 ∧ d ≤ 255) ∧ t = dotted a b c d ∧ n = quad a b c d := by
  constructor
  · intro read
    rw [quad?] at read
    split at read
    case h_2 => cases read
    case h_1 first second third fourth cut =>
      simp only [Option.bind_eq_bind, Option.bind_eq_some_iff, octet?_eq_some_iff] at read
      obtain ⟨a, ⟨ha, rfl⟩, b, ⟨hb, rfl⟩, c, ⟨hc, rfl⟩, d, ⟨hd, rfl⟩, same⟩ := read
      refine ⟨a, b, c, d, ⟨ha, hb, hc, hd⟩, ?_, (Option.some.inj same).symm⟩
      rw [← Text.joined_pieces 0x2E t, cut]
      simp [Text.joined, dotted]
  · rintro ⟨a, b, c, d, ⟨ha, hb, hc, hd⟩, rfl, rfl⟩
    have whole (n : Nat) : Text.pieces 0x2E (Text.ofNat n) = [Text.ofNat n] := by
      refine Text.pieces_of_not_mem fun point => ?_
      exact absurd (Text.isAsciiDigit_of_mem_ofNat point) (by decide)
    have cut : Text.pieces 0x2E (dotted a b c d) =
        [Text.ofNat a, Text.ofNat b, Text.ofNat c, Text.ofNat d] := by
      rw [dotted, Text.pieces_append, Text.pieces_append, Text.pieces_append, whole, whole, whole,
        whole]
      rfl
    have read {n : Nat} (small : n ≤ 255) : octet? (Text.ofNat n) = some n :=
      octet?_eq_some_iff.mpr ⟨small, rfl⟩
    rw [quad?, cut]
    simp only [read ha, read hb, read hc, read hd]
    rfl

/-- Without colons there is no address of the sixth version. -/
theorem hexadecimal?_of_not_mem {t : Text} (zone : 0x25 ∉ t) (colon : 0x3A ∉ t) :
    hexadecimal? t = none := by
  simp [hexadecimal?, Text.splitFirst_of_not_mem zone, Text.pieces_of_not_mem colon]

end IpAddress

namespace Authority

/-- Code points that mean something in a service address, openly or in disguise, but for the
colon. -/
def marks : List CodePoint :=
  [0x09, 0x0A, 0x0D, 0x2F, 0x3F, 0x23, 0x40, 0x5B, 0x5D, 0x25] ++ Text.disguisedDelimiters

/-- Without marks all that counts is what stands before the first colon. -/
theorem host_of_unmarked {t name : Text} (unmarked : ∀ c ∈ t, c ∉ marks)
    (first : (Text.splitFirst 0x3A t).1 = name) (zone : 0x25 ∉ name) :
    host t = .ok (Text.lower name) := by
  have absent {m : CodePoint} (mark : m ∈ marks) : m ∉ t := fun member => unmarked m member mark
  have kept : (t.filter fun c => c != 0x09 && c != 0x0A && c != 0x0D) = t := by
    refine List.filter_eq_self.mpr fun c member => ?_
    have other := unmarked c member
    simp only [marks, List.cons_append, List.mem_cons, not_or] at other
    simp [other]
  have whole : (t.takeWhile fun c => c != 0x2F && c != 0x3F && c != 0x23) = t := by
    refine List.takeWhile_eq_self_iff.mpr fun c member => ?_
    have other := unmarked c member
    simp only [marks, List.cons_append, List.mem_cons, not_or] at other
    simp [other]
  have authority : ofAddress t = t := by
    rw [ofAddress, kept, whole]
  have opened : t.contains 0x5B = false := by
    simpa using absent (m := 0x5B) (by decide)
  have closed : t.contains 0x5D = false := by
    simpa using absent (m := 0x5D) (by decide)
  have unhidden : Text.hidesDelimiter t = false := by
    refine List.any_eq_false.mpr fun c member => ?_
    have other : c ∉ Text.disguisedDelimiters :=
      fun disguised => unmarked c member (List.mem_append_right _ disguised)
    simpa using other
  have place : place t = t := by
    have at_sign : ∀ c ∈ t.reverse, (c != 0x40) = true :=
      fun c member => Text.ne_of_not_mem (absent (by decide)) c (List.mem_reverse.mp member)
    rw [Authority.place, Text.afterLast, List.takeWhile_eq_self_iff.mpr at_sign,
      List.reverse_reverse]
  have name_eq : hostName t = Text.lower name := by
    rw [hostName, place, rawHost, opened, if_neg Bool.false_ne_true, first,
      Text.splitFirst_of_not_mem zone]
  rw [host, authority, checkBrackets, opened, closed]
  dsimp only
  rw [unhidden, if_neg Bool.false_ne_true, name_eq]

end Authority

namespace Locality

def isHostCode (c : CodePoint) : Bool :=
  Text.isAsciiDigit c || (0x41 ≤ c && c ≤ 0x5A) || (0x61 ≤ c && c ≤ 0x7A) || c == 0x2D || c == 0x2E

/-- The name of this machine or one below it, or an address in four parts that is registered as
loopback or private. -/
def Near (name : Text) : Prop :=
  name = Text.ofString "localhost" ∨ Text.ofString ".localhost" <:+ name
    ∨ ∃ a b c d, (a ≤ 255 ∧ b ≤ 255 ∧ c ≤ 255 ∧ d ≤ 255) ∧ name = IpAddress.dotted a b c d
      ∧ ((IpAddress.v4 (IpAddress.quad a b c d)).isLoopback = true
        ∨ (IpAddress.v4 (IpAddress.quad a b c d)).isPrivate = true)

theorem not_isHostCode_of_mark {c : CodePoint} (mark : c ∈ 0x3A :: Authority.marks) :
    isHostCode c = false ∧ (c ≠ 0x3A → Text.digitValue? c = none) := by
  have every : ∀ c ∈ 0x3A :: Authority.marks,
      isHostCode c = false ∧ (c ≠ 0x3A → Text.digitValue? c = none) := by decide
  exact every c mark

theorem isLocalHost_iff {name : Text} (zone : 0x25 ∉ name) (colon : 0x3A ∉ name) :
    isLocalHost name = true ↔ Near name := by
  have address : IpAddress.ofText? name = (IpAddress.quad? name).map .v4 := by
    rw [IpAddress.ofText?, IpAddress.hexadecimal?_of_not_mem zone colon]
    cases IpAddress.quad? name <;> rfl
  have registered : (∃ a b c d, (a ≤ 255 ∧ b ≤ 255 ∧ c ≤ 255 ∧ d ≤ 255)
      ∧ name = IpAddress.dotted a b c d
      ∧ ((IpAddress.v4 (IpAddress.quad a b c d)).isLoopback = true
        ∨ (IpAddress.v4 (IpAddress.quad a b c d)).isPrivate = true)) ↔
      ∃ n, IpAddress.quad? name = some n
        ∧ ((IpAddress.v4 n).isLoopback = true ∨ (IpAddress.v4 n).isPrivate = true) := by
    simp only [IpAddress.quad?_eq_some_iff]
    constructor
    · rintro ⟨a, b, c, d, small, same, listed⟩
      exact ⟨_, ⟨a, b, c, d, small, same, rfl⟩, listed⟩
    · rintro ⟨n, ⟨a, b, c, d, small, same, rfl⟩, listed⟩
      exact ⟨a, b, c, d, small, same, listed⟩
  rw [isLocalHost, address, Near, registered, Bool.or_eq_true, Bool.or_eq_true, beq_iff_eq,
    List.isSuffixOf_iff_suffix, or_assoc]
  refine or_congr Iff.rfl (or_congr Iff.rfl ?_)
  cases IpAddress.quad? name with
  | none => simp
  | some n => simp

section Hosts

variable {host : Text}

theorem isLocal_of_unmarked {t name : Text} (unmarked : ∀ c ∈ t, c ∉ Authority.marks)
    (first : (Text.splitFirst 0x3A t).1 = name) (zone : 0x25 ∉ name) :
    isLocal t = .ok (isLocalHost (Text.lower name)) := by
  rw [isLocal, Authority.host_of_unmarked unmarked first zone]
  rfl

theorem not_mem_of_plain (plain : ∀ c ∈ host, isHostCode c = true) {m : CodePoint}
    (mark : m ∈ 0x3A :: Authority.marks) : m ∉ host := by
  intro member
  have code := plain m member
  rw [(not_isHostCode_of_mark mark).1] at code
  cases code

theorem ascii_of_isHostCode {c : CodePoint} (code : isHostCode c = true) : c < 0x80 := by
  simp only [isHostCode, Text.isAsciiDigit, Bool.or_eq_true, Bool.and_eq_true, decide_eq_true_eq,
    beq_iff_eq] at code
  obtain (((⟨-, high⟩ | ⟨-, high⟩) | ⟨-, high⟩) | rfl) | rfl := code
  · exact Nat.lt_of_le_of_lt high (by decide)
  · exact Nat.lt_of_le_of_lt high (by decide)
  · exact Nat.lt_of_le_of_lt high (by decide)
  · decide
  · decide

/-- Folding makes letters of letters only. -/
theorem all_isHostCode_foldCase (t : Text) :
    (Numeral.foldCase t).all isHostCode = t.all isHostCode := by
  rw [Numeral.foldCase, List.all_map]
  congr 1
  funext c
  rw [Function.comp_apply]
  split
  case isTrue capital =>
    have every : ∀ k < 26, isHostCode (0x41 + k + 0x20) = isHostCode (0x41 + k) := by decide
    obtain ⟨k, rfl⟩ := Nat.exists_eq_add_of_le capital.1
    have bound : 0x41 + k < 0x41 + 26 := Nat.lt_succ_of_le capital.2
    exact every k (Nat.lt_of_add_lt_add_left bound)
  case isFalse => rfl

theorem lower_of_plain (plain : ∀ c ∈ host, isHostCode c = true) :
    Text.lower host = Numeral.foldCase host :=
  Text.lower_of_ascii fun c member => ascii_of_isHostCode (plain c member)

theorem isLocal_of_plain (plain : ∀ c ∈ host, isHostCode c = true) :
    isLocal host = .ok (isLocalHost (Text.lower host)) := by
  refine isLocal_of_unmarked ?_ ?_ (not_mem_of_plain plain (by decide))
  · intro c member mark
    exact not_mem_of_plain plain (List.mem_cons_of_mem _ mark) member
  · rw [Text.splitFirst_of_not_mem (not_mem_of_plain plain (by decide))]

/-- A port changes nothing. -/
theorem isLocal_port {port : Text} (plain : ∀ c ∈ host, isHostCode c = true)
    (digits : ∀ c ∈ port, (Text.digitValue? c).isSome = true) :
    isLocal (host ++ 0x3A :: port) = isLocal host := by
  rw [isLocal_of_plain plain]
  refine isLocal_of_unmarked ?_ ?_ (not_mem_of_plain plain (by decide))
  · intro c member mark
    rw [List.mem_append, List.mem_cons] at member
    obtain inside | rfl | inside := member
    · exact not_mem_of_plain plain (List.mem_cons_of_mem _ mark) inside
    · exact absurd mark (by decide)
    · have digit := digits c inside
      have strange : c ≠ 0x3A := by
        rintro rfl
        exact absurd mark (by decide)
      rw [(not_isHostCode_of_mark (List.mem_cons_of_mem _ mark)).2 strange] at digit
      cases digit
  · rw [Text.splitFirst_append (not_mem_of_plain plain (by decide))]

theorem isLocal_of_foldCase_eq {other : Text} (plain : ∀ c ∈ host, isHostCode c = true)
    (same : Numeral.foldCase other = Numeral.foldCase host) : isLocal other = isLocal host := by
  have otherPlain : ∀ c ∈ other, isHostCode c = true := by
    rw [← List.all_eq_true, ← all_isHostCode_foldCase, same, all_isHostCode_foldCase,
      List.all_eq_true]
    exact plain
  rw [isLocal_of_plain plain, isLocal_of_plain otherPlain, lower_of_plain plain,
    lower_of_plain otherPlain, same]

theorem isLocal_iff_near (plain : ∀ c ∈ host, isHostCode c = true) :
    isLocal host = .ok true ↔ Near (Text.lower host) := by
  have lowPlain : ∀ c ∈ Text.lower host, isHostCode c = true := by
    rw [lower_of_plain plain, ← List.all_eq_true, all_isHostCode_foldCase, List.all_eq_true]
    exact plain
  rw [isLocal_of_plain plain, Except.ok.injEq]
  exact isLocalHost_iff (not_mem_of_plain lowPlain (by decide))
    (not_mem_of_plain lowPlain (by decide))

end Hosts

/-- A host has a locality, which is the same with any port and in any case of its letters. It is
local just if its name in lower case is near. -/
theorem locality_of_host {host : Text} (plain : ∀ c ∈ host, isHostCode c = true) :
    ∃ answer, isLocal host = .ok answer
      ∧ (∀ port, (∀ c ∈ port, (Text.digitValue? c).isSome = true) →
        isLocal (host ++ 0x3A :: port) = .ok answer)
      ∧ (∀ other, Numeral.foldCase other = Numeral.foldCase host → isLocal other = .ok answer)
      ∧ (answer = true ↔ Near (Text.lower host)) := by
  have answered := isLocal_of_plain plain
  refine ⟨_, answered, ?_, ?_, ?_⟩
  · intro port digits
    rw [isLocal_port plain digits, answered]
  · intro other same
    rw [isLocal_of_foldCase_eq plain same, answered]
  · rw [← isLocal_iff_near plain, answered, Except.ok.injEq]

/-- A name below that of this machine, with a port, and a name that only ends like it. -/
theorem locality_of_host_lookalike :
    isLocal "Node.LocalHost:8081" = .ok true ∧ ¬ Near (Text.lower "notlocalhost") := by
  obtain ⟨answer, found, port, -, -⟩ := @locality_of_host "Node.LocalHost" (by decide)
  obtain ⟨other, refused, -, -, near⟩ := @locality_of_host "notlocalhost" (by decide)
  have here : isLocal "Node.LocalHost" = .ok true := by decide
  have there : isLocal "notlocalhost" = .ok false := by decide
  obtain rfl := Except.ok.inj (found.symm.trans here)
  obtain rfl := Except.ok.inj (refused.symm.trans there)
  exact ⟨port "8081" (by decide), fun close => absurd (near.mpr close) Bool.false_ne_true⟩

end Locality

end TransferProof
