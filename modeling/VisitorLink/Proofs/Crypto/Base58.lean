import VisitorLink.Crypto.Base58
import VisitorLink.Proofs.Crypto.Radix
import VisitorLink.Proofs.Text.Bytes
import VisitorLink.Proofs.Text.Items
import VisitorLink.Wallet.Address

/-!
# Reading base58

A text stands for bytes in base58 exactly if it is the one that is written for them
(`decodeChars?_eq_some_iff`), and the texts that stand for nothing are those with a character that
no address may have (`decodeChars?_eq_none_iff`).

Main statement: up to 32 bytes are written as a well-formed address (`wellFormed_encode`).
-/

namespace VisitorLink.Base58

variable {s : List Char} {bytes : List UInt8} {ds : List Nat}

/-! ## The alphabet -/

theorem digit?_eq_some_iff {c : Char} {digit : Nat} :
    digit? c = some digit ↔ digit < 58 ∧ digitChar digit = c := by
  constructor
  · intro found
    obtain ⟨short, same, _⟩ := List.idxOf?_eq_some_iff.1 found
    refine ⟨short, ?_⟩
    rw [digitChar, List.getD_eq_getElem?_getD, List.getElem?_eq_getElem short, same]
    rfl
  · rintro ⟨short, rfl⟩
    have table : ∀ digit : Fin 58, digit? (digitChar digit.val) = some digit.val := by
      decide +kernel
    exact table ⟨digit, short⟩

/-- The alphabet holds the characters that an address may have. -/
theorem mem_alphabet_iff (c : Char) : c ∈ alphabet ↔ Address.isBase58 c = true := by
  constructor
  · have allowed : alphabet.all Address.isBase58 = true := by decide +kernel
    exact List.all_eq_true.1 allowed c
  · intro base58
    have table : ∀ n : Fin 128, Address.isBase58 (Char.ofNat n.val) = true →
        Char.ofNat n.val ∈ alphabet := by
      decide +kernel
    have small := Text.toNat_lt_of_isAlphanum (Bool.and_eq_true_iff.1 base58).1
    have named := table ⟨c.toNat, small⟩
    rw [Char.ofNat_toNat] at named
    exact named base58

theorem digit?_eq_none_iff {c : Char} : digit? c = none ↔ Address.isBase58 c = false := by
  rw [digit?, List.idxOf?_eq_none_iff, mem_alphabet_iff, Bool.not_eq_true]

/-! ## Digits and bytes -/

theorem mapM_digit?_eq_some_iff :
    s.mapM digit? = some ds ↔ s = ds.map digitChar ∧ ∀ digit ∈ ds, digit < 58 := by
  constructor
  · intro found
    refine ⟨Text.eq_map_of_mapM (fun c _ digit reads => ?_) found, fun digit mem => ?_⟩
    · exact (digit?_eq_some_iff.1 reads).2.symm
    · obtain ⟨c, _, reads⟩ := Text.exists_of_mapM found digit mem
      exact (digit?_eq_some_iff.1 reads).1
  · rintro ⟨rfl, small⟩
    exact Text.mapM_map fun digit mem => digit?_eq_some_iff.2 ⟨small digit mem, rfl⟩

/-- Bytes are written by a change of the radix. -/
theorem encodeChars_eq (bytes : List UInt8) :
    encodeChars bytes = (Radix.rebased 256 58 (bytes.map UInt8.toNat)).map digitChar := by
  have same : (fun digit => digit == 0) ∘ UInt8.toNat = fun byte : UInt8 => byte == 0 := by
    funext byte
    rw [Function.comp, Bool.eq_iff_iff, beq_iff_eq, beq_iff_eq, ← UInt8.toNat_inj]
    rfl
  rw [encodeChars, Radix.rebased, List.map_append, List.takeWhile_map, same, List.map_map]
  congr 1
  refine List.map_congr_left fun byte mem => ?_
  rw [Function.comp, beq_iff_eq.1 (List.mem_takeWhile_imp (p := fun byte : UInt8 => byte == 0) mem)]
  rfl

/-- Bytes are read by the change back. -/
theorem decodeChars?_eq (s : List Char) :
    decodeChars? s =
      (s.mapM digit?).map fun ds => (Radix.rebased 58 256 ds).map UInt8.ofNat := by
  cases found : s.mapM digit? with
  | none => rw [decodeChars?, found]; rfl
  | some ds =>
      rw [decodeChars?, found, Option.map_some, Radix.rebased, List.map_append]
      refine congrArg (fun zeros => some (zeros ++ _)) (List.map_congr_left fun digit mem => ?_)
      rw [beq_iff_eq.1 (Radix.isZero_of_mem_takeWhile mem)]
      rfl

theorem digits_of_bytes (bytes : List UInt8) : ∀ digit ∈ bytes.map UInt8.toNat, digit < 256 :=
  List.forall_mem_map.2 fun byte _ => byte.toNat_lt

/-- Characters stand for bytes exactly if they are those that the bytes are written with. -/
theorem decodeChars?_eq_some_iff : decodeChars? s = some bytes ↔ s = encodeChars bytes := by
  rw [decodeChars?_eq, encodeChars_eq, Option.map_eq_some_iff]
  constructor
  · rintro ⟨ds, found, rfl⟩
    obtain ⟨rfl, small⟩ := mapM_digit?_eq_some_iff.1 found
    have kept : ((Radix.rebased 58 256 ds).map UInt8.ofNat).map UInt8.toNat =
        Radix.rebased 58 256 ds := by
      rw [List.map_map, List.map_congr_left (g := id), List.map_id]
      intro digit mem
      have short := Radix.lt_of_mem_rebased (by decide) digit mem
      rw [Function.comp, UInt8.toNat_ofNat', Nat.mod_eq_of_lt short, id]
    rw [kept, Radix.rebased_rebased (by decide) (by decide) small]
  · rintro rfl
    refine ⟨_, mapM_digit?_eq_some_iff.2 ⟨rfl, Radix.lt_of_mem_rebased (by decide)⟩, ?_⟩
    rw [Radix.rebased_rebased (by decide) (by decide) (digits_of_bytes bytes), List.map_map,
      List.map_congr_left (g := id), List.map_id]
    exact fun byte _ => UInt8.ofNat_toNat

theorem decodeChars?_encodeChars (bytes : List UInt8) :
    decodeChars? (encodeChars bytes) = some bytes :=
  decodeChars?_eq_some_iff.2 rfl

/-- Characters stand for nothing exactly if one of them is out of the alphabet. -/
theorem decodeChars?_eq_none_iff :
    decodeChars? s = none ↔ ∃ c ∈ s, Address.isBase58 c = false := by
  rw [decodeChars?_eq, Option.map_eq_none_iff, Text.mapM_eq_none_iff]
  simp only [digit?_eq_none_iff]

/-! ## Addresses -/

theorem isBase58_of_mem_encodeChars {c : Char} (mem : c ∈ encodeChars bytes) :
    Address.isBase58 c = true := by
  by_contra other
  have unread := decodeChars?_eq_none_iff.2 ⟨c, mem, Bool.not_eq_true _ ▸ other⟩
  rw [decodeChars?_encodeChars] at unread
  cases unread

/-- A byte takes at most two characters. -/
theorem length_encodeChars_le (bytes : List UInt8) :
    (encodeChars bytes).length ≤ 2 * bytes.length := by
  rw [encodeChars_eq, List.length_map, ← List.length_map UInt8.toNat]
  exact Radix.length_rebased_le (by decide) (by decide) (by decide) (by decide)
    (digits_of_bytes bytes)

/-- Some bytes, and at most 32, are written as an address. -/
theorem wellFormed_encode (some : bytes ≠ []) (short : bytes.length ≤ 32) :
    Address.WellFormed (encode bytes) := by
  have ascii : ∀ c ∈ encodeChars bytes, c.val ≤ 127 := fun c mem =>
    UInt32.le_iff_toNat_le.2 (Nat.le_of_lt_succ (Text.toNat_lt_of_isAlphanum
      (Bool.and_eq_true_iff.1 (isBase58_of_mem_encodeChars mem)).1))
  have length := length_encodeChars_le bytes
  rw [Address.wellFormed_iff, encode, Text.utf8ByteSize_ofList_of_ascii ascii, String.toList_ofList,
    Address.maxBytes]
  refine ⟨fun empty => some ?_, by omega, fun c => isBase58_of_mem_encodeChars⟩
  have none : encodeChars bytes = encodeChars [] := String.ofList_injective empty
  have read := decodeChars?_encodeChars bytes
  rw [none, decodeChars?_encodeChars] at read
  exact (Option.some.inj read).symm

end VisitorLink.Base58
