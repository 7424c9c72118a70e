import VisitorLink.Proofs.Crypto.Base58
import VisitorLink.Wallet.Local

/-!
# Wallets from a secret

White space around a secret does not count. The rest of the text gives the wallet of the seed that
it is written for, and no other text gives a wallet (`ofSecret_eq_ok_iff`).

Main statement: seeds and secrets give the same wallets, and the address of a wallet is always shown
(`secret_gives_wallet_of_seed`).
-/

namespace VisitorLink

namespace Text

variable {s : List Char}

theorem trimLeft_of_solid (solid : ∀ c ∈ s, isBlank c = false) : trimLeft s = s := by
  cases s with
  | nil => rfl
  | cons c s => exact trimLeft_cons_of_not_blank s (solid c List.mem_cons_self)

/-- White space around a text without white space is trimmed away. -/
theorem trim_padded {before after : List Char} (blank : ∀ c ∈ before ++ after, isBlank c = true)
    (solid : ∀ c ∈ s, isBlank c = false) : trim (before ++ s ++ after) = s := by
  rw [List.forall_mem_append] at blank
  have after_blank : ∀ c ∈ after.reverse, isBlank c = true := by simpa using blank.2
  have left : trimLeft (before ++ s ++ after) = trimLeft (s ++ after) := by
    rw [List.append_assoc]
    exact trimLeft_append_of_blank _ blank.1
  rw [trim, left]
  cases s with
  | nil =>
      have none : trimLeft (after ++ []) = trimLeft [] := trimLeft_append_of_blank [] blank.2
      rw [List.append_nil] at none
      rw [List.nil_append, none]
      rfl
  | cons c s =>
      rw [List.cons_append, trimLeft_cons_of_not_blank _ (solid c List.mem_cons_self),
        ← List.cons_append, List.reverse_append, trimLeft_append_of_blank _ after_blank,
        trimLeft_of_solid fun d mem => solid d (List.mem_reverse.1 mem), List.reverse_reverse]

end Text

/-- No character of an encoded text is blank. -/
theorem Base58.not_isBlank_of_mem_encodeChars {bytes : List UInt8} {c : Char}
    (mem : c ∈ encodeChars bytes) : Text.isBlank c = false := by
  have solid : alphabet.any Text.isBlank = false := by decide +kernel
  have listed : c ∈ alphabet := (mem_alphabet_iff c).2 (isBase58_of_mem_encodeChars mem)
  exact eq_false_of_ne_true (List.any_eq_false.1 solid c listed)

namespace LocalWallet

variable {cause : List Char → String} {text : String} {seed : List UInt8} {wallet : LocalWallet}

/-- The fault of a secret with a character that is not in the alphabet. -/
def notBase58 (cause : String) : ConfigError :=
  .invalid ("signing key is not base58: " ++ cause)

/-- The fault of a secret for another number of bytes. -/
def wrongLength : ConfigError := .invalid "signing key must be 32 bytes"

/-- Thirty-two bytes make a wallet. -/
theorem exists_ofSeed? (length : seed.length = 32) : ∃ wallet, ofSeed? seed = some wallet :=
  ⟨_, dif_pos length⟩

/-- No other number of bytes does. -/
theorem ofSeed?_of_length (length : seed.length ≠ 32) : ofSeed? seed = none :=
  dif_neg length

/-! ## Secrets -/

/-- A secret that is the seed in base 58, with blanks around it, gives the wallet of the seed. -/
theorem ofSecret_of_encoded (made : ofSeed? seed = some wallet)
    (trimmed : Text.trim text.toList = Base58.encodeChars seed) :
    ofSecret cause text = .ok wallet := by
  simp only [ofSecret, trimmed, Base58.decodeChars?_encodeChars, made]

/-- A secret for another number of bytes is refused. -/
theorem ofSecret_of_length (length : seed.length ≠ 32)
    (trimmed : Text.trim text.toList = Base58.encodeChars seed) :
    ofSecret cause text = .error wrongLength := by
  simp only [ofSecret, trimmed, Base58.decodeChars?_encodeChars, ofSeed?_of_length length]
  rfl

/-- A secret with a character outside of the alphabet is refused. -/
theorem ofSecret_of_not_base58
    (other : ∃ c ∈ Text.trim text.toList, Address.isBase58 c = false) :
    ofSecret cause text = .error (notBase58 (cause (Text.trim text.toList))) := by
  simp only [ofSecret, Base58.decodeChars?_eq_none_iff.2 other]
  rfl

/-- What a secret is written for, if it is written for anything. -/
theorem secret_cases (text : String) :
    (∃ c ∈ Text.trim text.toList, Address.isBase58 c = false) ∨
      ∃ bytes, Text.trim text.toList = Base58.encodeChars bytes := by
  cases read : Base58.decodeChars? (Text.trim text.toList) with
  | none => exact .inl (Base58.decodeChars?_eq_none_iff.1 read)
  | some bytes => exact .inr ⟨bytes, Base58.decodeChars?_eq_some_iff.1 read⟩

/-- A secret gives a wallet exactly if it is written for the seed of the wallet. -/
theorem ofSecret_eq_ok_iff : ofSecret cause text = .ok wallet ↔
    ∃ seed, ofSeed? seed = some wallet ∧ Text.trim text.toList = Base58.encodeChars seed := by
  constructor
  · intro ok
    obtain other | ⟨bytes, trimmed⟩ := secret_cases text
    · cases (ofSecret_of_not_base58 other).symm.trans ok
    by_cases length : bytes.length = 32
    · obtain ⟨made, ofSeed⟩ := exists_ofSeed? length
      cases (ofSecret_of_encoded ofSeed trimmed).symm.trans ok
      exact ⟨bytes, ofSeed, trimmed⟩
    · cases (ofSecret_of_length length trimmed).symm.trans ok
  · rintro ⟨seed, made, trimmed⟩
    exact ofSecret_of_encoded made trimmed

/-- Blanks around an encoded text are trimmed. -/
theorem trim_padded_encode {before after : String}
    (blank : ∀ c ∈ (before ++ after).toList, Text.isBlank c = true) (bytes : List UInt8) :
    Text.trim (before ++ Base58.encode bytes ++ after).toList = Base58.encodeChars bytes := by
  rw [String.toList_append] at blank
  rw [String.toList_append, String.toList_append, Base58.encode, String.toList_ofList]
  exact Text.trim_padded blank fun _ => Base58.not_isBlank_of_mem_encodeChars

/-! ## Addresses -/

/-- The address of a wallet is well formed. -/
theorem wellFormed_address (wallet : LocalWallet) : Address.WellFormed wallet.address := by
  have length := Ed25519.length_publicKey wallet.seed
  refine Base58.wellFormed_encode (fun none => ?_) (Nat.le_of_eq length)
  rw [none] at length
  cases length

/-- What a wallet shows is not dropped. -/
theorem shown?_shown? (wallet : LocalWallet) : Address.shown? wallet.shown? = wallet.shown? := by
  unfold shown?
  split
  · exact (Option.filter_some ..).trans (if_pos (decide_eq_true wallet.wellFormed_address))
  · rfl

/-- The base58 text of a seed, with any white space around it, gives the wallet of the seed, and no
other text gives a wallet. Every 32 bytes are written as a well-formed address, so that of a wallet
is never dropped. -/
theorem secret_gives_wallet_of_seed (cause : List Char → String) :
    (∀ (seed : List UInt8) (before after : String), seed.length = 32 →
        (∀ c ∈ (before ++ after).toList, Text.isBlank c = true) →
          ∃ wallet, ofSeed? seed = some wallet ∧
            ofSecret cause (before ++ Base58.encode seed ++ after) = .ok wallet) ∧
      (∀ text : String, (∃ c ∈ Text.trim text.toList, Address.isBase58 c = false) →
        ofSecret cause text = .error (notBase58 (cause (Text.trim text.toList)))) ∧
      (∀ (text : String) (bytes : List UInt8),
        Text.trim text.toList = (Base58.encode bytes).toList → bytes.length ≠ 32 →
          ofSecret cause text = .error wrongLength) ∧
      (∀ (text : String) (wallet : LocalWallet), ofSecret cause text = .ok wallet →
        ∃ seed, ofSeed? seed = some wallet ∧
          Text.trim text.toList = (Base58.encode seed).toList) ∧
      (∀ key : List UInt8, key.length = 32 → Address.WellFormed (Base58.encode key)) ∧
      ∀ wallet : LocalWallet, Address.shown? wallet.shown? = wallet.shown? := by
  simp only [Base58.encode, String.toList_ofList]
  refine ⟨fun seed before after length blank => ?_, fun _ => ofSecret_of_not_base58,
    fun _ _ trimmed length => ofSecret_of_length length trimmed, fun _ _ => ofSecret_eq_ok_iff.1,
    fun key length => ?_, shown?_shown?⟩
  · obtain ⟨wallet, made⟩ := exists_ofSeed? length
    exact ⟨wallet, made, ofSecret_of_encoded made (trim_padded_encode blank seed)⟩
  · refine Base58.wellFormed_encode (fun none => ?_) (Nat.le_of_eq length)
    rw [none] at length
    cases length

/-- A seed of zeros, with blanks around its text, a text with excluded characters, and a text for
one byte. -/
theorem seed_of_zeros_is_read :
    (∃ wallet, ofSeed? (List.replicate 32 0) = some wallet ∧
      ofSecret String.ofList "\t 11111111111111111111111111111111\n" = .ok wallet) ∧
      ofSecret String.ofList " 0OIl" =
        .error (.invalid "signing key is not base58: 0OIl") ∧
      ofSecret String.ofList "2" = .error wrongLength ∧
      Address.WellFormed "11111111111111111111111111111111" := by
  obtain ⟨reads, refuses, refuses_length, _, wellFormed, _⟩ :=
    secret_gives_wallet_of_seed String.ofList
  have zeros : Base58.encode (List.replicate 32 0) = "11111111111111111111111111111111" := by
    decide +kernel
  refine ⟨?_, refuses _ ⟨'0', by decide +kernel, by decide⟩,
    refuses_length _ [1] (by decide +kernel) (by decide), ?_⟩
  · have blank : ("\t " ++ "\n").toList.all Text.isBlank = true := by decide +kernel
    have read := reads (List.replicate 32 0) "\t " "\n" (by decide) (List.all_eq_true.1 blank)
    rw [zeros] at read
    exact read
  · rw [← zeros]
    exact wellFormed _ (by decide)

end LocalWallet

end VisitorLink
