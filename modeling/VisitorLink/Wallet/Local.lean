import VisitorLink.Crypto.Base58
import VisitorLink.Crypto.Ed25519
import VisitorLink.Text.Blank
import VisitorLink.Wallet.Accounts

/-!
# A wallet provider with a key of its own

The provider holds a secret of 32 bytes. Its address is the public key in base58, and so is each
signature. It shows the address once accounts have been requested, and neither shows nor signs
anything while it is locked.
-/

namespace VisitorLink

/-- A wallet provider that holds a secret. -/
structure LocalWallet where
  seed : List UInt8
  seed_length : seed.length = 32
  /-- Whether accounts have been granted to this site. -/
  authorized : Bool := false
  locked : Bool := false

namespace LocalWallet

/-- The provider with a given secret, if it has 32 bytes. -/
def ofSeed? (seed : List UInt8) : Option LocalWallet :=
  if h : seed.length = 32 then some { seed := seed, seed_length := h } else none

/-- The provider whose secret is given as a base58 text, white space around it apart. Why a secret
is no such text is told by its cause. -/
def ofSecret (cause : List Char → String) (text : String) : Except ConfigError LocalWallet :=
  let secret := Text.trim text.toList
  match Base58.decodeChars? secret with
  | none => .error (.invalid ("signing key is not base58: " ++ cause secret))
  | some seed =>
      match ofSeed? seed with
      | none => .error (.invalid "signing key must be 32 bytes")
      | some wallet => .ok wallet

/-- The address of the provider. -/
def address (wallet : LocalWallet) : String :=
  Base58.encode (Ed25519.publicKey wallet.seed)

/-- The address that the provider shows. -/
def shown? (wallet : LocalWallet) : Option String :=
  if wallet.authorized && !wallet.locked then some wallet.address else none

/-- The answer to a request for accounts. Unless it is locked, the provider grants it. -/
def requestAccounts (wallet : LocalWallet) : AccountsAnswer × LocalWallet :=
  if wallet.locked then (⟨none, none⟩, wallet)
  else (⟨some AccountsAnswer.granted, none⟩, { wallet with authorized := true })

/-- The signature over a message, or the reason why there is none. -/
def sign (wallet : LocalWallet) (message : String) : Except String String :=
  if wallet.locked then .error "wallet is locked"
  else .ok (Base58.encode (Ed25519.sign wallet.seed message.toUTF8.data.toList))

end LocalWallet

end VisitorLink
