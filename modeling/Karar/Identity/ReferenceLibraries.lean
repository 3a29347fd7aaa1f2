import Karar.Foundation.Codec
import Karar.Identity.Ports

/-!
# Reference libraries

A computable stand-in for what the adapters call outside the repository: digests that keep their
material apart, hashes that verify, tokens that open to the payload they were signed with. With the
store of a single account it lets runs be evaluated.
-/

namespace Karar.Identity

open Foundation SharedKernel

namespace ReferenceLibraries

/-- The claims of a payload, one after another. -/
abbrev Claims := Option String × Option String × Option String × Option Int × Option Int ×
  Option String × Option ℕ × Option String

def claimsCodec : Codec Claims :=
  .pair (.option .text) (.pair (.option .text) (.pair (.option .text) (.pair (.option .int)
    (.pair (.option .int) (.pair (.option .text) (.pair (.option .nat) (.option .text)))))))

def claimsOf (payload : JwtPayload) : Claims :=
  ⟨payload.sub, payload.iss, payload.aud, payload.iat, payload.exp, payload.sid, payload.tv,
    payload.purpose⟩

def payloadOf : Claims → JwtPayload
  | ⟨sub, iss, aud, iat, exp, sid, tv, purpose⟩ => { sub, iss, aud, iat, exp, sid, tv, purpose }

def payloadCodec : Codec JwtPayload := claimsCodec.iso claimsOf payloadOf fun _ ↦ rfl

/-- A token is its signature and its payload. -/
def tokenCodec : Codec (String × JwtPayload) := Codec.text.pair payloadCodec

def signJwt (signature : String) (payload : JwtPayload) : String :=
  String.ofList (tokenCodec.write (signature, payload))

def openJwt (token : String) : Option JwtPayload :=
  (tokenCodec.read token.toList).map fun read ↦ read.1.2

/-- Two texts under one digest, kept apart. -/
def digest (key material : String) : String :=
  String.ofList (Codec.text.write key ++ material.toList)

def argon2Verify (passwordHash password : String) : Bool :=
  match Codec.text.read passwordHash.toList with
  | some (_, rest) => rest == password.toList
  | none => false

/-- The secret of the stand-in's authenticator is the code it shows. -/
def totpValid (code secret : String) (_ : Int) : Bool := code == secret

def dependencies (policy : IdentityPolicy) : IdentityDependencies where
  toLowerCase value := String.ofList (value.toList.map Char.toLower)
  toUpperCase value := String.ofList (value.toList.map Char.toUpper)
  normalizeNfc value := value
  argon2Hash := digest
  argon2Verify
  paramsVersion := 1
  hmacSha256 := digest
  sha256 material := "sha256:" ++ material
  verificationPepper := "verification-pepper"
  digestPepper := "digest-pepper"
  totpValid
  totpUri secret label := "otpauth://totp/" ++ label ++ "?secret=" ++ secret
  encrypt _ plaintext := ⟨plaintext.toList.map fun c ↦ c.toNat.toUInt8, "v1"⟩
  decrypt secret := some (String.ofList (secret.ciphertext.map fun byte ↦ Char.ofNat byte.toNat))
  signJwt
  openJwt
  policy
  environment := "test"

/-! ### A single account -/

def owner : UserId := ⟨"11111111-1111-4111-8111-111111111111", isUuid_ones⟩

def ownerAccount : IdentityAccount where
  id := owner
  email := "owner@example.com"
  emailVerifiedAt := some 0
  status := .active
  disabledReason := none
  mfaRequired := false
  tokenVersion := 0
  createdAt := 0
  updatedAt := 0

def ownerCredential : PasswordCredential where
  accountId := owner
  passwordHash := digest "salt" "correct horse"
  paramsVersion := 1
  updatedAt := 0

/-- A table of one row. -/
def single {Row Key Alt : Type} {key : Row → Key} {alt : Row → Alt} (row : Row) :
    KeyedTable key alt :=
  ⟨[row], List.nodup_singleton _, List.nodup_singleton _⟩

/-- A store with one account and its password. -/
def ownerStore : IdentityStore :=
  { IdentityStore.empty with accounts := ⟨single ownerAccount, single ownerCredential⟩ }

def client : ClientContext := ⟨none, none⟩

end ReferenceLibraries

end Karar.Identity
