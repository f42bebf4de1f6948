import PasswordSeal.Digest.Sha1
import PasswordSeal.Digest.Sha2

/-!
# The digests

The hash functions that key derivation is built on. `length_hash` says that a digest has the
length of its function, whatever the message.
-/
namespace PasswordSeal

inductive Digest where
  | sha1
  | sha224
  | sha256
  | sha384
  | sha512
  deriving Repr, DecidableEq

namespace Digest

def all : List Digest := [sha1, sha224, sha256, sha384, sha512]

def label : Digest → String
  | sha1 => "SHA1"
  | sha224 => "SHA224"
  | sha256 => "SHA256"
  | sha384 => "SHA384"
  | sha512 => "SHA512"

def size : Digest → Nat
  | sha1 => 20
  | sha224 => 28
  | sha256 => 32
  | sha384 => 48
  | sha512 => 64

def blockSize : Digest → Nat
  | sha1 | sha224 | sha256 => 64
  | sha384 | sha512 => 128

def hash : Digest → Bytes → Bytes
  | sha1, message => Sha1.hash message
  | sha224, message => (Sha2.hash32 Sha2.start224 message).take 28
  | sha256, message => Sha2.hash32 Sha2.start256 message
  | sha384, message => (Sha2.hash64 Sha2.start384 message).take 48
  | sha512, message => Sha2.hash64 Sha2.start512 message

@[simp] theorem length_hash (d : Digest) (message : Bytes) : (d.hash message).length = d.size := by
  cases d <;> simp [hash, size]

theorem size_pos (d : Digest) : 0 < d.size := by
  cases d <;> decide

end Digest
end PasswordSeal
