import PasswordSeal.Proofs.Engine.RoundTrip
import PasswordSeal.Proofs.Engine.Secrecy
import PasswordSeal.Proofs.Engine.Unread
import PasswordSeal.Proofs.KeyDerivation.Stream

/-!
# Passwords that are one key

A tag sees nothing of its key but the block that the key fills. Keys that fill it alike give the
same tags, and with them the same stream, the same key and in the end the same engine. A password
with NUL characters behind it fills the block like the password alone, for as long as there is room:
the block is filled up with zero bytes anyway. So whatever one of the two passwords seals, the other
opens.
-/
namespace PasswordSeal

section
variable {d : Digest} {key other : Bytes}

theorem Hmac.blockKey_append_zeros {count : Nat} (h : key.length + count ≤ d.blockSize) :
    blockKey d (key ++ List.replicate count 0) = blockKey d key := by
  have hkey : key.length ≤ d.blockSize := by omega
  have hsum : count + (d.blockSize - (key.length + count)) = d.blockSize - key.length := by omega
  simp only [blockKey, List.length_append, List.length_replicate, if_pos h, if_pos hkey,
    List.append_assoc, List.replicate_append_replicate, hsum]

theorem Pbkdf2.derive_congr (h : Hmac.blockKey d key = Hmac.blockKey d other) (salt : Bytes)
    (rounds : UInt32) (length : Nat) :
    derive d key salt rounds length = derive d other salt rounds length := by
  have hstream : stream d key salt rounds.toNat length =
      stream d other salt rounds.toNat length := by
    simp only [stream, h]
  rw [derive_eq_ite, derive_eq_ite, hstream]

theorem Scheme.cipher_bind_congr {s : Scheme} {k k' : Key} (hk : k.material ≠ [])
    (hk' : k'.material ≠ [])
    (h : Hmac.blockKey s.digest k.material = Hmac.blockKey s.digest k'.material) (draw : Draw)
    (direction : Direction) (p : Parameters) :
    s.cipher.bind draw direction k p = s.cipher.bind draw direction k' p := by
  simp only [Scheme.cipher, Scheme.bind, if_neg hk, if_neg hk', Pbkdf2.derive_congr h]

end

def filled (text : String) (count : Nat) : String :=
  text ++ String.ofList (List.replicate count (Char.ofNat 0))

theorem encode_filled (text : String) (count : Nat) :
    Utf8.encode (filled text count) = Utf8.encode text ++ List.replicate count 0 := by
  have hnul : String.utf8EncodeChar (Char.ofNat 0) = [0] := rfl
  simp only [Utf8.encode, filled, String.toList_append, String.toList_ofList, List.flatMap_append,
    List.flatMap_replicate, hnul, List.flatten_replicate_singleton]

theorem filled_ne_empty {text : String} (h : text ≠ "") (count : Nat) : filled text count ≠ "" := by
  intro hempty
  have hlists := congrArg String.toList hempty
  rw [filled, String.toList_append] at hlists
  exact h (String.toList_eq_nil_iff.1 (List.append_eq_nil_iff.1 hlists).1)

namespace Draft
variable {d : Draft} {draw : Draw} {digest : Digest} {p q : String}

/-- The key is derived by PBKDF2 with this digest, under whichever name that is offered. -/
def KeyedBy (d : Draft) (digest : Digest) : Prop :=
  ∃ algorithm natural, d.registry.keyDerivation d.pin d.settings.keyName =
    .ok (.pbkdf2 algorithm digest natural)

theorem keyedBy_of_builtOn (hd : d.UsesBuiltIn)
    (h : KeyDerivation.BuiltOn digest d.settings.keyName) : d.KeyedBy digest := by
  obtain ⟨algorithm, natural, hfound, -⟩ := KeyDerivation.ofName?_builtOn h
  exact ⟨algorithm, natural, (keyDerivation_eq_ok hd).2 hfound⟩

theorem password_of_settles {plan : Plan} (hp : p ≠ "")
    (h : (d.withPassword p).settings.Settles plan) : plan.password = p := by
  have hpassword : (some p).filter (· ≠ "") = some plan.password := h.password
  rw [Option.filter_some, if_pos (decide_eq_true hp)] at hpassword
  exact (Option.some.inj hpassword).symm

theorem deriveKey_congr {plan : Plan}
    (hk : ∃ algorithm natural, d.registry.keyDerivation d.pin plan.keyAlgorithm =
      .ok (.pbkdf2 algorithm digest natural))
    (h : Hmac.blockKey digest (Utf8.encode plan.password) =
      Hmac.blockKey digest (Utf8.encode q)) :
    d.deriveKey { plan with password := q } = d.deriveKey plan := by
  obtain ⟨algorithm, natural, hk⟩ := hk
  simp only [deriveKey, hk, ok_bind, KeyDerivation.pbkdf2, KeyRequest.length,
    Pbkdf2.derive_congr h]

section
variable (hblock : Hmac.blockKey digest (Utf8.encode p) = Hmac.blockKey digest (Utf8.encode q))
variable (hp : p ≠ "") (hq : q ≠ "")
include hblock hp hq

theorem build_congr (hd : d.KeyedBy digest) (draw : Draw) :
    (d.withPassword p).build draw = (d.withPassword q).build draw := by
  have hsettle : (d.withPassword q).settings.settle =
      (d.withPassword p).settings.settle.map fun plan => { plan with password := q } := by
    apply Settings.settle_eq_map
    · refine List.map_congr_left fun stage hstage => ?_
      refine (refusal?_withPassword_of_ne hp hq ?_).symm
      rintro rfl
      exact absurd hstage (by decide)
    · intro plan hplan
      exact settles_withPassword hq hplan
  refine (build_eq hsettle ?_).symm
  intro plan hplan
  have hkey : deriveKey ⟨(d.withPassword q).settings, d.registry, d.pin⟩
        { plan with password := q } =
      deriveKey ⟨(d.withPassword p).settings, d.registry, d.pin⟩ plan := by
    apply deriveKey_congr (d := d.withPassword p)
    · have hname : plan.keyAlgorithm = d.settings.keyName := hplan.keyName
      rw [hname]
      exact hd
    · rw [password_of_settles hp hplan]
      exact hblock
  rw [buildPlan, hkey]
  rfl

theorem buildWith_congr (hd : d.KeyedBy digest) (hparameters : d.settings.parameters = none)
    (x : Parameters) (draw : Draw) :
    (d.withPassword p).buildWith [.direction .decrypt, .parameters x] draw =
      (d.withPassword q).buildWith [.direction .decrypt, .parameters x] draw := by
  rw [buildWith_openedWith (d := d.withPassword p) hparameters,
    buildWith_openedWith (d := d.withPassword q) hparameters]
  exact build_congr hblock hp hq (d := d.openedWith x) hd draw

end

def Opens (digest : Digest) (p q : String) : Prop :=
  ∀ (d : Draft) (draw : Draw) (e : Engine) (calls : List Engine.Call) (secret text : String),
    d.UsesBuiltIn → d.KeyedBy digest → d.settings.parameters = none →
    (d.withPassword p).buildWith [.direction .encrypt] draw = .ok e →
    ((e.after calls).encrypt secret).1 = .ok text →
    (d.withPassword q).Restores e.parameters text (NormalForm.normalize secret)

theorem opens_of_blockKey (hp : p ≠ "") (hq : q ≠ "")
    (h : Hmac.blockKey digest (Utf8.encode p) = Hmac.blockKey digest (Utf8.encode q)) :
    Opens digest p q := by
  intro d draw e calls secret text hd hkeyed hparameters he ht
  obtain ⟨plan, a, hs, hfits, -, hdir, rfl⟩ := exists_of_encrypt (d := d.withPassword p) hd he
  intro draw'
  refine ⟨a.opener plan, ?_, decrypt_opener hfits hdir ht⟩
  rw [← buildWith_congr h hp hq hkeyed hparameters]
  exact buildWith_parameters (d := d.withPassword p) hd hparameters hs hfits draw'

structure Interchangeable (digest : Digest) (p q : String) : Prop where
  derives : ∀ salt rounds length, Pbkdf2.derive digest (Utf8.encode p) salt rounds length =
    Pbkdf2.derive digest (Utf8.encode q) salt rounds length
  builds : ∀ (d : Draft) draw, d.KeyedBy digest →
    (d.withPassword p).build draw = (d.withPassword q).build draw
  builtIn : ∀ d : Draft, d.UsesBuiltIn → KeyDerivation.BuiltOn digest d.settings.keyName →
    d.KeyedBy digest
  forth : Opens digest p q
  back : Opens digest q p

theorem interchangeable_of_blockKey (hp : p ≠ "") (hq : q ≠ "")
    (h : Hmac.blockKey digest (Utf8.encode p) = Hmac.blockKey digest (Utf8.encode q)) :
    Interchangeable digest p q where
  derives := Pbkdf2.derive_congr h
  builds _ draw hd := build_congr h hp hq hd draw
  builtIn _ hd hname := keyedBy_of_builtOn hd hname
  forth := opens_of_blockKey hp hq h
  back := opens_of_blockKey hq hp h.symm

/-- A password stands for itself with NUL characters behind it, as many as its block has room for.
Key material that a scheme is bound with stands for itself with zero bytes behind it. -/
theorem interchangeable_filled {count : Nat} (hp : p ≠ "")
    (hfits : (Utf8.encode p).length + count ≤ digest.blockSize) :
    Interchangeable digest p (filled p count) ∧
      ∀ (s : Scheme) (key : Key) (draw : Draw) (direction : Direction) (x : Parameters),
        s.digest = digest → key.material ≠ [] →
        key.material.length + count ≤ digest.blockSize →
        s.cipher.bind draw direction
            { key with material := key.material ++ List.replicate count 0 } x =
          s.cipher.bind draw direction key x := by
  constructor
  · apply interchangeable_of_blockKey hp (filled_ne_empty hp count)
    rw [encode_filled, Hmac.blockKey_append_zeros hfits]
  · intro s key draw direction x hdigest hkey hroom
    rw [← hdigest] at hroom
    apply Scheme.cipher_bind_congr
    · intro hnil
      exact hkey (List.append_eq_nil_iff.1 hnil).1
    · exact hkey
    · exact Hmac.blockKey_append_zeros hroom

theorem interchangeable_filled_sample : "open sesame" ≠ "" ∧
    (Utf8.encode "open sesame").length + 3 ≤ Digest.sha512.blockSize ∧
    (Sample.draft .cbc).KeyedBy .sha512 ∧
    ((Sample.draft .cbc).withPassword (filled "open sesame" 3)).build Sample.draw =
      .ok (Sample.engine .cbc) := by
  have hne : "open sesame" ≠ "" := by decide
  have hfits : (Utf8.encode "open sesame").length + 3 ≤ Digest.sha512.blockSize := by decide
  have hkeyed : (Sample.draft .cbc).KeyedBy .sha512 :=
    keyedBy_of_builtOn (Sample.usesBuiltIn .cbc) (Or.inl rfl)
  refine ⟨hne, hfits, hkeyed, ?_⟩
  rw [← (interchangeable_filled hne hfits).1.builds _ _ hkeyed]
  exact Sample.build .cbc

end Draft
end PasswordSeal
