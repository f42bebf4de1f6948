import PasswordSeal.Proofs.KeyDerivation.Answers
import Mathlib.Data.List.Infix

/-!
# One stream for each digest

PBKDF2 cuts its output from blocks that do not depend on how much is asked for. However many blocks
are made, as long as they are enough, their first bytes are the output; so a shorter output is the
start of a longer one, also where it ends inside a block. All key derivations of a digest, its own
and those of its schemes, cut from this stream.
-/
namespace PasswordSeal
namespace Pbkdf2
variable (d : Digest) (password salt : Bytes) (rounds : Nat)

def blocks (count : Nat) : Bytes :=
  (List.range count).flatMap fun i =>
    block (Hmac.tagWith d (Hmac.blockKey d password)) salt rounds (i + 1)

theorem length_blocks_eq (count : Nat) :
    (blocks d password salt rounds count).length = count * d.size :=
  length_blocks (Hmac.length_tagWith d _) salt rounds count

theorem take_blocks_of_le {length m n : Nat} (hmn : m ≤ n) (h : length ≤ m * d.size) :
    (blocks d password salt rounds n).take length =
      (blocks d password salt rounds m).take length := by
  obtain ⟨more, rfl⟩ := Nat.exists_eq_add_of_le hmn
  have hsplit : ∃ rest, blocks d password salt rounds (m + more) =
      blocks d password salt rounds m ++ rest := by
    rw [blocks, List.range_add, List.flatMap_append]
    exact ⟨_, rfl⟩
  obtain ⟨rest, hrest⟩ := hsplit
  rw [hrest, List.take_append_of_le_length]
  rwa [length_blocks_eq]

theorem take_blocks {length count : Nat} (h : length ≤ count * d.size) :
    (blocks d password salt rounds count).take length = stream d password salt rounds length := by
  have hleast := le_blockCount_mul d.size_pos length
  have hstream : stream d password salt rounds length =
      (blocks d password salt rounds ((length + d.size - 1) / d.size)).take length := rfl
  rw [hstream]
  rcases Nat.le_total count ((length + d.size - 1) / d.size) with hle | hle
  · exact (take_blocks_of_le d password salt rounds hle h).symm
  · exact take_blocks_of_le d password salt rounds hle hleast

theorem take_stream {m n : Nat} (h : m ≤ n) :
    (stream d password salt rounds n).take m = stream d password salt rounds m := by
  have hn : n ≤ n * d.size := Nat.le_mul_of_pos_right n d.size_pos
  rw [← take_blocks d password salt rounds hn, List.take_take, Nat.min_eq_left h,
    take_blocks d password salt rounds (Nat.le_trans h hn)]

theorem stream_isPrefix {m n : Nat} (h : m ≤ n) :
    stream d password salt rounds m <+: stream d password salt rounds n := by
  rw [← take_stream d password salt rounds h]
  exact List.take_prefix m _

end Pbkdf2

namespace KeyDerivation
open KeyRequest (Whole)
variable {d : Digest} {name : String} {k : KeyDerivation}

/-- The names of key derivations that are built on a digest: its own, and those of its schemes. -/
def BuiltOn (d : Digest) (name : String) : Prop :=
  Text.sameIgnoringCase ("PBKDF2WithHmac" ++ d.label) name ∨
    ∃ s ∈ Scheme.all, s.digest = d ∧ Text.sameIgnoringCase s.name name

theorem ofName?_builtOn (h : BuiltOn d name) : ∃ algorithm natural,
    ofName? name = some (pbkdf2 algorithm d natural) ∧ 0 < natural ∧ natural ≤ 64 := by
  rcases h with hname | ⟨s, hs, rfl, hname⟩
  · have hmem : ofDigest d ∈ offered := mem_offered.2 (Or.inr (Or.inl ⟨d, rfl⟩))
    exact ⟨_, _, ofName?_eq_some_iff.2 ⟨hmem, hname⟩, d.size_pos, by cases d <;> decide⟩
  · have hmem : ofScheme s ∈ offered := mem_offered.2 (Or.inl ⟨s, hs, rfl⟩)
    refine ⟨_, _, ofName?_eq_some_iff.2 ⟨hmem, hname⟩, ?_⟩
    have hsize := Scheme.mem_all.1 hs
    omega

theorem derive_pbkdf2_of_whole (algorithm : String) (d : Digest) (natural : Nat)
    {request : KeyRequest} (hsalt : request.salt ≠ []) (hrounds : request.iterations ≠ 0)
    (hbits : Whole request.keyBits) : (pbkdf2 algorithm d natural).derive request =
      .ok ⟨algorithm, Pbkdf2.stream d (Utf8.encode request.password) request.salt
        request.iterations.toNat (request.bytes natural)⟩ := by
  have hlength : failure? (request.length natural) = none := by
    rw [KeyRequest.failure?_length]
    exact refuseIf_neg (KeyRequest.not_uneven_iff.2 hbits)
  obtain ⟨length, hlength⟩ := failure?_eq_none.1 hlength
  rw [← KeyRequest.length_eq_bytes hlength]
  exact derive_pbkdf2_eq_ok.2 ⟨length, hlength, hrounds, hsalt, rfl⟩

theorem derive_pbkdf2_natural (algorithm : String) (d : Digest) {natural : Nat}
    (hpos : 0 < natural) (hle : natural ≤ 64) (request : KeyRequest) :
    (pbkdf2 algorithm d natural).derive { request with keyBits := none } =
      (pbkdf2 algorithm d natural).derive
        { request with keyBits := some (UInt32.ofNat (8 * natural)) } := by
  have hbits : (UInt32.ofNat (8 * natural)).toNat = 8 * natural :=
    UInt32.toNat_ofNat_of_lt' (by rw [UInt32.size]; omega)
  have hlength : KeyRequest.length { request with keyBits := some (UInt32.ofNat (8 * natural)) }
      natural = .ok natural := by
    have heven : ¬ (UInt32.ofNat (8 * natural) = 0 ∨
        (UInt32.ofNat (8 * natural)).toNat % 8 ≠ 0) := by
      rintro (hzero | hrest)
      · rw [hzero] at hbits
        have hnone : (0 : UInt32).toNat = 0 := rfl
        omega
      · omega
    rw [KeyRequest.length]
    dsimp only
    rw [if_neg heven, hbits, Nat.mul_div_cancel_left _ (by decide)]
  dsimp only [pbkdf2]
  rw [hlength]
  rfl

/-- What a digest gives is the start of one stream, whichever way it is asked for. -/
structure SharesStream (d : Digest) : Prop where
  cut : ∀ (password salt : Bytes) (rounds : UInt32) (m n : Nat), salt ≠ [] → rounds ≠ 0 → m ≤ n →
    ∃ output, Pbkdf2.derive d password salt rounds n = .ok output ∧
      Pbkdf2.derive d password salt rounds m = .ok (output.take m)
  offered : ∀ name, BuiltOn d name → ∃ k, Provider.builtIn.keyDerivation? name = some k
  shared : ∀ name name' k k', BuiltOn d name → BuiltOn d name' →
    Provider.builtIn.keyDerivation? name = some k →
    Provider.builtIn.keyDerivation? name' = some k' →
    ∀ (request : KeyRequest) (bits bits' : Option UInt32),
      request.salt ≠ [] → request.iterations ≠ 0 → Whole bits → Whole bits' →
      ∃ key key', k.derive { request with keyBits := bits } = .ok key ∧
        k'.derive { request with keyBits := bits' } = .ok key' ∧
        (key.material.length ≤ key'.material.length → key.material <+: key'.material)
  natural : ∀ name k, BuiltOn d name → Provider.builtIn.keyDerivation? name = some k →
    ∀ request : KeyRequest, k.derive { request with keyBits := none } =
      k.derive { request with keyBits := some (UInt32.ofNat (8 * k.naturalLength)) }

theorem shares_stream (d : Digest) : SharesStream d where
  cut password salt rounds m n hsalt hrounds hmn := by
    refine ⟨_, Pbkdf2.derive_eq_ok.2 ⟨hrounds, hsalt, rfl⟩, ?_⟩
    exact Pbkdf2.derive_eq_ok.2
      ⟨hrounds, hsalt, (Pbkdf2.take_stream d password salt rounds.toNat hmn).symm⟩
  offered name hname := by
    obtain ⟨algorithm, natural, hfound, -⟩ := ofName?_builtOn hname
    exact ⟨_, hfound⟩
  shared name name' k k' hname hname' hk hk' request bits bits' hsalt hrounds hbits hbits' := by
    obtain ⟨algorithm, natural, hfound, -⟩ := ofName?_builtOn hname
    obtain ⟨algorithm', natural', hfound', -⟩ := ofName?_builtOn hname'
    obtain rfl := Option.some.inj (hfound.symm.trans hk)
    obtain rfl := Option.some.inj (hfound'.symm.trans hk')
    refine ⟨_, _, derive_pbkdf2_of_whole algorithm d natural hsalt hrounds hbits,
      derive_pbkdf2_of_whole algorithm' d natural' hsalt hrounds hbits', ?_⟩
    intro hle
    rw [Pbkdf2.length_stream, Pbkdf2.length_stream] at hle
    exact Pbkdf2.stream_isPrefix d _ _ _ hle
  natural name k hname hk request := by
    obtain ⟨algorithm, natural, hfound, hpos, hle⟩ := ofName?_builtOn hname
    obtain rfl := Option.some.inj (hfound.symm.trans hk)
    exact derive_pbkdf2_natural algorithm d hpos hle request

end KeyDerivation
end PasswordSeal
