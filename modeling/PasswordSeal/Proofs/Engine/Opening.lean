import PasswordSeal.Proofs.Aes.Inverse
import PasswordSeal.Proofs.Alphabet.RoundTrip
import PasswordSeal.Proofs.Engine.Composition
import PasswordSeal.Text.Utf8.Lemmas

/-!
# Decrypting under the plan of an encryption

A plan is turned round when it decrypts instead and something else is known of the parameters. If
the parameters to start from are those that the encrypting engine reports, then the engine that
decrypts is bound to the same AES key and the same vector, whatever else is drawn.
-/
namespace PasswordSeal

def Plan.opening (plan : Plan) (iv : Option Bytes) (parameters : Option Parameters) : Plan :=
  { plan with direction := .decrypt, iv, parameters }

theorem Alphabet.read_encode (a : Alphabet) (bytes : Bytes) :
    a.read (a.encode bytes) = .ok bytes := by
  rw [read, decode_encode]
  rfl

namespace Engine.Runs
variable {e : Engine} {mode : BlockMode} {cipher : BlockCipher} {iv : Bytes}
variable (h : e.Runs mode cipher iv)
include h

theorem exists_sealed (hd : e.direction = .encrypt) {calls : List Call} {secret text : String}
    (ht : ((e.after calls).encrypt secret).1 = .ok text) : ∃ input,
      mode.encrypt? cipher iv (Utf8.encode (NormalForm.normalize secret)) = some input ∧
        text = e.alphabet.encode input := by
  by_cases hfirst : mode = .gcm → ∀ c ∈ calls, ¬ c.Encrypts
  · rw [h.encrypt hd calls secret hfirst] at ht
    cases hinput : mode.encrypt? cipher iv (Utf8.encode (NormalForm.normalize secret)) with
    | none =>
      rw [hinput] at ht
      cases ht
    | some input =>
      rw [hinput] at ht
      exact ⟨input, rfl, (Except.ok.inj ht).symm⟩
  · obtain ⟨hm, hagain⟩ := Classical.not_imp.1 hfirst
    have hsome : ∃ c ∈ calls, c.Encrypts := by
      by_contra hnone
      exact hagain fun c hc he => hnone ⟨c, hc, he⟩
    rw [h.refuse hd hm calls secret hsome] at ht
    cases ht

theorem decrypt_encode (hd : e.direction = .decrypt) (hc : cipher.Permutes) (calls : List Call)
    {secret : String} {input : Bytes}
    (hinput : mode.encrypt? cipher iv (Utf8.encode secret) = some input) :
    ((e.after calls).decrypt (e.alphabet.encode input)).1 = .ok secret := by
  rw [h.decrypt hd, Alphabet.read_encode, ok_bind, (mode.decrypt?_eq_some_iff hc).2 hinput]
  rw [Option.elim_some, secretOf, Utf8.decode_encode]
  rfl

end Engine.Runs

namespace Draft
variable {d : Draft} {draw : Draw} {plan : Plan} {a : Assembly}

def Assembly.opened (a : Assembly) : Assembly :=
  { a with
    start := a.start.withIv a.bound.iv
    bound := ⟨.decrypt, a.bound.key, a.bound.iv, a.start.withIv a.bound.iv⟩ }

def Assembly.opener (a : Assembly) (plan : Plan) : Engine :=
  a.opened.engine (plan.opening none none)

theorem Assembly.Fits.opened (h : a.Fits plan draw) (draw' : Draw) (iv : Option Bytes)
    (parameters : Option Parameters) : a.opened.Fits (plan.opening iv parameters) draw' := by
  have hbound := h.bind_reported draw' .decrypt
  rw [h.parameters_engine] at hbound
  exact ⟨h.derivation, h.key, h.scheme, hbound⟩

theorem build_opener (hd : d.UsesBuiltIn) (h : a.Fits plan draw) {iv : Option Bytes}
    {parameters : Option Parameters} (hs : d.settings.Settles (plan.opening iv parameters))
    (hp : d.startParameters (plan.opening iv parameters) = .ok (a.engine plan).parameters)
    (draw' : Draw) : d.build draw' = .ok (a.opener plan) := by
  rw [h.parameters_engine] at hp
  exact (build_eq_ok hd).2 ⟨_, hs, a.opened, h.opened draw' iv parameters, hp, rfl⟩

theorem parameters_opener (h : a.Fits plan draw) :
    (a.opener plan).parameters = (a.engine plan).parameters := by
  rw [h.parameters_engine]
  rfl

theorem runs_opener (h : a.Fits plan draw) {cipher : BlockCipher}
    (hc : Aes.keyed? a.bound.key = some cipher) :
    (a.opener plan).Runs a.scheme.mode cipher a.bound.iv :=
  (h.opened draw none none).runs hc

theorem decrypt_opener (h : a.Fits plan draw) (hdir : plan.direction = .encrypt)
    {calls : List Engine.Call} {secret text : String}
    (ht : (((a.engine plan).after calls).encrypt secret).1 = .ok text)
    (calls' : List Engine.Call) :
    (((a.opener plan).after calls').decrypt text).1 = .ok (NormalForm.normalize secret) := by
  obtain ⟨cipher, hc⟩ := h.exists_cipher
  obtain ⟨input, hinput, rfl⟩ := (h.runs hc).exists_sealed hdir ht
  exact (runs_opener h hc).decrypt_encode rfl (Aes.keyed?_permutes hc) calls' hinput

def facing (d : Draft) (direction : Direction) : Draft :=
  d.change ({ · with direction := some direction })

theorem buildWith_facing (d : Draft) (direction : Direction) (settings : List Setting)
    (draw : Draw) : d.buildWith (.direction direction :: settings) draw =
      (d.facing direction).buildWith settings draw := rfl

theorem exists_of_encrypt (hd : d.UsesBuiltIn) {e : Engine}
    (he : d.buildWith [.direction .encrypt] draw = .ok e) :
    ∃ plan, ∃ a : Assembly, (d.facing .encrypt).settings.Settles plan ∧ a.Fits plan draw ∧
      (d.facing .encrypt).generate plan none = .ok a.start ∧ plan.direction = .encrypt ∧
        e = a.engine plan := by
  obtain ⟨plan, hs, a, h, hp, he⟩ := (build_eq_ok (d := d.facing .encrypt) hd).1 he
  have hdir : plan.direction = .encrypt := (Option.some.inj hs.direction).symm
  rw [startParameters, hdir] at hp
  exact ⟨plan, a, hs, h, hp, hdir, he⟩

def openedWith (d : Draft) (p : Parameters) : Draft :=
  (d.facing .decrypt).change ({ · with parameters := some p })

theorem buildWith_openedWith (hp : d.settings.parameters = none) (p : Parameters) (draw : Draw) :
    d.buildWith [.direction .decrypt, .parameters p] draw = (d.openedWith p).build draw := by
  have hset : (d.facing .decrypt).set (.parameters p) = .ok (d.openedWith p) := by
    simp [set, openedWith, facing, change, hp]
  rw [buildWith_facing, buildWith, setAll, List.foldlM_cons, hset, ok_bind]
  rfl

theorem settles_openedWith (hs : (d.facing .encrypt).settings.Settles plan) (p : Parameters) :
    (d.openedWith p).settings.Settles (plan.opening plan.iv (some p)) :=
  { hs with direction := rfl, parameters := rfl }

theorem buildWith_parameters (hd : d.UsesBuiltIn) (hp : d.settings.parameters = none)
    (hs : (d.facing .encrypt).settings.Settles plan) (h : a.Fits plan draw) (draw' : Draw) :
    d.buildWith [.direction .decrypt, .parameters (a.engine plan).parameters] draw' =
      .ok (a.opener plan) := by
  rw [buildWith_openedWith hp]
  exact build_opener (d := d.openedWith _) hd h (settles_openedWith hs _) rfl draw'

end Draft
end PasswordSeal
