import PasswordSeal.Proofs.Engine.Opening
import PasswordSeal.Proofs.Parameters.Size

/-!
# Getting a secret back

A draft that encrypts also decrypts, once it is given the parameters that the encrypting engine
reports. It gives back the normal form of the secret, and the parameters may have been a blob in
between.
-/
namespace PasswordSeal.Draft
variable {d : Draft} {draw : Draw} {e : Engine}

/-- Given these parameters to decrypt with, the draft builds, and the engine turns the text into the
secret, whatever calls came before. -/
def Restores (d : Draft) (p : Parameters) (text secret : String) : Prop :=
  ∀ draw, ∃ e, d.buildWith [.direction .decrypt, .parameters p] draw = .ok e ∧
    ∀ calls, ((e.after calls).decrypt text).1 = .ok secret

/-- What an engine encrypts is decrypted by the same draft with the parameters of that engine. -/
theorem restores_of_encrypt (hd : d.UsesBuiltIn) (hp : d.settings.parameters = none)
    (he : d.buildWith [.direction .encrypt] draw = .ok e) {calls : List Engine.Call}
    {secret text : String} (ht : ((e.after calls).encrypt secret).1 = .ok text) :
    d.Restores e.parameters text (NormalForm.normalize secret) ∧
      ∀ blob, e.parameters.toBlob = .ok blob → ∃ q, Parameters.ofBlob blob = .ok q ∧
        d.Restores q text (NormalForm.normalize secret) := by
  obtain ⟨plan, a, hs, h, -, hdir, rfl⟩ := exists_of_encrypt hd he
  have hrestores : d.Restores (a.engine plan).parameters text (NormalForm.normalize secret) := by
    intro draw'
    exact ⟨a.opener plan, buildWith_parameters hd hp hs h draw', decrypt_opener h hdir ht⟩
  refine ⟨hrestores, ?_⟩
  intro blob hblob
  exact ⟨_, Parameters.ofBlob_toBlob hblob, hrestores⟩

theorem restores_of_encrypt_sample : (Sample.draft .cbc).UsesBuiltIn ∧
    (Sample.draft .cbc).settings.parameters = none ∧
      (Sample.draft .cbc).buildWith [.direction .encrypt] Sample.draw = .ok (Sample.engine .cbc) ∧
      ∃ text, (((Sample.engine .cbc).after []).encrypt "meet me at noon").1 = .ok text ∧
        (Sample.draft .cbc).Restores (Sample.engine .cbc).parameters text
          (NormalForm.normalize "meet me at noon") ∧
        ∀ blob, (Sample.engine .cbc).parameters.toBlob = .ok blob →
          ∃ q, Parameters.ofBlob blob = .ok q ∧
            (Sample.draft .cbc).Restores q text (NormalForm.normalize "meet me at noon") := by
  obtain ⟨cipher, hc⟩ := (Sample.fits .cbc).exists_cipher
  have htakes : BlockMode.gcm.Takes
      (Utf8.encode (NormalForm.normalize "meet me at noon")).length := by
    decide +kernel
  obtain ⟨text, htext⟩ := ((Sample.fits .cbc).runs hc).exists_text rfl htakes
  exact ⟨Sample.usesBuiltIn .cbc, rfl, Sample.buildWith_encrypt .cbc, text, htext,
    restores_of_encrypt (Sample.usesBuiltIn .cbc) rfl (Sample.buildWith_encrypt .cbc) htext⟩

end PasswordSeal.Draft
