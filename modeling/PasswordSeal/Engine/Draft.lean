import PasswordSeal.Engine.Basic
import PasswordSeal.Provider.Registry
import PasswordSeal.Settings.Basic

/-!
# Drafts of engines

A draft holds settings, the registry in which algorithms are looked up and perhaps a provider that
every lookup is pinned to. Settings are made one after another: the last one of a kind counts, but
parameters stay as they were first given.

Building settles the settings, derives a key and binds a cipher to it. An encrypting cipher gets
parameters without an initialization vector, so that it chooses one of its own; its parameters
replace those it was bound with. A decrypting cipher gets the parameters that were set, or else
ones that are generated around the initialization vector that was set.
-/
namespace PasswordSeal

structure Draft where
  settings : Settings := {}
  registry : Registry := .standard
  pin : Option Provider := none

inductive Setting where
  | password (text : String)
  | passwordChars (chars : List Char)
  | iv (bytes : Bytes)
  | encodedIv (text : String)
  | transformation (name : String)
  | parametersAlgorithm (name : String)
  | salt (bytes : Bytes)
  | iterations (count : UInt32)
  | keyAlgorithm (name : String)
  | keyBits (bits : UInt32)
  | cipherIterations (count : UInt32)
  | cipherSalt (bytes : Bytes)
  | provider (p : Provider)
  | providerName (name : String)
  | alphabet (a : Alphabet)
  | direction (d : Direction)
  | parameters (p : Parameters)

namespace Draft

@[inline] def change (d : Draft) (f : Settings → Settings) : Draft :=
  { d with settings := f d.settings }

def set (d : Draft) : Setting → Except Fault Draft
  | .password text => .ok (d.change ({ · with password := some text }))
  | .passwordChars chars => .ok (d.change ({ · with password := some (String.ofList chars) }))
  | .iv bytes => .ok (d.change ({ · with iv := some bytes }))
  | .encodedIv text => .ok (d.change ({ · with encodedIv := some text }))
  | .transformation name => .ok (d.change ({ · with transformation := some name }))
  | .parametersAlgorithm name => .ok (d.change ({ · with parametersAlgorithm := some name }))
  | .salt bytes => .ok (d.change ({ · with salt := some bytes }))
  | .iterations count => .ok (d.change ({ · with iterations := some count }))
  | .keyAlgorithm name => .ok (d.change ({ · with keyAlgorithm := some name }))
  | .keyBits bits => .ok (d.change ({ · with keyBits := some bits }))
  | .cipherIterations count => .ok (d.change ({ · with cipherIterations := some count }))
  | .cipherSalt bytes => .ok (d.change ({ · with cipherSalt := some bytes }))
  | .provider p => .ok { d with pin := some p }
  | .providerName name => (d.registry.provider name).map fun p => { d with pin := some p }
  | .alphabet a => .ok (d.change ({ · with alphabet := a }))
  | .direction direction => .ok (d.change ({ · with direction := some direction }))
  | .parameters p => .ok (d.change fun s => { s with parameters := s.parameters.or (some p) })

def setAll (d : Draft) (settings : List Setting) : Except Fault Draft :=
  settings.foldlM set d

def deriveKey (d : Draft) (plan : Plan) : Except Fault Key := do
  let derivation ← d.registry.keyDerivation d.pin plan.keyAlgorithm
  let key ← derivation.derive ⟨plan.password, plan.salt, plan.iterations, plan.keyBits⟩
  return key.rewrap plan.transformation

def generate (d : Draft) (plan : Plan) (iv : Option Bytes) : Except Fault Parameters := do
  let generator ← d.registry.generator d.pin plan.parametersAlgorithm
  generator.generate ⟨plan.cipherSalt, plan.cipherIterations, iv⟩

def startParameters (d : Draft) (plan : Plan) : Except Fault Parameters :=
  match plan.direction, plan.parameters with
  | .encrypt, _ => d.generate plan none
  | .decrypt, some p => .ok p
  | .decrypt, none => d.generate plan plan.iv

/-- The parameters that the engine reports: those of an encrypting cipher, if it reports any, and
else those it was bound with. -/
def reported (plan : Plan) (binding : Binding) (p : Parameters) : Parameters :=
  match plan.direction with
  | .encrypt => binding.parameters.getD p
  | .decrypt => p

def buildPlan (d : Draft) (draw : Draw) (plan : Plan) : Except Fault Engine := do
  let key ← d.deriveKey plan
  let cipher ← d.registry.cipher d.pin plan.transformation
  let p ← d.startParameters plan
  let binding ← cipher.bind draw plan.direction key p
  return ⟨cipher.transformation, plan.direction, plan.alphabet, reported plan binding p, binding,
    []⟩

def build (d : Draft) (draw : Draw) : Except Fault Engine := do
  let plan ← d.settings.settle
  d.buildPlan draw plan

def describe (d : Draft) : String :=
  Description.record "Builder"
    [("config", d.settings.describe),
      ("registry", d.registry.describe),
      ("provider", Description.optional (fun p => Text.quote p.name) d.pin)]

end Draft
end PasswordSeal
