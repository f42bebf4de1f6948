import PasswordSeal.Cipher.Machine
import PasswordSeal.Main
import PasswordSeal.Text.Utf8.Lemmas
import PasswordSeal.Proofs.Aes.Inverse
import PasswordSeal.Proofs.Mode.Cbc
import PasswordSeal.Proofs.Mode.Gcm
import PasswordSeal.Proofs.Alphabet.RoundTrip
import PasswordSeal.Proofs.Except
import PasswordSeal.Proofs.Parameters.Blob
import PasswordSeal.Proofs.Parameters.Size
import PasswordSeal.Proofs.Cipher.Bind
import PasswordSeal.Proofs.Cipher.NonceUse
import PasswordSeal.Proofs.Cipher.Standing
import PasswordSeal.Proofs.Parameters.Generator
import PasswordSeal.Proofs.Cipher.Reached
import PasswordSeal.Proofs.Engine.Assembly
import PasswordSeal.Proofs.Engine.Calls
import PasswordSeal.Proofs.Settings.Settle
import PasswordSeal.Proofs.Engine.Composition
import PasswordSeal.Proofs.Engine.Opening
import PasswordSeal.Proofs.Engine.RoundTrip
import PasswordSeal.Proofs.Engine.IvRoute
import PasswordSeal.Proofs.Engine.Acceptance
import PasswordSeal.Proofs.KeyDerivation
import PasswordSeal.Proofs.Engine.Refusal
import PasswordSeal.Proofs.Parameters.Layout
import PasswordSeal.Proofs.Parameters.Ending
import PasswordSeal.Proofs.Alphabet.Language
import PasswordSeal.Proofs.Bytes.Hex
import PasswordSeal.Proofs.CommandLine.Printed
import PasswordSeal.Proofs.CommandLine.RoundTrip
import PasswordSeal.Proofs.Alphabet.Hyphen
import PasswordSeal.Proofs.CommandLine.Arguments
import PasswordSeal.Proofs.CommandLine.Reading
import PasswordSeal.Proofs.Engine.Secrecy
import PasswordSeal.Proofs.Provider.Lookup
import PasswordSeal.Proofs.Engine.Parts
import PasswordSeal.Proofs.Engine.Precedence
import PasswordSeal.Proofs.Engine.Reopening
import PasswordSeal.Proofs.Engine.Session
import PasswordSeal.Proofs.Settings.Defaults
import PasswordSeal.Proofs.Cipher.Opposite
import PasswordSeal.Proofs.Engine.Drafting
import PasswordSeal.Proofs.Engine.Unread
import PasswordSeal.Proofs.Engine.OtherVector
import PasswordSeal.Proofs.Scheme
import PasswordSeal.Proofs.Provider.Names
import PasswordSeal.Proofs.KeyDerivation.Answers
import PasswordSeal.Proofs.Alphabet.Renaming
import PasswordSeal.Proofs.KeyDerivation.Stream
import PasswordSeal.Proofs.Engine.Interchange
