import PasswordSeal.Parameters.Basic

/-!
# Parameters as one byte string

A blob holds the algorithm, the salt, the iteration count and the initialization vector, in this
order. Texts and byte strings stand behind their lengths, and the vector behind a tag that says
whether there is one. A number below 251 is one byte; a larger one is a marker and two, four or
eight bytes, the lowest first. Writing takes the shortest form and keeps to a size limit; reading
takes every form and any size, and refuses bytes that are left over.
-/
namespace PasswordSeal.Blob

inductive Flaw where
  | tooLarge
  | endOfText
  | endOfInput
  | bytesLeftOver
  | unknownTag (tag : UInt8)
  | countTooLarge (count : Nat)
  | sixteenByteNumber
  | reservedMarker
  | notText (flaw : Utf8.Flaw)
  deriving Repr, DecidableEq

def Flaw.message : Flaw → String
  | tooLarge => "the size limit has been reached"
  | endOfText => "io error: "
  | endOfInput => "io error: unexpected end of file"
  | bytesLeftOver => "Slice had bytes remaining after deserialization"
  | unknownTag tag =>
    let number := tag.toNat
    s!"tag for enum is not valid, found {number}"
  | countTooLarge count => s!"Invalid u32 {count}: you may have a version disagreement?"
  | sixteenByteNumber =>
    "Invalid value (u128 range): you may have a version or configuration disagreement?"
  | reservedMarker =>
    "\nByte 255 is treated as an extension point; it should not be encoding anything." ++
      "\nDo you have a mismatched bincode version or configuration?\n"
  | notText flaw => "string is not valid utf8: " ++ flaw.message

def sizeLimit : Nat := 4096

def lowestFirst (count n : Nat) : Bytes :=
  (Numeral.toBytes count n).reverse

def writeNumber (n : Nat) : Bytes :=
  if n < 251 then [n.toUInt8]
  else if n < UInt16.size then 251 :: lowestFirst 2 n
  else if n < UInt32.size then 252 :: lowestFirst 4 n
  else 253 :: lowestFirst 8 n

def writeBytes (bytes : Bytes) : Bytes :=
  writeNumber bytes.length ++ bytes

def writeIv : Option Bytes → Bytes
  | none => [0]
  | some iv => 1 :: writeBytes iv

def writeFields (p : Parameters) : Bytes :=
  writeBytes (Utf8.encode p.algorithm) ++ writeBytes p.salt ++
    writeNumber p.iterations.toNat ++ writeIv p.iv

def write (p : Parameters) : Except Flaw Bytes :=
  let blob := writeFields p
  if blob.length ≤ sizeLimit then .ok blob else .error .tooLarge

abbrev Reading (α : Type) := Except Flaw (α × Bytes)

def readExactly (short : Flaw) (count : Nat) (bytes : Bytes) : Reading Bytes :=
  if count ≤ bytes.length then .ok (bytes.take count, bytes.drop count) else .error short

def readLowestFirst (count : Nat) (bytes : Bytes) : Reading Nat :=
  match readExactly .endOfInput count bytes with
  | .error flaw => .error flaw
  | .ok (digits, rest) => .ok (Numeral.ofBytes digits.reverse, rest)

def readNumber : Bytes → Reading Nat
  | [] => .error .endOfInput
  | b :: rest =>
    if b < 251 then .ok (b.toNat, rest)
    else if b = 251 then readLowestFirst 2 rest
    else if b = 252 then readLowestFirst 4 rest
    else if b = 253 then readLowestFirst 8 rest
    else if b = 254 then .error .sixteenByteNumber
    else .error .reservedMarker

def readBytes (short : Flaw) (bytes : Bytes) : Reading Bytes :=
  match readNumber bytes with
  | .error flaw => .error flaw
  | .ok (count, rest) => readExactly short count rest

def readText (bytes : Bytes) : Reading String :=
  match readBytes .endOfText bytes with
  | .error flaw => .error flaw
  | .ok (encoded, rest) =>
    match Utf8.decode encoded with
    | .error flaw => .error (.notText flaw)
    | .ok text => .ok (text, rest)

def readCount (bytes : Bytes) : Reading UInt32 :=
  match readNumber bytes with
  | .error flaw => .error flaw
  | .ok (n, rest) =>
    if n < UInt32.size then .ok (UInt32.ofNat n, rest) else .error (.countTooLarge n)

def readIv : Bytes → Reading (Option Bytes)
  | [] => .error .endOfInput
  | tag :: rest =>
    if tag = 0 then .ok (none, rest)
    else if tag = 1 then
      match readBytes .endOfInput rest with
      | .error flaw => .error flaw
      | .ok (iv, rest) => .ok (some iv, rest)
    else .error (.unknownTag tag)

def readFields (bytes : Bytes) : Except Flaw (Parameters × Bytes) := do
  let (algorithm, bytes) ← readText bytes
  let (salt, bytes) ← readBytes .endOfInput bytes
  let (iterations, bytes) ← readCount bytes
  let (iv, bytes) ← readIv bytes
  return (⟨⟨salt, iterations, iv⟩, algorithm⟩, bytes)

def read (blob : Bytes) : Except Flaw Parameters :=
  match readFields blob with
  | .error flaw => .error flaw
  | .ok (p, []) => .ok p
  | .ok (_, _ :: _) => .error .bytesLeftOver

end PasswordSeal.Blob
