import RuleStack.Text.Basic
set_option autoImplicit false

namespace RuleStack.Digest.Sha256

structure State where
  a : UInt32
  b : UInt32
  c : UInt32
  d : UInt32
  e : UInt32
  f : UInt32
  g : UInt32
  h : UInt32

def initial : State :=
  ⟨0x6A09E667, 0xBB67AE85, 0x3C6EF372, 0xA54FF53A, 0x510E527F, 0x9B05688C, 0x1F83D9AB, 0x5BE0CD19⟩

def constants : Array UInt32 := #[
  0x428A2F98, 0x71374491, 0xB5C0FBCF, 0xE9B5DBA5, 0x3956C25B, 0x59F111F1, 0x923F82A4, 0xAB1C5ED5,
  0xD807AA98, 0x12835B01, 0x243185BE, 0x550C7DC3, 0x72BE5D74, 0x80DEB1FE, 0x9BDC06A7, 0xC19BF174,
  0xE49B69C1, 0xEFBE4786, 0x0FC19DC6, 0x240CA1CC, 0x2DE92C6F, 0x4A7484AA, 0x5CB0A9DC, 0x76F988DA,
  0x983E5152, 0xA831C66D, 0xB00327C8, 0xBF597FC7, 0xC6E00BF3, 0xD5A79147, 0x06CA6351, 0x14292967,
  0x27B70A85, 0x2E1B2138, 0x4D2C6DFC, 0x53380D13, 0x650A7354, 0x766A0ABB, 0x81C2C92E, 0x92722C85,
  0xA2BFE8A1, 0xA81A664B, 0xC24B8B70, 0xC76C51A3, 0xD192E819, 0xD6990624, 0xF40E3585, 0x106AA070,
  0x19A4C116, 0x1E376C08, 0x2748774C, 0x34B0BCB5, 0x391C0CB3, 0x4ED8AA4A, 0x5B9CCA4F, 0x682E6FF3,
  0x748F82EE, 0x78A5636F, 0x84C87814, 0x8CC70208, 0x90BEFFFA, 0xA4506CEB, 0xBEF9A3F7, 0xC67178F2]

def rotate (x : UInt32) (n : UInt32) : UInt32 := (x >>> n) ||| (x <<< (32 - n))

def choice (x y z : UInt32) : UInt32 := (x &&& y) ^^^ (~~~x &&& z)

def majority (x y z : UInt32) : UInt32 := (x &&& y) ^^^ (x &&& z) ^^^ (y &&& z)

def byteAt (bytes : ByteArray) (i : Nat) : UInt32 := ((bytes[i]?).getD 0).toUInt32

/-- The big-endian word at a byte offset. -/
def wordAt (bytes : ByteArray) (i : Nat) : UInt32 :=
  (byteAt bytes i <<< 24) ||| (byteAt bytes (i + 1) <<< 16) ||| (byteAt bytes (i + 2) <<< 8) |||
    byteAt bytes (i + 3)

def extend (words : Array UInt32) : Array UInt32 :=
  let back (n : Nat) := (words[words.size - n]?).getD 0
  let s₀ := rotate (back 15) 7 ^^^ rotate (back 15) 18 ^^^ (back 15 >>> 3)
  let s₁ := rotate (back 2) 17 ^^^ rotate (back 2) 19 ^^^ (back 2 >>> 10)
  words.push (back 16 + s₀ + back 7 + s₁)

def schedule (bytes : ByteArray) (offset : Nat) : Array UInt32 :=
  (List.range 48).foldl (fun words _ => extend words)
    ((List.range 16).foldl (fun words i => words.push (wordAt bytes (offset + 4 * i))) #[])

def round (s : State) (constant word : UInt32) : State :=
  let t₁ := s.h + (rotate s.e 6 ^^^ rotate s.e 11 ^^^ rotate s.e 25) + choice s.e s.f s.g +
    constant + word
  let t₂ := (rotate s.a 2 ^^^ rotate s.a 13 ^^^ rotate s.a 22) + majority s.a s.b s.c
  ⟨t₁ + t₂, s.a, s.b, s.c, s.d + t₁, s.e, s.f, s.g⟩

def State.add (s t : State) : State :=
  ⟨s.a + t.a, s.b + t.b, s.c + t.c, s.d + t.d, s.e + t.e, s.f + t.f, s.g + t.g, s.h + t.h⟩

def compress (bytes : ByteArray) (s : State) (block : Nat) : State :=
  let words := schedule bytes (64 * block)
  s.add ((List.range 64).foldl
    (fun s i => round s ((constants[i]?).getD 0) ((words[i]?).getD 0)) s)

def wordBytes (w : UInt32) : List UInt8 :=
  [(w >>> 24).toUInt8, (w >>> 16).toUInt8, (w >>> 8).toUInt8, w.toUInt8]

/-- The bytes of a number below `2 ^ 64`, the highest first. -/
def lengthBytes (n : Nat) : List UInt8 :=
  (List.range 8).map (fun i => UInt8.ofNat (n / Nat.pow 256 (7 - i)))

/-- The message, a one bit, zeros, and the length in bits at the end of a whole block. -/
def pad (bytes : ByteArray) : ByteArray :=
  let zeros := (119 - bytes.size % 64) % 64
  (0x80 :: (List.replicate zeros 0 ++ lengthBytes (8 * bytes.size))).foldl ByteArray.push bytes

def State.bytes (s : State) : List UInt8 :=
  [s.a, s.b, s.c, s.d, s.e, s.f, s.g, s.h].flatMap wordBytes

@[simp] theorem State.length_bytes (s : State) : s.bytes.length = 32 := rfl

end Sha256

def sha256 (bytes : ByteArray) : List UInt8 :=
  let padded := Sha256.pad bytes
  ((List.range (padded.size / 64)).foldl (Sha256.compress padded) Sha256.initial).bytes

@[simp] theorem length_sha256 (bytes : ByteArray) : (sha256 bytes).length = 32 :=
  Sha256.State.length_bytes _

end RuleStack.Digest

namespace RuleStack.Digest

def hexByte (b : UInt8) : List Char := [Text.hexDigit (b.toNat / 16), Text.hexDigit (b.toNat % 16)]

def hexChars (bytes : List UInt8) : List Char := bytes.flatMap hexByte

def hex (bytes : List UInt8) : String := String.ofList (hexChars bytes)

/-- The first `n` characters, or all of them where there are fewer. -/
def short (n : Nat) (digest : String) : String := String.ofList (digest.toList.take n)

def bytes? : List Char → Option (List UInt8)
  | [] => some []
  | a :: b :: rest =>
    match Text.hexValue? a, Text.hexValue? b, bytes? rest with
    | some x, some y, some bytes => some (UInt8.ofNat (16 * x + y) :: bytes)
    | _, _, _ => none
  | _ => none

def hexOf (bytes : ByteArray) : String := hex (sha256 bytes)

end RuleStack.Digest
