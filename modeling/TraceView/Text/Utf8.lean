/-!
UTF-8 over lists of bytes. `Utf8.encode` writes a string; `Utf8.decode` reads any byte list and
shows each maximal ill-formed stretch as one U+FFFD, so decoding never fails.
-/

namespace TraceView

abbrev Bytes := List UInt8

namespace Utf8

def encode (s : String) : Bytes := s.toList.flatMap String.utf8EncodeChar

/-- What a first byte promises: how many bytes follow, and the range of the second one. -/
inductive Lead where
  | ascii
  | two
  | three (low high : UInt8)
  | four (low high : UInt8)
  | stray
  deriving DecidableEq, Repr

def Lead.of (b : UInt8) : Lead :=
  if b < 0x80 then .ascii
  else if b < 0xC2 then .stray
  else if b < 0xE0 then .two
  else if b = 0xE0 then .three 0xA0 0xBF
  else if b = 0xED then .three 0x80 0x9F
  else if b < 0xF0 then .three 0x80 0xBF
  else if b = 0xF0 then .four 0x90 0xBF
  else if b < 0xF4 then .four 0x80 0xBF
  else if b = 0xF4 then .four 0x80 0x8F
  else .stray

def isTail (b : UInt8) : Bool := 0x80 ≤ b && b ≤ 0xBF

def within (b low high : UInt8) : Bool := low ≤ b && b ≤ high

def tailBits (b : UInt8) : Nat := b.toNat % 64

def standIn : Char := '\uFFFD'

/-- What a first byte starts, and how many of the bytes after it belong to that: one scalar value,
or a stand-in for the longest stretch that could still have become one. -/
def scalar (b : UInt8) (bs : Bytes) : Char × Nat :=
  match Lead.of b, bs with
  | .ascii, _ => (Char.ofNat b.toNat, 0)
  | .two, c :: _ =>
    if isTail c then (Char.ofNat (b.toNat % 32 * 64 + tailBits c), 1) else (standIn, 0)
  | .three low high, c :: bs =>
    if within c low high then
      match bs with
      | d :: _ =>
        if isTail d then
          (Char.ofNat (b.toNat % 16 * 4096 + tailBits c * 64 + tailBits d), 2)
        else (standIn, 1)
      | [] => (standIn, 1)
    else (standIn, 0)
  | .four low high, c :: bs =>
    if within c low high then
      match bs with
      | d :: bs =>
        if isTail d then
          match bs with
          | e :: _ =>
            if isTail e then
              (Char.ofNat (b.toNat % 8 * 262144 + tailBits c * 4096 + tailBits d * 64
                + tailBits e), 3)
            else (standIn, 2)
          | [] => (standIn, 2)
        else (standIn, 1)
      | [] => (standIn, 1)
    else (standIn, 0)
  | _, _ => (standIn, 0)

def decodeAfter : Nat → Bytes → List Char
  | _, [] => []
  | k + 1, _ :: bs => decodeAfter k bs
  | 0, b :: bs => (scalar b bs).1 :: decodeAfter (scalar b bs).2 bs

def decode (bs : Bytes) : List Char := decodeAfter 0 bs

theorem decodeAfter_eq (k : Nat) (bs : Bytes) : decodeAfter k bs = decode (bs.drop k) := by
  induction k generalizing bs with
  | zero => rfl
  | succ k ih =>
    cases bs with
    | nil => rfl
    | cons b bs => simpa [decodeAfter] using ih bs

@[simp] theorem decode_nil : decode [] = [] := rfl

theorem decode_cons (b : UInt8) (bs : Bytes) :
    decode (b :: bs) = (scalar b bs).1 :: decode (bs.drop (scalar b bs).2) := by
  rw [← decodeAfter_eq]; rfl

def decodeOnto (seen : List Char) : Nat → Bytes → List Char
  | _, [] => seen.reverse
  | k + 1, _ :: bs => decodeOnto seen k bs
  | 0, b :: bs => decodeOnto ((scalar b bs).1 :: seen) (scalar b bs).2 bs

theorem decodeOnto_eq (seen : List Char) (k : Nat) (bs : Bytes) :
    decodeOnto seen k bs = seen.reverse ++ decodeAfter k bs := by
  induction bs generalizing seen k with
  | nil => cases k <;> simp [decodeOnto, decodeAfter]
  | cons b bs ih => cases k <;> simp [decodeOnto, decodeAfter, ih]

def decodeLossy (bs : Bytes) : String := String.ofList (decodeOnto [] 0 bs)

theorem decodeLossy_eq (bs : Bytes) : decodeLossy bs = String.ofList (decode bs) := by
  simp [decodeLossy, decodeOnto_eq, decode]

def decode? (bs : Bytes) : Option String :=
  let s := decodeLossy bs
  if encode s = bs then some s else none

end Utf8

end TraceView
