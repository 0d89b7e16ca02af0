import CompanionStyles.Text.Utf8

/-!
SipHash-1-3 with a zero key: one round for each word of eight bytes and three to finish.
-/

namespace CompanionStyles.SipHash

structure State where
  v0 : UInt64
  v1 : UInt64
  v2 : UInt64
  v3 : UInt64
  deriving DecidableEq, Repr

def State.initial : State :=
  ⟨0x736f6d6570736575, 0x646f72616e646f6d, 0x6c7967656e657261, 0x7465646279746573⟩

def rotateLeft (x n : UInt64) : UInt64 :=
  (x <<< n) ||| (x >>> (64 - n))

def State.round (s : State) : State :=
  let v0 := s.v0 + s.v1
  let v1 := rotateLeft s.v1 13 ^^^ v0
  let v0 := rotateLeft v0 32
  let v2 := s.v2 + s.v3
  let v3 := rotateLeft s.v3 16 ^^^ v2
  let v0 := v0 + v3
  let v3 := rotateLeft v3 21 ^^^ v0
  let v2 := v2 + v1
  let v1 := rotateLeft v1 17 ^^^ v2
  let v2 := rotateLeft v2 32
  ⟨v0, v1, v2, v3⟩

def State.absorb (s : State) (word : UInt64) : State :=
  let s := { s with v3 := s.v3 ^^^ word }.round
  { s with v0 := s.v0 ^^^ word }

def word (bytes : Bytes) : UInt64 :=
  bytes.foldr (fun b w => (w <<< 8) ||| b.toUInt64) 0

/-- The last word holds the bytes that fill no word and, on top, the length. -/
def absorbAll (length : Nat) : Nat → State → Bytes → State
  | 0, s, bytes => s.absorb (word bytes ||| (UInt64.ofNat length <<< 56))
  | n + 1, s, bytes => absorbAll length n (s.absorb (word (bytes.take 8))) (bytes.drop 8)

def hash (bytes : Bytes) : UInt64 :=
  let s := absorbAll bytes.length (bytes.length / 8) .initial bytes
  let s := { s with v2 := s.v2 ^^^ 0xff }.round.round.round
  s.v0 ^^^ s.v1 ^^^ s.v2 ^^^ s.v3

end CompanionStyles.SipHash
