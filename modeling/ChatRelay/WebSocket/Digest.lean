import ChatRelay.Bytes

/-! # The digest of a handshake

The 160-bit digest by which a server shows that it has understood a request for a WebSocket. The
message is filled up to blocks of 64 bytes, and every block changes a state of five words in eighty
rounds.
-/

namespace ChatRelay.WebSocket

/-- State of the digest. -/
structure Digest where
  a : UInt32 := 0x67452301
  b : UInt32 := 0xEFCDAB89
  c : UInt32 := 0x98BADCFE
  d : UInt32 := 0x10325476
  e : UInt32 := 0xC3D2E1F0
  deriving Repr, DecidableEq

namespace Digest

/-- Turn the bits of a word to the left. -/
def turn (x : UInt32) (n : UInt32) : UInt32 := (x <<< n) ||| (x >>> (32 - n))

/-- What a round mixes in of the words in the middle. -/
def mixed (round : Nat) (s : Digest) : UInt32 :=
  if round < 20 then ((s.b &&& s.c) ||| (~~~s.b &&& s.d)) + 0x5A827999
  else if round < 40 then (s.b ^^^ s.c ^^^ s.d) + 0x6ED9EBA1
  else if round < 60 then ((s.b &&& s.c) ||| (s.b &&& s.d) ||| (s.c &&& s.d)) + 0x8F1BBCDC
  else (s.b ^^^ s.c ^^^ s.d) + 0xCA62C1D6

/-- One round with its word of the block. -/
def round (number : Nat) (word : UInt32) (s : Digest) : Digest where
  a := turn s.a 5 + mixed number s + s.e + word
  b := s.a
  c := turn s.b 30
  d := s.c
  e := s.d

/-- The word that follows the last sixteen. -/
def nextWord (words : List UInt32) : UInt32 :=
  match words[13]?, words[8]?, words[2]?, words[0]? with
  | some x, some y, some z, some w => turn (x ^^^ y ^^^ z ^^^ w) 1
  | _, _, _, _ => 0

/-- The rounds from `number` on, as many as are left; `words` has the next sixteen words. -/
def rounds : (left : Nat) → (number : Nat) → List UInt32 → Digest → Digest
  | left + 1, number, word :: words, s =>
    rounds left (number + 1) (words ++ [nextWord (word :: words)]) (round number word s)
  | _, _, _, s => s

/-- Words of four bytes, most significant first. -/
def words : Bytes → List UInt32
  | a :: b :: c :: d :: rest =>
    UInt32.ofNat (((a.toNat * 256 + b.toNat) * 256 + c.toNat) * 256 + d.toNat) :: words rest
  | _ => []

/-- The state after a block. -/
def block (s : Digest) (data : Bytes) : Digest :=
  let t := rounds 80 0 (words data) s
  ⟨s.a + t.a, s.b + t.b, s.c + t.c, s.d + t.d, s.e + t.e⟩

/-- The state after a number of blocks. -/
def blocks : (count : Nat) → Bytes → Digest → Digest
  | 0, _, s => s
  | count + 1, data, s => blocks count (data.drop 64) (s.block (data.take 64))

/-- A message filled up to whole blocks, with its length in bits at the end. -/
def padded (message : Bytes) : Bytes :=
  let zeros := (119 - message.length % 64) % 64
  message ++ 0x80 :: List.replicate zeros 0 ++
    (Bytes.littleEndian 8 (8 * message.length)).reverse

/-- The digest of a message. -/
def ofMessage (message : Bytes) : Bytes :=
  let data := padded message
  let s := blocks (data.length / 64) data {}
  [s.a, s.b, s.c, s.d, s.e].flatMap fun word => (Bytes.littleEndian 4 word.toNat).reverse

end Digest
end ChatRelay.WebSocket
