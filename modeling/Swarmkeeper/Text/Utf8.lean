/-!
Bytes as text in UTF-8. Lossy reading puts the replacement character in the place of each longest
start of a character that its next byte breaks off, and of each byte that starts none.
-/

namespace Swarmkeeper.Text.Utf8

/-- The bytes of a text. -/
def encode (s : String) : List UInt8 := s.toUTF8.toList

/-- A byte that continues a character. -/
def isContinuation (b : UInt8) : Bool := 0x80 ≤ b && b ≤ 0xBF

/-- The payload of a continuation byte. -/
def payload (b : UInt8) : Nat := b.toNat % 64

/-- The bytes that may follow the first byte of a character of several bytes: the bounds of the second
byte, and the number of bytes after the first. -/
def following (b : UInt8) : Option (UInt8 × UInt8 × Nat) :=
  if 0xC2 ≤ b ∧ b ≤ 0xDF then some (0x80, 0xBF, 1)
  else if b = 0xE0 then some (0xA0, 0xBF, 2)
  else if b = 0xED then some (0x80, 0x9F, 2)
  else if 0xE1 ≤ b ∧ b ≤ 0xEF then some (0x80, 0xBF, 2)
  else if b = 0xF0 then some (0x90, 0xBF, 3)
  else if 0xF1 ≤ b ∧ b ≤ 0xF3 then some (0x80, 0xBF, 3)
  else if b = 0xF4 then some (0x80, 0x8F, 3)
  else none

/-- The payload of the first byte of a character with `n` bytes after it. -/
def leadPayload (b : UInt8) (n : Nat) : Nat := b.toNat % Nat.pow 2 (6 - n)

/-- What the front of a list of bytes is: a character, or a number of bytes that form none. -/
inductive Step where
  | char (c : Char) (length : Nat)
  | broken (length : Nat)

/-- Reads one character or one break at the front; the length is at least one. -/
def step (b : UInt8) (rest : List UInt8) : Step :=
  if b < 0x80 then .char (Char.ofNat b.toNat) 1
  else match following b with
    | none => .broken 1
    | some (low, high, n) =>
        match rest with
        | [] => .broken 1
        | c :: rest =>
            if ¬ (low ≤ c ∧ c ≤ high) then .broken 1
            else if n = 1 then .char (Char.ofNat (leadPayload b n * 64 + payload c)) 2
            else match rest with
              | [] => .broken 2
              | d :: rest =>
                  if ¬ isContinuation d then .broken 2
                  else if n = 2 then
                    .char (Char.ofNat ((leadPayload b n * 64 + payload c) * 64 + payload d)) 3
                  else match rest with
                    | [] => .broken 3
                    | e :: _ =>
                        if ¬ isContinuation e then .broken 3
                        else .char
                          (Char.ofNat
                            (((leadPayload b n * 64 + payload c) * 64 + payload d) * 64 + payload e)) 4

/-- The characters of the bytes, with `none` for each break. The fuel is the number of bytes. -/
def pieces : Nat → List UInt8 → List (Option Char)
  | 0, _ | _, [] => []
  | fuel + 1, b :: rest =>
      match step b rest with
      | .char c n => some c :: pieces fuel (rest.drop (n - 1))
      | .broken n => none :: pieces fuel (rest.drop (n - 1))

/-- The text of the bytes, with the replacement character for each break. -/
def decodeLossy (bytes : List UInt8) : String :=
  String.ofList ((pieces bytes.length bytes).map fun p => p.getD '\ufffd')

/-- The text of the bytes, if they have no break. -/
def decode? (bytes : List UInt8) : Option String :=
  ((pieces bytes.length bytes).mapM id).map String.ofList

end Swarmkeeper.Text.Utf8
