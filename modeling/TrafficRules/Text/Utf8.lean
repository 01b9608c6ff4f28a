/-! # Scalar values in byte strings

Byte strings are lists of bytes and need not be valid UTF-8.

* `Utf8.encode` writes a text as bytes.
* `Utf8.scalar?` reads the scalar value that a byte string starts with, and how many bytes it
  takes. Overlong forms, surrogates and cut-off sequences are none.
* `Utf8.lastScalar?` reads the scalar value in the last bytes of a byte string, given in reverse:
  it goes back over at most three continuation bytes and reads forward from there. -/

namespace TrafficRules

/-- A string of bytes. -/
abbrev Bytes := List UInt8

namespace Utf8

/-- The bytes of a text. -/
def encode (cs : List Char) : Bytes := cs.flatMap String.utf8EncodeChar

def bytesOf (s : String) : Bytes := encode s.toList

def isContinuation (b : UInt8) : Bool := b.toNat / 64 == 2

/-- The six bits of a continuation byte added to the bits read so far. -/
def extend? (high : Nat) (b : UInt8) : Option Nat :=
  if isContinuation b then some (high * 64 + b.toNat % 64) else none

/-- The scalar value with the given number, which needs at least `least` for its length. -/
def checked? (least n length : Nat) : Option (Char × Nat) :=
  if least ≤ n ∧ n.isValidChar then some (Char.ofNat n, length) else none

/-- The scalar value that a byte string starts with, and the number of its bytes. -/
def scalar? : Bytes → Option (Char × Nat)
  | [] => none
  | a :: rest =>
      if a < 0x80 then some (Char.ofNat a.toNat, 1)
      else match rest with
        | [] => none
        | b :: rest => do
            if a < 0xC0 then none
            else if a < 0xE0 then checked? 0x80 (← extend? (a.toNat % 32) b) 2
            else match rest with
              | [] => none
              | c :: rest => do
                  if a < 0xF0 then checked? 0x800 (← extend? (← extend? (a.toNat % 16) b) c) 3
                  else match rest with
                    | [] => none
                    | d :: _ =>
                        if a < 0xF8 then
                          checked? 0x10000
                            (← extend? (← extend? (← extend? (a.toNat % 8) b) c) d) 4
                        else none

/-- The last bytes of a reversed byte string, in order, back to the first byte that is no
continuation byte, and at most `more` bytes behind the last one. -/
def tail (more : Nat) (acc : Bytes) : Bytes → Bytes
  | [] => acc
  | b :: rest =>
      match more with
      | 0 => b :: acc
      | more + 1 => if isContinuation b then tail more (b :: acc) rest else b :: acc

/-- The scalar value that the last bytes of a reversed byte string start with. -/
def lastScalar? (before : Bytes) : Option Char := (scalar? (tail 3 [] before)).map Prod.fst

/-- The text that bytes encode, where they are valid throughout. -/
def decode? (bytes : Bytes) : Option String := String.fromUTF8? ⟨bytes.toArray⟩

end Utf8
end TrafficRules
