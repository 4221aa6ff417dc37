/-!
# UTF-8

Reads text from bytes, and says where and how bytes fail to be text: a sequence that cannot
continue, with the number of bytes that are bad together, or one that the end cuts off.
-/

namespace Refetch.Text

/-- Why bytes are no text. -/
inductive Utf8Error where
  /-- so many bytes from this index on cannot start or continue a character -/
  | invalid (length index : Nat)
  /-- the bytes from this index on start a character and end too soon -/
  | incomplete (index : Nat)
  deriving DecidableEq, Repr

/-- The error in words. -/
def Utf8Error.message : Utf8Error → String
  | invalid length index =>
    "invalid utf-8 sequence of " ++ toString length ++ " bytes from index " ++ toString index
  | incomplete index => "incomplete utf-8 byte sequence from index " ++ toString index

/-- The bounds of the second byte of a character of three bytes: no longer form than needed,
and no surrogate. -/
def secondOfThree (first : UInt8) : UInt8 × UInt8 :=
  if first = 0xe0 then (0xa0, 0xbf) else if first = 0xed then (0x80, 0x9f) else (0x80, 0xbf)

/-- The bounds of the second byte of a character of four bytes: no longer form than needed,
and nothing beyond the last code point. -/
def secondOfFour (first : UInt8) : UInt8 × UInt8 :=
  if first = 0xf0 then (0x90, 0xbf) else if first = 0xf4 then (0x80, 0x8f) else (0x80, 0xbf)

/-- Does a byte lie between two bounds? -/
def within (bounds : UInt8 × UInt8) (byte : UInt8) : Bool := bounds.1 ≤ byte && byte ≤ bounds.2

/-- The bounds of the further bytes of a character. -/
def continuation : UInt8 × UInt8 := (0x80, 0xbf)

/-- The six bits that a further byte adds. -/
def lowBits (byte : UInt8) : Nat := byte.toNat % 64

/-- Reads the characters of some bytes, of which the first has the given index. -/
def charsFrom (index : Nat) : List UInt8 → Except Utf8Error (List Char)
  | [] => .ok []
  | a :: rest =>
    if a < 0x80 then
      (charsFrom (index + 1) rest).map (Char.ofNat a.toNat :: ·)
    else if within (0xc2, 0xdf) a then
      match rest with
      | [] => .error (.incomplete index)
      | b :: rest =>
        if !within continuation b then .error (.invalid 1 index)
        else
          let code := 64 * (a.toNat % 32) + lowBits b
          (charsFrom (index + 2) rest).map (Char.ofNat code :: ·)
    else if within (0xe0, 0xef) a then
      match rest with
      | [] => .error (.incomplete index)
      | b :: rest =>
        if !within (secondOfThree a) b then .error (.invalid 1 index)
        else match rest with
          | [] => .error (.incomplete index)
          | c :: rest =>
            if !within continuation c then .error (.invalid 2 index)
            else
              let code := 4096 * (a.toNat % 16) + 64 * lowBits b + lowBits c
              (charsFrom (index + 3) rest).map (Char.ofNat code :: ·)
    else if within (0xf0, 0xf4) a then
      match rest with
      | [] => .error (.incomplete index)
      | b :: rest =>
        if !within (secondOfFour a) b then .error (.invalid 1 index)
        else match rest with
          | [] => .error (.incomplete index)
          | c :: rest =>
            if !within continuation c then .error (.invalid 2 index)
            else match rest with
              | [] => .error (.incomplete index)
              | d :: rest =>
                if !within continuation d then .error (.invalid 3 index)
                else
                  let code := 262144 * (a.toNat % 8) + 4096 * lowBits b + 64 * lowBits c +
                    lowBits d
                  (charsFrom (index + 4) rest).map (Char.ofNat code :: ·)
    else .error (.invalid 1 index)

/-- Reads the text of some bytes. -/
def ofUtf8 (bytes : List UInt8) : Except Utf8Error String :=
  (charsFrom 0 bytes).map String.ofList

end Refetch.Text
