/-!
# UTF-8

The text of a sequence of bytes. A byte that is not part of a well-formed character is shown by the
replacement character, each such byte by one.
-/

namespace WinZig.Text

/-- The character that stands for a byte that is none. -/
def replacement : Char := '\ufffd'

/-- Whether a byte continues a character. -/
def isContinuation (byte : UInt8) : Bool := 0x80 ≤ byte && byte ≤ 0xBF

/-- The character with a given code point, if there is one and it needs a sequence at least as long
as the one it came from. -/
def scalar? (least code : Nat) : Option Char :=
  if h : code.isValidChar then if least ≤ code then some (Char.ofNatAux code h) else none else none

/-- The bits a byte of a sequence contributes. -/
def payload (mask : UInt8) (byte : UInt8) : Nat := (byte &&& mask).toNat

/-- The character at the front of some bytes, and how many bytes follow its first one. -/
def charAt? : List UInt8 → Option (Char × Nat)
  | [] => none
  | a :: rest =>
    if a < 0x80 then (scalar? 0 a.toNat).map (·, 0)
    else if a < 0xC0 then none
    else if a < 0xE0 then
      match rest with
      | b :: _ =>
        if isContinuation b then
          (scalar? 0x80 (payload 0x1F a * 64 + payload 0x3F b)).map (·, 1)
        else none
      | _ => none
    else if a < 0xF0 then
      match rest with
      | b :: c :: _ =>
        if isContinuation b && isContinuation c then
          (scalar? 0x800 ((payload 0x0F a * 64 + payload 0x3F b) * 64 + payload 0x3F c)).map (·, 2)
        else none
      | _ => none
    else if a < 0xF8 then
      match rest with
      | b :: c :: d :: _ =>
        if isContinuation b && isContinuation c && isContinuation d then
          (scalar? 0x10000 (((payload 0x07 a * 64 + payload 0x3F b) * 64 + payload 0x3F c) * 64 +
            payload 0x3F d)).map (·, 3)
        else none
      | _ => none
    else none

/-- The characters of some bytes, of which the first `skip` belong to a character already read. -/
def decodeAfter (skip : Nat) : List UInt8 → List Char
  | [] => []
  | byte :: rest =>
    match skip with
    | skip + 1 => decodeAfter skip rest
    | 0 =>
      match charAt? (byte :: rest) with
      | some (c, length) => c :: decodeAfter length rest
      | none => replacement :: decodeAfter 0 rest

/-- The characters of some bytes. -/
def decode (bytes : List UInt8) : List Char := decodeAfter 0 bytes

end WinZig.Text
