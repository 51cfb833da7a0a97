import VectorLint.Text.Quoted

/-!
# UTF-8

Reading octets as UTF-8 gives the characters up to the first fault and, if there is one, where
it lies and what is wrong: an octet that starts no character, a character whose continuation
breaks off, or octets that end in the middle of a character. Overlong forms, surrogates and code
points above `U+10FFFF` are ruled out at the second octet.
-/

namespace VectorLint.Text.Utf8

/-- What is wrong with the octets at a fault. -/
inductive Reason where
  | startOctet
  | continuation
  | endOfInput
  deriving DecidableEq, Repr

/-- A fault: the offset of the character's first octet, how many octets belong to it, and the
reason. -/
structure Fault where
  offset : Nat
  octet : UInt8
  length : Nat
  reason : Reason
  deriving DecidableEq, Repr

/-- How many octets follow a first octet; `none` for an octet that starts no character. -/
def continuationCount (b : UInt8) : Option Nat :=
  if b < 0x80 then some 0
  else if b < 0xC2 then none
  else if b < 0xE0 then some 1
  else if b < 0xF0 then some 2
  else if b < 0xF5 then some 3
  else none

/-- Whether an octet continues a character. -/
def isTail (b : UInt8) : Bool := 0x80 ≤ b && b < 0xC0

/-- Whether `c` may follow the first octet `b`. The bounds keep out overlong forms, surrogates and
code points that are too large. -/
def isSecond (b c : UInt8) : Bool :=
  isTail c && (b != 0xE0 || 0xA0 ≤ c) && (b != 0xED || c < 0xA0)
    && (b != 0xF0 || 0x90 ≤ c) && (b != 0xF4 || c < 0x90)

/-- The payload of a continuation octet put behind the bits read so far. -/
private def extend (n : Nat) (b : UInt8) : Nat := n * 64 + (b.toNat - 0x80)

/-- The characters up to the first fault, and the fault. `offset` counts the octets read before. -/
def decodeFrom (offset : Nat) : List UInt8 → List Char × Option Fault
  | [] => ([], none)
  | b :: bs =>
    let fault (length : Nat) (reason : Reason) : List Char × Option Fault :=
      ([], some ⟨offset, b, length, reason⟩)
    if b < 0x80 then
      let (cs, f) := decodeFrom (offset + 1) bs
      (Char.ofNat b.toNat :: cs, f)
    else match continuationCount b, bs with
      | none, _ => fault 1 .startOctet
      | some _, [] => fault 1 .endOfInput
      | some k, c :: bs =>
        if !isSecond b c then fault 1 .continuation
        else if k ≤ 1 then
          let (cs, f) := decodeFrom (offset + 2) bs
          (Char.ofNat (extend (b.toNat - 0xC0) c) :: cs, f)
        else match bs with
          | [] => fault 2 .endOfInput
          | d :: bs =>
            if !isTail d then fault 2 .continuation
            else if k = 2 then
              let (cs, f) := decodeFrom (offset + 3) bs
              (Char.ofNat (extend (extend (b.toNat - 0xE0) c) d) :: cs, f)
            else match bs with
              | [] => fault 3 .endOfInput
              | e :: bs =>
                if !isTail e then fault 3 .continuation
                else
                  let (cs, f) := decodeFrom (offset + 4) bs
                  (Char.ofNat (extend (extend (extend (b.toNat - 0xF0) c) d) e) :: cs, f)

/-- The characters up to the first fault, and the fault. -/
def decode (bs : List UInt8) : List Char × Option Fault := decodeFrom 0 bs

/-- The wording of a reason. -/
def Reason.wording : Reason → String
  | .startOctet => "invalid start byte"
  | .continuation => "invalid continuation byte"
  | .endOfInput => "unexpected end of data"

/-- The message of a fault. -/
def Fault.message (f : Fault) : String :=
  let place :=
    if f.length = 1 then
      "byte 0x" ++ String.ofList (hexDigits 2 f.octet.toNat) ++ " in position " ++ toString f.offset
    else
      "bytes in position " ++ toString f.offset ++ "-" ++ toString (f.offset + f.length - 1)
  "'utf-8' codec can't decode " ++ place ++ ": " ++ f.reason.wording

/-- The octets of a text. -/
def encode (cs : List Char) : List UInt8 := cs.flatMap String.utf8EncodeChar

/-- The number of octets a text takes. -/
def size (cs : List Char) : Nat := (cs.map Char.utf8Size).foldr (· + ·) 0

end VectorLint.Text.Utf8
