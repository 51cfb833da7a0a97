/-!
# Reading octets from the front

A character set in which a character may take several octets is read from the front. What octets
begin with is a character, or else a fault, and it takes some number of octets to see which. A
reading holds the characters up to the first fault and the octet at which the fault shows: octets
that a character could begin with are not at fault while the next one is not known.
-/

namespace VectorLint.Markup.Charset

/-- What octets begin with: a character, if it is one, and how many octets decide that. -/
structure Head where
  char? : Option Char
  length : Nat
  deriving DecidableEq, Repr

/-- The characters up to the first fault, and the offset at which it shows. -/
structure Reading where
  chars : List Char
  fault? : Option Nat
  deriving DecidableEq, Repr

namespace Reading

/-- A reading of no octets. -/
def empty : Reading := ⟨[], none⟩

/-- A reading that ends at the octet with an offset. -/
def fault (offset : Nat) : Reading := ⟨[], some offset⟩

/-- A reading with `n` octets before it that give some characters. -/
def behind (chars : List Char) (n : Nat) (r : Reading) : Reading :=
  ⟨chars ++ r.chars, r.fault?.map (· + n)⟩

@[simp] theorem behind_chars (cs : List Char) (n : Nat) (r : Reading) :
    (r.behind cs n).chars = cs ++ r.chars := rfl

/-- The reading of octets by their heads. -/
def ofHeads (head : UInt8 → List UInt8 → Head) : List UInt8 → Reading
  | [] => empty
  | b :: bs =>
    let h := head b bs
    match h.char? with
    | some c => (ofHeads head (bs.drop (h.length - 1))).behind [c] h.length
    | none => fault (h.length - 1)
termination_by bs => bs.length
decreasing_by simp only [List.length_drop, List.length_cons]; omega

end Reading

end VectorLint.Markup.Charset
