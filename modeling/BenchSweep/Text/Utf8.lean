/-! Bytes and the text they hold. `decodeLossy` reads any bytes and puts U+FFFD where they are not
UTF-8, once for each longest start of a character that goes wrong; `decode?` refuses such bytes;
`encode` writes. -/
set_option autoImplicit false

namespace BenchSweep.Text.Utf8

/-- Whether `b` can go on a character. -/
def isTail (b : UInt8) : Bool := 0x80 ≤ b && b ≤ 0xBF

/-- Whether `second` can follow the first byte of a character of three bytes. -/
def opensThree (first second : UInt8) : Bool :=
  if first = 0xE0 then 0xA0 ≤ second && second ≤ 0xBF
  else if first = 0xED then 0x80 ≤ second && second ≤ 0x9F
  else isTail second

/-- Whether `second` can follow the first byte of a character of four bytes. -/
def opensFour (first second : UInt8) : Bool :=
  if first = 0xF0 then 0x90 ≤ second && second ≤ 0xBF
  else if first = 0xF4 then 0x80 ≤ second && second ≤ 0x8F
  else isTail second

/-- The character whose code has these groups of six bits, the highest first. -/
def assemble (lead : Nat) (tail : List UInt8) : Char :=
  Char.ofNat (tail.foldl (fun n b => n * 64 + (b.toNat - 0x80)) lead)

/-- The first character of the bytes and how many bytes it takes; no character where they are
not UTF-8, with the number of bytes to skip. -/
def next : UInt8 → List UInt8 → Option Char × Nat
  | a, rest =>
    if a < 0x80 then (some (Char.ofNat a.toNat), 1)
    else if 0xC2 ≤ a && a ≤ 0xDF then
      match rest with
      | b :: _ => if isTail b then (some (assemble (a.toNat - 0xC0) [b]), 2) else (none, 1)
      | [] => (none, 1)
    else if 0xE0 ≤ a && a ≤ 0xEF then
      match rest with
      | b :: rest =>
        if !opensThree a b then (none, 1)
        else match rest with
          | c :: _ => if isTail c then (some (assemble (a.toNat - 0xE0) [b, c]), 3) else (none, 2)
          | [] => (none, 2)
      | [] => (none, 1)
    else if 0xF0 ≤ a && a ≤ 0xF4 then
      match rest with
      | b :: rest =>
        if !opensFour a b then (none, 1)
        else match rest with
          | c :: rest =>
            if !isTail c then (none, 2)
            else match rest with
              | d :: _ =>
                if isTail d then (some (assemble (a.toNat - 0xF0) [b, c, d]), 4) else (none, 3)
              | [] => (none, 3)
          | [] => (none, 2)
      | [] => (none, 1)
    else (none, 1)

/-- The characters that the bytes hold, `none` at each place that is not UTF-8. -/
def scan : List UInt8 → List (Option Char)
  | [] => []
  | a :: rest =>
    let (c, n) := next a rest
    c :: scan (rest.drop (n - 1))
termination_by bytes => bytes.length
decreasing_by simp only [List.length_drop, List.length_cons]; omega

def decodeLossy (bytes : List UInt8) : List Char := (scan bytes).map (·.getD '\uFFFD')

def decode? (bytes : List UInt8) : Option (List Char) := (scan bytes).mapM id

def encode (text : List Char) : List UInt8 := text.flatMap String.utf8EncodeChar

/-- The bytes of a `String`. -/
def bytes (s : String) : List UInt8 := encode s.toList

end BenchSweep.Text.Utf8
