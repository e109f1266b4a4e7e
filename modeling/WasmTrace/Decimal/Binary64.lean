import WasmTrace.Decimal.SixDigits

/-!
# Numbers in binary floating point

A constant is carried as its bit pattern, and only its text is ever needed, so a pattern is read
as the exact rational that it denotes.  A 32-bit pattern is first widened to the 64-bit pattern
of the same number.
-/

namespace WasmTrace

namespace Binary64

/-- What a 64-bit pattern denotes, apart from its sign. -/
inductive Value where
  /-- Not a number. -/
  | nan
  /-- An infinity. -/
  | infinite
  /-- A zero. -/
  | zero
  /-- A finite number other than zero. -/
  | finite (v : Decimal.Magnitude)

/-- The sign bit. -/
def isNegative (bits : UInt64) : Bool := bits.toNat >>> 63 == 1

/-- The eleven bits of the exponent. -/
def exponentField (bits : UInt64) : Nat := (bits.toNat >>> 52) % 2048

/-- The fifty-two bits of the fraction. -/
def fractionField (bits : UInt64) : Nat := bits.toNat % (1 <<< 52)

/-- The pattern with the given sign bit, exponent and fraction. -/
def ofFields (sign exponent fraction : Nat) : UInt64 :=
  UInt64.ofNat ((sign <<< 63) + (exponent <<< 52) + fraction)

/-- What a pattern denotes.  An exponent of zeros holds zero and the numbers without the leading
bit, one of ones holds the infinities and what is no number. -/
def value (bits : UInt64) : Value :=
  let e := exponentField bits
  let f := fractionField bits
  if e = 2047 then
    if f = 0 then .infinite else .nan
  else if e = 0 then
    if h : 0 < f then .finite (.ofBinary f (-1074) h) else .zero
  else
    .finite (.ofBinary ((1 <<< 52) + f) (e - 1075) (Nat.add_pos_left (by decide) f))

/-- The text of what a pattern denotes, apart from its sign. -/
def Value.chars : Value → List Char
  | .nan => "nan".toList
  | .infinite => "inf".toList
  | .zero => ['0']
  | .finite v => v.sixDigits

/-- A pattern with six significant digits.  Every pattern with the sign bit has a minus sign, a
zero and what is no number included. -/
def text (bits : UInt64) : String :=
  String.ofList ((if isNegative bits then ['-'] else []) ++ (value bits).chars)

end Binary64

namespace Binary32

/-- The sign bit. -/
def signField (bits : UInt32) : Nat := bits.toNat >>> 31

/-- The eight bits of the exponent. -/
def exponentField (bits : UInt32) : Nat := (bits.toNat >>> 23) % 256

/-- The twenty-three bits of the fraction. -/
def fractionField (bits : UInt32) : Nat := bits.toNat % (1 <<< 23)

/-- The 64-bit pattern of the same number.

The fraction moves up by the twenty-nine bits in which the fields differ, and the exponent by
the difference of the biases.  A number without the leading bit has one in the wider format: its
highest bit becomes the leading one. -/
def widen (bits : UInt32) : UInt64 :=
  let s := signField bits
  let e := exponentField bits
  let f := fractionField bits
  if e = 255 then Binary64.ofFields s 2047 (f <<< 29)
  else if e = 0 then
    if f = 0 then Binary64.ofFields s 0 0
    else Binary64.ofFields s (874 + f.log2) ((f - (1 <<< f.log2)) <<< (52 - f.log2))
  else Binary64.ofFields s (e + 896) (f <<< 29)

/-- A 32-bit pattern with six significant digits. -/
def text (bits : UInt32) : String := Binary64.text (widen bits)

end Binary32

end WasmTrace
