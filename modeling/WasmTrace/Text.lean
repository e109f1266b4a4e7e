/-!
# Texts

A trace is a sequence of bytes.  Most of it is the UTF-8 encoding of texts produced here;
the rest are names taken from a binary, which need not be valid UTF-8 and are kept as they are.

Numbers are shown in unsigned decimal, in signed decimal, or in lowercase hexadecimal, the last
also with zeros in front up to a least width.  The digits themselves come from `Nat.toDigits`.
Lists are shown in brackets.

The main statements are `Bytes.ofText_append`, encoding is compatible with concatenation, so a
line may be written in pieces, and `Numeral.length_lastDigits` and `Numeral.hexPadded_length`,
which give the widths of the two padded forms.
-/

namespace WasmTrace

/-! ## Bytes -/

/-- A sequence of bytes. -/
abbrev Bytes := List UInt8

namespace Bytes

/-- The byte that ends a line. -/
def newline : UInt8 := 10

/-- The byte that indents a line. -/
def space : UInt8 := 32

/-- The UTF-8 encoding of a text. -/
def ofText (s : String) : Bytes := s.toList.flatMap String.utf8EncodeChar

/-- The empty text has the empty encoding. -/
@[simp]
theorem ofText_empty : ofText "" = [] := rfl

/-- The encoding of a concatenation is the concatenation of the encodings. -/
@[simp]
theorem ofText_append (s t : String) : ofText (s ++ t) = ofText s ++ ofText t := by
  simp [ofText]

/-- The encoding of a text given by its characters. -/
theorem ofText_ofList (cs : List Char) :
    ofText (String.ofList cs) = cs.flatMap String.utf8EncodeChar := by
  simp [ofText]

end Bytes

/-! ## Numerals -/

namespace Numeral

/-- The decimal numeral of `n`, without superfluous zeros. -/
def decimal (n : Nat) : String := String.ofList (Nat.toDigits 10 n)

/-- The hexadecimal numeral of `n`, in lowercase and without superfluous zeros. -/
def hex (n : Nat) : String := String.ofList (Nat.toDigits 16 n)

/-- The hexadecimal numeral of `n` with zeros in front up to `width` digits; a longer numeral is
kept whole. -/
def hexPadded (width n : Nat) : String :=
  String.ofList ((Nat.toDigits 16 n).leftpad width '0')

/-- The decimal numeral of an integer, with a minus sign in front of a negative one. -/
def signed (i : Int) : String :=
  if i < 0 then "-" ++ decimal i.natAbs else decimal i.natAbs

/-- The number of decimal digits of `n`; zero has one. -/
def digitCount (n : Nat) : Nat := (Nat.toDigits 10 n).length

/-- The last `width` decimal digits of `n`, leading zeros included. -/
def lastDigits : Nat → Nat → List Char
  | 0, _ => []
  | width + 1, n => lastDigits width (n / 10) ++ [Nat.digitChar (n % 10)]

/-- Exactly as many digits are given as were asked for. -/
@[simp]
theorem length_lastDigits (width n : Nat) : (lastDigits width n).length = width := by
  induction width generalizing n with
  | zero => rfl
  | succ width ih => simp [lastDigits, ih]

/-- A padded numeral has the asked width, or more if the number needs more. -/
theorem hexPadded_length (width n : Nat) :
    (hexPadded width n).toList.length = max width (Nat.toDigits 16 n).length := by
  simp only [hexPadded, String.toList_ofList, List.leftpad, List.length_append, List.length_replicate]
  omega

end Numeral

/-! ## Lists in brackets -/

/-- Items in brackets, with a comma and a space between them. -/
def bracketed (items : List String) : String := "[" ++ ", ".intercalate items ++ "]"

/-- A list of indices in brackets. -/
def indicesText (ns : List UInt32) : String := bracketed (ns.map (Numeral.decimal ·.toNat))

end WasmTrace
