import DoorAcs.Codec.Hex

/-!
# Formatted output to a string stream

`std::stringstream` as far as formatted output goes: the text written so far and the format state
the manipulators set. Base, case and fill character stay set until changed; the width holds for
one insertion only.

* `StringStream.inHex buffer`: a stream with `std::hex`, `std::uppercase` and `std::setfill('0')`
  in force.
* `setw_putNat_inHex`: on such a stream `<< std::setw(2) << n` writes the two digits of a byte.
-/

namespace Cpp

/-- A string stream: the text written so far and the format state. -/
structure StringStream where
  buffer : List Char := []
  base : ℕ := 10
  isUppercase : Bool := false
  fillChar : Char := ' '
  fieldWidth : ℕ := 0
  deriving DecidableEq, Repr

namespace StringStream

/-- `<< std::hex` -/
def hex (ss : StringStream) : StringStream := { ss with base := 16 }

/-- `<< std::uppercase` -/
def uppercase (ss : StringStream) : StringStream := { ss with isUppercase := true }

/-- `<< std::setfill(c)` -/
def setfill (c : Char) (ss : StringStream) : StringStream := { ss with fillChar := c }

/-- `<< std::setw(n)` -/
def setw (n : ℕ) (ss : StringStream) : StringStream := { ss with fieldWidth := n }

/-- Insert text, right-adjusted in a field of the width that is set. Every insertion resets the
width. -/
def putString (text : List Char) (ss : StringStream) : StringStream :=
  { ss with
    -- the fill stands in front of text that is shorter than the field
    buffer := ss.buffer ++ List.replicate (ss.fieldWidth - text.length) ss.fillChar ++ text
    fieldWidth := 0 }

/-- `<< c` for a character. -/
def putChar (c : Char) (ss : StringStream) : StringStream := ss.putString [c]

/-- The digits of a number under the base and the case that are set. -/
def digits (ss : StringStream) (n : ℕ) : List Char :=
  if ss.isUppercase then (Nat.toDigits ss.base n).map Char.toUpper else Nat.toDigits ss.base n

/-- `<< n` for a nonnegative number. -/
def putNat (n : ℕ) (ss : StringStream) : StringStream := ss.putString (ss.digits n)

/-- The text written so far. -/
def str (ss : StringStream) : List Char := ss.buffer

/-- A stream that holds `buffer` and writes numbers in uppercase hexadecimal, filled with zeros. -/
def inHex (buffer : List Char) : StringStream :=
  { buffer, base := 16, isUppercase := true, fillChar := '0', fieldWidth := 0 }

/-- The text of the stream. -/
@[simp]
theorem str_inHex (buffer : List Char) : (inHex buffer).str = buffer := rfl

/-- The manipulators on an empty stream. -/
@[simp]
theorem uppercase_setfill_hex_empty : uppercase (setfill '0' (hex {})) = inHex [] := rfl

/-- The manipulators behind a text that was written. -/
@[simp]
theorem uppercase_setfill_hex_putString (text : List Char) :
    uppercase (setfill '0' (hex (putString text {}))) = inHex text := by
  simp [uppercase, setfill, hex, putString, inHex]

/-- A text is written as it is. -/
@[simp]
theorem putString_inHex (text buffer : List Char) :
    putString text (inHex buffer) = inHex (buffer ++ text) := by
  simp [putString, inHex]

/-- A character is written as it is. -/
@[simp]
theorem putChar_inHex (c : Char) (buffer : List Char) :
    putChar c (inHex buffer) = inHex (buffer ++ [c]) :=
  putString_inHex [c] buffer

/-- A width of one pads nothing. -/
@[simp]
theorem setw_one_putChar_inHex (c : Char) (buffer : List Char) :
    putChar c (setw 1 (inHex buffer)) = inHex (buffer ++ [c]) := by
  simp [putChar, putString, setw, inHex]

/-- A field of two characters, filled with zeros, holds the two digits of a byte. -/
private theorem byte_field {n : ℕ} (h : n < 256) :
    List.replicate (2 - (Nat.toDigits 16 n).length) '0' ++ (Nat.toDigits 16 n).map Char.toUpper =
      [Hex.digit (n / 16), Hex.digit (n % 16)] := by
  rcases Nat.lt_or_ge n 16 with hn | hn
  · -- one digit, behind one fill character
    rw [Nat.toDigits_of_lt_base hn, Nat.div_eq_of_lt hn, Nat.mod_eq_of_lt hn]
    rfl
  · -- two digits, no fill
    have hhigh : n / 16 < 16 := by omega
    rw [Nat.toDigits_of_base_le (by decide) hn, Nat.toDigits_of_lt_base hhigh]
    rfl

/-- `<< std::setw(2) << n` writes the two digits of a byte. -/
theorem setw_putNat_inHex {n : ℕ} (h : n < 256) (buffer : List Char) :
    putNat n (setw 2 (inHex buffer)) = inHex (buffer ++ Hex.encodeByte (UInt8.ofNat n)) := by
  -- the insertion resets the width, so the stream is ready for the next field
  have hn : (UInt8.ofNat n).toNat = n := UInt8.toNat_ofNat_of_lt h
  simp only [putNat, putString, setw, digits, inHex, if_true, List.length_map, List.append_assoc,
    byte_field h, Hex.encodeByte, hn]

/-- A byte is written as its two digits, with a zero in front where it needs one. -/
@[simp]
theorem setw_putNat_toNat_inHex (b : UInt8) (buffer : List Char) :
    putNat b.toNat (setw 2 (inHex buffer)) = inHex (buffer ++ Hex.encodeByte b) := by
  rw [setw_putNat_inHex b.toNat_lt, UInt8.ofNat_toNat]

/-- The mask the encoders apply to a byte does nothing. -/
@[simp]
theorem toNat_and_mask (b : UInt8) : b.toNat &&& 0xFF = b.toNat := by
  have hmask := Nat.and_two_pow_sub_one_eq_mod b.toNat 8
  rwa [Nat.mod_eq_of_lt b.toNat_lt] at hmask

end StringStream

end Cpp
