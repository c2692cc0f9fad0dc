/-
  Bytes as letters: three bytes are four characters, filled with `=`.
-/

namespace RateIsolation.Text

/-- The sixty-four characters. -/
def base64Alphabet : List Char :=
  "ABCDEFGHIJKLMNOPQRSTUVWXYZabcdefghijklmnopqrstuvwxyz0123456789+/".toList

/-- The character of six bits. -/
def base64Char (n : Nat) : Char := (base64Alphabet[n % 64]?).getD '='

/-- The characters of bytes. -/
def base64List : List UInt8 → List Char
  | [] => []
  | [a] => [base64Char (a.toNat / 4), base64Char (a.toNat * 16), '=', '=']
  | [a, b] =>
    let n := a.toNat * 256 + b.toNat
    [base64Char (n / 1024), base64Char (n / 16), base64Char (n * 4), '=']
  | a :: b :: c :: rest =>
    let n := (a.toNat * 256 + b.toNat) * 256 + c.toNat
    base64Char (n / 262144) :: base64Char (n / 4096) :: base64Char (n / 64) :: base64Char n ::
      base64List rest

/-- The text of bytes. -/
def base64 (bytes : List UInt8) : String := String.ofList (base64List bytes)

end RateIsolation.Text
