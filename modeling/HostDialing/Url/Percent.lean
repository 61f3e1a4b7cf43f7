import HostDialing.Text.Numeral

/-!
# Percent signs

In a URL a percent sign with two hexadecimal digits stands for an octet. Other percent signs stand
for themselves.
-/

namespace HostDialing

def percentOctets : List Char → List UInt8
  | [] => []
  | '%' :: a :: b :: cs =>
    match hexDigit? a, hexDigit? b with
    | some high, some low => UInt8.ofNat (16 * high + low) :: percentOctets cs
    | _, _ => UInt8.ofNat '%'.toNat :: percentOctets (a :: b :: cs)
  | c :: cs => String.utf8EncodeChar c ++ percentOctets cs

/-- The text that the octets spell in UTF-8. -/
def percentDecoded? (cs : List Char) : Option (List Char) :=
  (String.fromUTF8? ⟨(percentOctets cs).toArray⟩).map String.toList

end HostDialing
