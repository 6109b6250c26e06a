/-
# Internet addresses in words

How the standard library writes addresses: version 4 as four decimal numbers, version 6
as eight segments in hexadecimal, with the longest run of more than one zero left out
and addresses of version 4 in decimal.
-/
import Tapio.Text.Rust

namespace Text

def formatIpv4 (octets : List UInt8) : String :=
  ".".intercalate (octets.map fun octet => toString octet)

/-- The segments of two octets each, most significant first. -/
def ipv6Segments : List UInt8 → List ℕ
  | high :: low :: rest => (high.toNat * 256 + low.toNat) :: ipv6Segments rest
  | _ => []

/-- A run of segments. -/
structure Span where
  start : ℕ
  len : ℕ
  deriving DecidableEq

/-- The longest run of zeros, the first of those, given the run that ends before the
segments and the longest before them. -/
def longestZeros (index : ℕ) (current longest : Span) : List ℕ → Span
  | [] => longest
  | segment :: rest =>
      if segment = 0 then
        let current := ⟨if current.len = 0 then index else current.start, current.len + 1⟩
        longestZeros (index + 1) current (if longest.len < current.len then current else longest)
          rest
      else longestZeros (index + 1) ⟨0, 0⟩ longest rest

def formatSegments (segments : List ℕ) : String :=
  ":".intercalate (segments.map fun segment => String.ofList (Nat.toDigits 16 segment))

/-- `Ipv6Addr::to_string`. -/
def formatIpv6 (octets : List UInt8) : String :=
  if octets.take 12 = [0, 0, 0, 0, 0, 0, 0, 0, 0, 0, 0xFF, 0xFF] then
    "::ffff:" ++ formatIpv4 (octets.drop 12)
  else
    let segments := ipv6Segments octets
    let zeroes := longestZeros 0 ⟨0, 0⟩ ⟨0, 0⟩ segments
    if zeroes.len > 1 then
      formatSegments (segments.take zeroes.start) ++ "::" ++
        formatSegments (segments.drop (zeroes.start + zeroes.len))
    else formatSegments segments

example : formatIpv6 [0x20, 0x01, 0x0D, 0xB8, 0, 0, 0, 0, 0, 1, 0, 0, 0, 0, 0, 1] =
    "2001:db8::1:0:0:1" := by decide +kernel

end Text
