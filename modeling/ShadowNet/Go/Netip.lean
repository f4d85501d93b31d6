import ShadowNet.Go.Json.Scanner

/-! # IP address literals

Which strings `netip.ParseAddr` accepts. An IPv6 address may carry a zone after a percent sign, and
a zone is any non-empty string.
-/

namespace ShadowNet.Go

/-- A decimal octet without leading zeros. -/
def isOctet (field : GoString) : Bool :=
  match parseNat field with
  | some value => value ≤ 255 && (field.length = 1 || field.head? ≠ some 0x30)
  | none => false

/-- `parseIPv4`. -/
def isIPv4 (s : GoString) : Bool :=
  let fields := splitOn 0x2E s
  fields.length = 4 && fields.all isOctet

def isHex (byte : UInt8) : Bool := (Json.hexValue byte).isSome

/-- The loop of `parseIPv6` before the group at `index`; `ellipsis` tells whether a double colon has
been seen. -/
def parseGroups : ℕ → ℕ → Bool → GoString → Bool
  | 0, index, ellipsis, s => s = [] && (index < 8 || !ellipsis)
  | fuel + 1, index, ellipsis, s =>
      let (digits, rest) := s.span isHex
      if digits = [] || 4 < digits.length then false
      else
        match rest with
        | [] => if index + 1 < 8 then ellipsis else !ellipsis
        | 0x2E :: _ =>
            -- an IPv4 address in place of the last two groups
            (ellipsis || index = 6) && index + 2 ≤ 8 && isIPv4 s &&
              (if index + 2 < 8 then ellipsis else !ellipsis)
        | 0x3A :: 0x3A :: [] => !ellipsis && index + 1 < 8
        | 0x3A :: 0x3A :: more => !ellipsis && parseGroups fuel (index + 1) true more
        | 0x3A :: next :: more => parseGroups fuel (index + 1) ellipsis (next :: more)
        | _ => false

/-- `parseIPv6` without a zone. -/
def isIPv6 (s : GoString) : Bool :=
  match s with
  | 0x3A :: 0x3A :: [] => true
  | 0x3A :: 0x3A :: rest => parseGroups 8 0 true rest
  | _ => parseGroups 8 0 false s

/-- `parseIPv6`. -/
def isZonedIPv6 (s : GoString) : Bool :=
  let (address, zone) := s.span (· ≠ 0x25)
  zone ≠ [0x25] && isIPv6 address

/-- Whether `netip.ParseAddr` accepts `s`; the first dot, colon or percent sign decides the form. -/
def parseAddrAccepts (s : GoString) : Bool :=
  match s.find? fun byte => byte = 0x2E || byte = 0x3A || byte = 0x25 with
  | some 0x2E => isIPv4 s
  | some 0x3A => isZonedIPv6 s
  | _ => false

end ShadowNet.Go
