import BlockPilot.Json.Scan
import BlockPilot.Url.Fault

/-!
# Version 4 addresses

A host whose last part is a number is an address of version 4. It has up to four parts, decimal,
octal behind a zero, or hexadecimal behind `0x`; the last part fills all the bytes that are left.
-/

namespace BlockPilot.Url.Ipv4

/-- The number that hexadecimal digits stand for. -/
def ofHexDigits (digits : List Char) : Nat :=
  digits.foldl (fun n c => 16 * n + (Json.hexValue? c).getD 0) 0

def isOctalDigit (c : Char) : Bool :=
  '0' ≤ c && c ≤ '7'

/-- A part that is a number; no digits at all behind a prefix are a zero. -/
def number? : List Char → Option Nat
  | [] => none
  | ['0'] => some 0
  | '0' :: x :: rest =>
    if x = 'x' ∨ x = 'X' then
      if rest.all (Json.hexValue? · |>.isSome) then some (ofHexDigits rest) else none
    else
      let digits := x :: rest
      if digits.all isOctalDigit then
        some (digits.foldl (fun n c => 8 * n + digitValue c) 0)
      else none
  | digits => if digits.all isDigit then some (ofDigits digits) else none

/-- The parts of a host between its dots; a dot at its end ends nothing. -/
def parts (host : List Char) : List (List Char) :=
  let all := List.splitOn '.' host
  match all.getLast? with
  | some [] => all.dropLast
  | _ => all

/-- Whether the host's last part is a number, so that the host has to be an address. -/
def endsInNumber (host : List Char) : Bool :=
  match (parts host).getLast? with
  | none => false
  | some last => (last ≠ [] && last.all isDigit) || (number? last).isSome

/-- The address that the numbers of the parts make: a byte each, and the last for all the rest. -/
def assemble (bytes : List Nat) (last : Nat) : Option Nat :=
  if 3 < bytes.length ∨ bytes.any (255 < ·) ∨ Nat.pow 256 (4 - bytes.length) ≤ last then none
  else some (bytes.foldl (fun n b => 256 * n + b) 0 * Nat.pow 256 (4 - bytes.length) + last)

def parse (host : List Char) : Except UrlFault Nat :=
  match (parts host).mapM number? with
  | none => .error .invalidIpv4
  | some numbers => match numbers.getLast? with
    | none => .error .invalidIpv4
    | some last => match assemble numbers.dropLast last with
      | some address => .ok address
      | none => .error .invalidIpv4

/-- The four bytes of an address in decimal, between dots. -/
def text (address : Nat) : List Char :=
  let byte (n : Nat) : List Char := decimalText (address / Nat.pow 256 n % 256)
  byte 3 ++ '.' :: byte 2 ++ '.' :: byte 1 ++ '.' :: byte 0

end BlockPilot.Url.Ipv4
