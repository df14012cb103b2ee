import BindingRepair.Text.Decimal
import BindingRepair.Text.Quoted

namespace BindingRepair.Text

inductive OctetFault
  | start
  | continuation
  | truncation
  deriving DecidableEq, Repr

def OctetFault.text : OctetFault → String
  | start => "invalid start byte"
  | continuation => "invalid continuation byte"
  | truncation => "unexpected end of data"

/-- Octets that are no text: from where to where, with which octet they start, and why. -/
structure OctetError where
  first : Nat
  last : Nat
  octet : UInt8
  fault : OctetFault
  deriving DecidableEq, Repr

def OctetError.message (e : OctetError) : String :=
  let place :=
    if e.first = e.last then
      "byte 0x" ++ String.ofList (hex 2 e.octet.toNat) ++ " in position " ++ decimalNat e.first
    else "bytes in position " ++ decimalNat e.first ++ "-" ++ decimalNat e.last
  "'utf-8' codec can't decode " ++ place ++ ": " ++ e.fault.text

/-- A character of which the first octets have been read: where it starts and with what, how many
octets are owed, between which bounds the next one lies, and the bits so far. -/
structure PartialChar where
  first : Nat
  octet : UInt8
  owed : Nat
  low : UInt8 := 0x80
  high : UInt8 := 0xbf
  bits : Nat

def PartialChar.ofLead? (position : Nat) (octet : UInt8) : Option PartialChar :=
  let n := octet.toNat
  if n < 0xc2 then none
  else if n < 0xe0 then some { first := position, octet, owed := 1, bits := n - 0xc0 }
  else if n < 0xf0 then
    some {
      first := position, octet, owed := 2, bits := n - 0xe0
      low := if n = 0xe0 then 0xa0 else 0x80
      high := if n = 0xed then 0x9f else 0xbf }
  else if n < 0xf5 then
    some {
      first := position, octet, owed := 3, bits := n - 0xf0
      low := if n = 0xf0 then 0x90 else 0x80
      high := if n = 0xf4 then 0x8f else 0xbf }
  else none

def PartialChar.refuse (p : PartialChar) (position : Nat) (fault : OctetFault) : OctetError where
  first := p.first
  last := position - 1
  octet := p.octet
  fault

/-- Decodes octets from a position on, of which a character may have been read in part. -/
def decodeFrom (position : Nat) : Option PartialChar → List UInt8 → Except OctetError (List Char)
  | none, [] => .ok []
  | some p, [] => .error (p.refuse position .truncation)
  | none, octet :: rest =>
    if octet < 0x80 then
      (decodeFrom (position + 1) none rest).map (Char.ofNat octet.toNat :: ·)
    else
      match PartialChar.ofLead? position octet with
      | some p => decodeFrom (position + 1) (some p) rest
      | none => .error { first := position, last := position, octet, fault := .start }
  | some p, octet :: rest =>
    if p.low ≤ octet ∧ octet ≤ p.high then
      let bits := 64 * p.bits + (octet.toNat - 0x80)
      if p.owed ≤ 1 then (decodeFrom (position + 1) none rest).map (Char.ofNat bits :: ·)
      else
        decodeFrom (position + 1)
          (some { first := p.first, octet := p.octet, owed := p.owed - 1, bits }) rest
    else .error (p.refuse position .continuation)

def decodeUtf8 (octets : List UInt8) : Except OctetError String :=
  (decodeFrom 0 none octets).map String.ofList

def encodeUtf8 (text : String) : List UInt8 :=
  text.toUTF8.toList

end BindingRepair.Text
