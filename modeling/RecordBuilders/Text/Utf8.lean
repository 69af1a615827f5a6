import RecordBuilders.Text.Hex

/-! Strict decoding of UTF-8. A bad sequence is reported with the longest part of it that could
still have begun a character. -/
namespace RecordBuilders.Text.Utf8

inductive Fault where
  | startByte
  | continuationByte
  | endOfData
  deriving Repr, DecidableEq

/-- `length` octets from `offset` on, of which `lead` is the first, begin no character. -/
structure DecodeError where
  fault : Fault
  lead : UInt8
  offset : Nat
  length : Nat
  deriving Repr, DecidableEq

def Fault.reason : Fault → String
  | .startByte => "invalid start byte"
  | .continuationByte => "invalid continuation byte"
  | .endOfData => "unexpected end of data"

def DecodeError.message (e : DecodeError) : String :=
  let place :=
    if e.length = 1 then
      "byte 0x" ++ String.ofList (hexDigits 2 e.lead.toNat) ++ " in position " ++ toString e.offset
    else
      "bytes in position " ++ toString e.offset ++ "-" ++ toString (e.offset + e.length - 1)
  "'utf-8' codec can't decode " ++ place ++ ": " ++ e.fault.reason

/-- A character of which `seen` octets are read and `missing` are not. The next octet has to lie
between `low` and `high`; the narrow ranges behind some leads exclude overlong forms, surrogates
and values beyond the last code point. -/
structure Open where
  lead : UInt8
  offset : Nat
  seen : Nat
  missing : Nat
  low : UInt8
  high : UInt8
  code : Nat

/-- What a first octet beyond ASCII promises. -/
def Open.ofLead (offset : Nat) (b : UInt8) : Option Open :=
  if 0xC2 ≤ b ∧ b ≤ 0xDF then some ⟨b, offset, 1, 1, 0x80, 0xBF, b.toNat - 0xC0⟩
  else if 0xE0 ≤ b ∧ b ≤ 0xEF then
    some ⟨b, offset, 1, 2, if b = 0xE0 then 0xA0 else 0x80, if b = 0xED then 0x9F else 0xBF,
      b.toNat - 0xE0⟩
  else if 0xF0 ≤ b ∧ b ≤ 0xF4 then
    some ⟨b, offset, 1, 3, if b = 0xF0 then 0x90 else 0x80, if b = 0xF4 then 0x8F else 0xBF,
      b.toNat - 0xF0⟩
  else none

def Open.fail (o : Open) (fault : Fault) : DecodeError :=
  ⟨fault, o.lead, o.offset, o.seen⟩

/-- Decodes from `offset` on, `pending` being the character that the octets before it opened. -/
def decodeFrom (offset : Nat) (pending : Option Open) : List UInt8 → Except DecodeError (List Char)
  | [] =>
    match pending with
    | none => .ok []
    | some o => .error (o.fail .endOfData)
  | b :: rest =>
    match pending with
    | none =>
      if b < 0x80 then (Char.ofNat b.toNat :: ·) <$> decodeFrom (offset + 1) none rest
      else
        match Open.ofLead offset b with
        | none => .error ⟨.startByte, b, offset, 1⟩
        | some o => decodeFrom (offset + 1) (some o) rest
    | some o =>
      if o.low ≤ b ∧ b ≤ o.high then
        let code := o.code * 64 + (b.toNat - 0x80)
        if o.missing ≤ 1 then (Char.ofNat code :: ·) <$> decodeFrom (offset + 1) none rest
        else
          decodeFrom (offset + 1)
            (some ⟨o.lead, o.offset, o.seen + 1, o.missing - 1, 0x80, 0xBF, code⟩) rest
      else .error (o.fail .continuationByte)

def decode (bytes : List UInt8) : Except DecodeError (List Char) :=
  decodeFrom 0 none bytes

end RecordBuilders.Text.Utf8
