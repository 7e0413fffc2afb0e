import IfaceMonitor.Json.Record
import IfaceMonitor.Text.Numeral

namespace IfaceMonitor

structure HardwareAddress where
  bytes : List UInt8
  deriving DecidableEq

namespace HardwareAddress

def empty : HardwareAddress := ⟨[]⟩

def isEmpty (a : HardwareAddress) : Bool :=
  a.bytes.isEmpty

def hexDigit (n : Nat) : Char :=
  if n < 10 then Char.ofNat (48 + n) else Char.ofNat (55 + n)

def byteText (b : UInt8) : List Char :=
  [hexDigit (b.toNat / 16), hexDigit (b.toNat % 16)]

def textOf : List UInt8 → List Char
  | [] => []
  | [b] => byteText b
  | b :: rest => byteText b ++ ':' :: textOf rest

def text (a : HardwareAddress) : String :=
  String.ofList (textOf a.bytes)

def readByte? (cs : List Char) : Option UInt8 :=
  (Text.readUnsigned? 16 256 cs).map Nat.toUInt8

def parse? (text : String) : Option HardwareAddress :=
  if text.isEmpty then some empty
  else ((Text.splitWhen (· == ':') text.toList).mapM readByte?).map .mk

def parse (text : String) : Except InterfaceError HardwareAddress :=
  match parse? text with
  | some a => .ok a
  | none => .error (.invalidAddress text)

def decode (value : Json) : Decoded HardwareAddress := do
  Decoded.ofInterface (parse (← value.text))

def encode (a : HardwareAddress) : Json :=
  .str a.text

end HardwareAddress

end IfaceMonitor
