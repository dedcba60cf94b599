/-
This file models the check of a literal network address: `net.SplitHostPort`
and `net.ParseIP` on texts, the loopback test on the sixteen bytes of an
address, and `validateLiteralAddress`, which accepts a fixed port on a literal
IP and, for the upstream of the gate, only on a loopback one.
-/

import GuardedAgentRunner.Errors
import GuardedAgentRunner.Library.JsonText

namespace GuardedAgentRunner

open Fallible

namespace Address

/-- `net.SplitHostPort`: the port follows the last colon, and a host with colons stands in
brackets. -/
def splitHostPort (text : List Char) : Option (List Char × List Char) :=
  let port := (text.reverse.takeWhile (· ≠ ':')).reverse
  match (text.reverse.dropWhile (· ≠ ':')).reverse.dropLast, text.contains ':' with
  | _, false => none
  | '\x5b' :: inner, true =>
    let host := inner.dropLast
    if inner.getLast? = some '\x5d' ∧ '\x5d' ∉ host ∧ '\x5b' ∉ host ∧ '\x5b' ∉ port ∧
        '\x5d' ∉ port then some (host, port)
    else none
  | host, true =>
    if ':' ∉ host ∧ '\x5b' ∉ text ∧ '\x5d' ∉ text then some (host, port) else none

/-- One decimal field of an IPv4 address: no leading zero, at most 255. -/
def octet (digits : List Char) : Option Nat :=
  let value := Nat.ofDigitChars 10 digits 0
  if digits ≠ [] ∧ digits.all Char.isDigit ∧ (digits.length = 1 ∨ digits.head? ≠ some '0') ∧
      value ≤ 255 then some value
  else none

/-- The four bytes of an IPv4 address. -/
def parseIPv4 (text : List Char) : Option (List Nat) :=
  let fields := text.splitOnP (· = '.')
  if fields.length = 4 then fields.mapM octet else none

/-- The loop over the groups of an IPv6 address: the bytes so far, the place of the ellipsis and
the rest of the text. -/
def parseGroups : Nat → List Nat → Option Nat → List Char → Option (List Nat × Option Nat)
  | 0, bytes, ellipsis, rest => if rest = [] then some (bytes, ellipsis) else none
  | groups + 1, bytes, ellipsis, rest =>
    let digits := rest.takeWhile fun symbol => (JsonText.hexDigit symbol).isSome
    let value := digits.foldl (fun value digit => value * 16 + (JsonText.hexDigit digit).getD 0) 0
    let after := rest.drop digits.length
    if digits = [] ∨ 4 < digits.length then none
    else if after.head? = some '.' then
      if (ellipsis = none ∧ bytes.length ≠ 12) ∨ 16 < bytes.length + 4 then none
      else (parseIPv4 rest).map fun last => (bytes ++ last, ellipsis)
    else
      let bytes := bytes ++ [value / 256, value % 256]
      match after with
      | [] => some (bytes, ellipsis)
      | [':', ':'] => if ellipsis = none then some (bytes, some bytes.length) else none
      | ':' :: ':' :: rest =>
        if ellipsis = none then parseGroups groups bytes (some bytes.length) rest else none
      | [':'] => none
      | ':' :: rest => parseGroups groups bytes ellipsis rest
      | _ => none

/-- Fill the place of the ellipsis with zeros, at least one group of them. -/
def expand : List Nat × Option Nat → Option (List Nat)
  | (bytes, none) => if bytes.length = 16 then some bytes else none
  | (bytes, some place) =>
    if bytes.length < 16 then
      some (bytes.take place ++ List.replicate (16 - bytes.length) 0 ++ bytes.drop place)
    else none

def parseIPv6 : List Char → Option (List Nat)
  | [':', ':'] => some (List.replicate 16 0)
  | ':' :: ':' :: rest => (parseGroups 8 [] (some 0) rest).bind expand
  | text => (parseGroups 8 [] none text).bind expand

/-- `net.ParseIP`: the sixteen bytes of an address without a zone. -/
def parseIP (text : List Char) : Option (List Nat) :=
  match text.find? fun symbol => symbol = '.' ∨ symbol = ':' ∨ symbol = '%' with
  | some '.' => (parseIPv4 text).map fun bytes => List.replicate 10 0 ++ [255, 255] ++ bytes
  | some ':' => if '%' ∈ text then none else parseIPv6 text
  | _ => none

/-- `IsLoopback`. -/
def IsLoopback (bytes : List Nat) : Prop :=
  bytes.take 13 = List.replicate 10 0 ++ [255, 255, 127] ∨ bytes = List.replicate 15 0 ++ [1]
deriving Decidable

/-- `unicode.IsSpace`. -/
def isSpace (character : Char) : Bool :=
  character.toNat ∈ [9, 10, 11, 12, 13, 32, 0x85, 0xA0, 0x1680, 0x2028, 0x2029, 0x202F, 0x205F,
    0x3000] || 0x2000 ≤ character.toNat && character.toNat ≤ 0x200A

/-- `validateLiteralAddress`, with the error it reports. -/
def validateLiteralAddress (address : String) (requireLoopback : Bool) : Except Failure Unit := do
  refuse (address.toList.head?.any isSpace ∨ address.toList.getLast?.any isSpace)
    (.other "address must not contain surrounding whitespace")
  let (host, port) ← demand (splitHostPort address.toList) (.other "address has no host and port")
  let bytes ← demand (parseIP host) (.other "host must be a literal IP")
  refuse (requireLoopback ∧ ¬ IsLoopback bytes)
    (.other "upstream must be literal loopback in the shared Paper network namespace")
  refuse (port = [] ∨ port = ['0']) (.other "port must be fixed and non-zero")

example : (validateLiteralAddress "127.0.0.1:25566" true).isOk = true := by decide +kernel

example : (validateLiteralAddress "[::1]:25565" true).isOk = true := by decide +kernel

example : (validateLiteralAddress "localhost:25565" false).isOk = false := by decide +kernel

end Address

end GuardedAgentRunner
