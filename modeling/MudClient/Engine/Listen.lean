/-
# Addresses to listen on

A TCP address is a host and a port joined by the last colon; a host that
holds colons itself must be bracketed.  The port is a decimal number from
0 to 65535, optionally signed, where an empty port is 0.  `listenFault`
gives the text of an address that is refused before any name would be
looked up, and nothing for one that passes these checks.
-/
import MudClient.Failure

namespace MudClient.Engine

def addressFault (addr why : String) : String := "address " ++ addr ++ ": " ++ why

def firstIndex (cs : List Char) (c : Char) : Option Nat := cs.findIdx? (· == c)

def lastIndex (cs : List Char) (c : Char) : Option Nat :=
  (cs.reverse.findIdx? (· == c)).map fun i => cs.length - 1 - i

def splitHostPort (hp : String) : Except String (String × String) := do
  let cs := hp.toList
  let missingPort := addressFault hp "missing port in address"
  let tooManyColons := addressFault hp "too many colons in address"
  let some i := lastIndex cs ':' | throw missingPort
  let (host, j, k) ← if cs.head? == some '[' then
      match firstIndex cs ']' with
      | none => throw (addressFault hp "missing ']' in address")
      | some e =>
        if e + 1 == cs.length then throw missingPort
        else if e + 1 == i then pure (String.ofList ((cs.take e).drop 1), 1, e + 1)
        else if cs[e + 1]? == some ':' then throw tooManyColons
        else throw missingPort
    else
      let host := cs.take i
      if host.contains ':' then throw tooManyColons
      pure (String.ofList host, 0, 0)
  if (cs.drop j).contains '[' then throw (addressFault hp "unexpected '[' in address")
  if (cs.drop k).contains ']' then throw (addressFault hp "unexpected ']' in address")
  pure (host, String.ofList (cs.drop (i + 1)))

/-- The number a port names, saturating far beyond the range; none when it
is not a number and would need a lookup. -/
def portNumber (service : String) : Option Int :=
  if service.isEmpty then some 0
  else
    let (neg, body) := match service.toList with
      | '+' :: r => (false, r)
      | '-' :: r => (true, r)
      | r => (false, r)
    if body.all Char.isDigit then
      let cutoff : Nat := Nat.pow 2 30
      let n := body.foldl (fun n d => if n ≥ cutoff then n else n * 10 + (d.toNat - '0'.toNat)) 0
      let n : Int := if !neg && n ≥ cutoff then cutoff - 1 else if neg && n > cutoff then cutoff else n
      some (if neg then -n else n)
    else none

/-- The fault of listening on a TCP address that is refused before any
name is looked up. -/
def listenFault (addr : String) : Option String :=
  match splitHostPort addr with
  | .error why => some ("listen tcp: " ++ why)
  | .ok (_, port) =>
    match portNumber port with
    | some p => if p < 0 || p > 65535 then some ("listen tcp: " ++ addressFault port "invalid port") else none
    | none => none

end MudClient.Engine
