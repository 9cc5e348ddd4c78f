import Dashboard.Net.Address

namespace Dashboard.Net

structure Endpoint where
  address : Address
  port : Fin 65536
deriving DecidableEq

namespace Endpoint

def port? (text : List Char) : Option (Fin 65536) :=
  if text.isEmpty || !text.all Char.isDigit then none
  else
    let value := text.foldl (fun value digit => 10 * value + (digit.toNat - 48)) 0
    if bound : value < 65536 then some ⟨value, bound⟩ else none

/-- The end that a text denotes; an address with colons stands in brackets. -/
def parse? (text : List Char) : Option Endpoint :=
  match text with
  | '[' :: rest =>
    let inner := rest.takeWhile (· ≠ ']')
    match rest.drop inner.length, Address.parse? inner with
    | ']' :: ':' :: port, some (.v6 groups eight) => (port? port).map (⟨.v6 groups eight, ·⟩)
    | _, _ => none
  | text =>
    let host := text.takeWhile (· ≠ ':')
    match text.drop host.length, Address.parse? host with
    | ':' :: port, some address => (port? port).map (⟨address, ·⟩)
    | _, _ => none

def text (endpoint : Endpoint) : List Char :=
  let port := ':' :: Nat.toDigits 10 endpoint.port.val
  match endpoint.address with
  | .v4 .. => endpoint.address.text ++ port
  | .v6 .. => '[' :: endpoint.address.text ++ ']' :: port

/-- The canonical text of the end that a text denotes. -/
def canonical? (text : String) : Option String :=
  (parse? text.toList).map fun endpoint => String.ofList endpoint.text

end Endpoint
end Dashboard.Net
