import Dashboard.Net.Address

namespace Dashboard.RateLimit

structure Origin where
  forwardedFor : Option String
  realAddress : Option String
  /-- The address of the connection, as the transport reports it. -/
  peer : Option String
deriving DecidableEq, Repr

namespace Origin

/-- The canonical text of a header value that is an IP address, blanks around it apart. -/
def canonical? (value : List Char) : Option (List Char) :=
  (Net.Address.parse? (Text.trim value)).map Net.Address.text

def firstEntry (value : List Char) : List Char := value.takeWhile (· ≠ ',')

/-- The key of requests that nothing identifies. -/
def anonymous : String := "unknown"

/-- The address the first proxy reports, else the one in the second header, else the peer. -/
def key (origin : Origin) : String :=
  match origin.forwardedFor.bind fun value => canonical? (firstEntry value.toList) with
  | some address => String.ofList address
  | none =>
    match origin.realAddress.bind fun value => canonical? value.toList with
    | some address => String.ofList address
    | none =>
      let peer := Text.trim (origin.peer.getD "").toList
      if peer.isEmpty then anonymous else String.ofList peer

end Origin
end Dashboard.RateLimit
