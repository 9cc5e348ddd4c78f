namespace Dashboard.Http.Target

def longest : Nat := 65534

/-- The characters of a path. Those outside ASCII stand for their encoding. -/
def isPathChar (c : Char) : Bool :=
  ('!' ≤ c && c ≠ '#' && c ≠ '<' && c ≠ '>' && c ≠ '?' && c ≠ '`')

def isQueryChar (c : Char) : Bool := '!' ≤ c && c ≠ '"' && c ≠ '#' && c ≠ '<' && c ≠ '>'

/-- Whether a query is sound up to its end or to a fragment. -/
def isQuery (text : List Char) : Bool := (text.takeWhile (· ≠ '#')).all isQueryChar

/-- The path at the start of a text; no path is the root. -/
def pathOf? (text : List Char) : Option (List Char) :=
  let path := text.takeWhile fun c => c ≠ '?' && c ≠ '#'
  let rest := text.drop path.length
  let isSound := path.all isPathChar && match rest with
    | '?' :: query => isQuery query
    | _ => true
  if isSound then some (if path.isEmpty then ['/'] else path) else none

structure HostScan where
  colons : Nat
  isOpened : Bool
  isClosed : Bool
  hasPercent : Bool
  endsInAt : Bool

namespace HostScan

def start : HostScan := ⟨0, false, false, false, false⟩

/-- The characters of a host that mean nothing special. -/
def isPlain (c : Char) : Bool := c.isAlphanum || "!$&'()*+,-.;=_~".toList.contains c

def next (scan : HostScan) (c : Char) : Option HostScan :=
  let scan := { scan with endsInAt := false }
  match c with
  | ':' => if scan.colons < 8 then some { scan with colons := scan.colons + 1 } else none
  | '[' => if scan.hasPercent || scan.isOpened then none else some { scan with isOpened := true }
  | ']' =>
    if !scan.isOpened || scan.isClosed then none
    else some { scan with isClosed := true, colons := 0, hasPercent := false }
  | '@' => some { scan with colons := 0, hasPercent := false, endsInAt := true }
  | '%' => some { scan with hasPercent := true }
  | c => if isPlain c then some scan else none

/-- Brackets come in pairs, one port may follow the host, and a name is not escaped. -/
def isSound (scan : HostScan) : Bool :=
  scan.isOpened == scan.isClosed && scan.colons ≤ 1 && !scan.endsInAt && !scan.hasPercent

end HostScan

/-- The host at the start of a text, and what follows it. -/
def hostOf? (text : List Char) : Option (List Char × List Char) :=
  let host := text.takeWhile fun c => c ≠ '/' && c ≠ '?' && c ≠ '#'
  match host.foldlM HostScan.next HostScan.start with
  | some scan => if scan.isSound then some (host, text.drop host.length) else none
  | none => none

def isSchemeChar (c : Char) : Bool := c.isAlphanum || c = '+' || c = '-' || c = '.'

def longestScheme : Nat := 64

/-- What follows the scheme at the start of a text. There may be no scheme, or one that is too
long. -/
def afterScheme (text : List Char) : Option (Option (List Char)) :=
  let scheme := text.takeWhile isSchemeChar
  match text.drop scheme.length with
  | ':' :: '/' :: '/' :: rest =>
    if scheme.length ≤ longestScheme then some (some rest) else none
  | _ => some none

/-- The path of a target that does not start with one. A host alone has an empty path. -/
def absolutePath? (text : List Char) : Option (List Char) :=
  match afterScheme text with
  | none => none
  | some none =>
    match hostOf? text with
    | some (_, []) => some []
    | _ => none
  | some (some rest) =>
    match hostOf? rest with
    | some (_ :: _, rest) => pathOf? rest
    | _ => none

/-- The path of a target, if it is one. -/
def path? (target : String) : Option (List Char) :=
  if target.utf8ByteSize > longest then none
  else match target.toList with
    | [] => none
    | ['*'] => some ['*']
    | '/' :: rest => pathOf? ('/' :: rest)
    | text => absolutePath? text

end Dashboard.Http.Target
