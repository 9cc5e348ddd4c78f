import Dashboard.WebSocket.Frame

namespace Dashboard.WebSocket

/-- Why the frames of a client cannot be understood, or stopped coming. -/
inductive Fault where
  | unknownOpcode (code : Nat)
  | reservedBits
  | controlInParts
  | controlTooLong
  | badClose
  | nothingToContinue
  | unfinished (opcode : Opcode)
  | badText
  | tooLong (size limit : Nat)
  | cutOff
  | brokenPipe
deriving DecidableEq, Repr

/-- The name of a data frame in a fault. -/
def Opcode.faultName : Opcode → String
  | .continuation => "CONTINUE"
  | .text => "TEXT"
  | .binary => "BINARY"
  | opcode => "RESERVED_DATA_" ++ toString opcode.code

def Fault.text : Fault → String
  | unknownOpcode code => violation ("Encountered invalid opcode: " ++ toString code)
  | reservedBits => violation "Reserved bits are non-zero"
  | controlInParts => violation "Fragmented control frame"
  | controlTooLong => violation "Control frame too big (payload must be 125 bytes or less)"
  | badClose => violation "Invalid close sequence"
  | nothingToContinue => violation "Continue frame but nothing to continue"
  | unfinished opcode =>
    violation ("While waiting for more fragments received: " ++ opcode.faultName)
  | badText => "UTF-8 encoding error"
  | tooLong size limit =>
    "Space limit exceeded: Message too long: " ++ toString size ++ " > " ++ toString limit
  | cutOff => violation "Connection reset without closing handshake"
  | brokenPipe => "IO error: broken pipe"
where
  violation (reason : String) : String := "WebSocket protocol error: " ++ reason

inductive Message where
  | text (content : String)
  | binary
  | ping (payload : List UInt8)
  | pong
  | close
deriving DecidableEq, Repr

/-- The longest payloads of a frame and of a message. -/
def longestFrame : Nat := 16 * 1024 * 1024

def longestMessage : Nat := 64 * 1024 * 1024

/-- The first part of a message, its later parts still to come. -/
structure Assembly where
  begun : Option (Opcode × List UInt8)
deriving DecidableEq, Repr

namespace Assembly

def empty : Assembly := ⟨none⟩

def complete (opcode : Opcode) (payload : List UInt8) : Except Fault Message :=
  match opcode with
  | .text =>
    match Text.Utf8.decode? payload with
    | some characters => .ok (.text (String.ofList characters))
    | none => .error .badText
  | _ => .ok .binary

/-- Adds a part to a message, which goes on unless the part is the last. -/
def extend (opcode : Opcode) (begun : List UInt8) (frame : Frame) :
    Except Fault (Option Message × Assembly) :=
  let payload := begun ++ frame.payload
  if payload.length > longestMessage then .error (.tooLong payload.length longestMessage)
  else if frame.isFinal then (complete opcode payload).map fun message => (some message, empty)
  else if opcode == .text && !Text.Utf8.startsText payload then .error .badText
  else .ok (none, ⟨some (opcode, payload)⟩)

/-- The message that a control frame is. A close frame may give a code of two bytes and a reason. -/
def control (frame : Frame) : Except Fault (Option Message) :=
  if !frame.isFinal then .error .controlInParts
  else if frame.payload.length > 125 then .error .controlTooLong
  else match frame.opcode with
    | .ping => .ok (some (.ping frame.payload))
    | .pong => .ok (some .pong)
    | .close =>
      match frame.payload with
      | [] => .ok (some .close)
      | [_] => .error .badClose
      | _ :: _ :: reason =>
        match Text.Utf8.decode? reason with
        | some _ => .ok (some .close)
        | none => .error .badText
    | opcode => .error (.unknownOpcode opcode.code)

/-- Takes a frame and answers the message that it completes, if any. -/
def receive (assembly : Assembly) (frame : Frame) : Except Fault (Option Message × Assembly) :=
  match frame.opcode with
  | .reserved code => .error (.unknownOpcode code)
  | opcode =>
    if frame.payload.length > longestFrame then
      .error (.tooLong frame.payload.length longestFrame)
    else if frame.reserved ≠ 0 then .error .reservedBits
    else if opcode.isControl then (control frame).map fun message => (message, assembly)
    else match opcode, assembly.begun with
      | .continuation, some (first, begun) => extend first begun frame
      | .continuation, none => .error .nothingToContinue
      | opcode, some _ => .error (.unfinished opcode)
      | opcode, none => extend opcode [] frame

end Assembly
end Dashboard.WebSocket
