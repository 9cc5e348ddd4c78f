import Dashboard.Text.Utf8

namespace Dashboard.WebSocket

inductive Opcode where
  | continuation
  | text
  | binary
  | close
  | ping
  | pong
  /-- One of the numbers that no use has been found for. -/
  | reserved (code : Nat)
deriving DecidableEq, Repr

namespace Opcode

def ofCode : Nat → Opcode
  | 0 => continuation
  | 1 => text
  | 2 => binary
  | 8 => close
  | 9 => ping
  | 10 => pong
  | code => reserved code

def code : Opcode → Nat
  | continuation => 0
  | text => 1
  | binary => 2
  | close => 8
  | ping => 9
  | pong => 10
  | reserved code => code

/-- Frames of this kind stand between those of a message and are never cut in parts. -/
def isControl (opcode : Opcode) : Bool := 8 ≤ opcode.code

end Opcode

/-- A frame, without the mask that the payload is sent under. -/
structure Frame where
  isFinal : Bool
  /-- The three bits that no extension has been agreed on for. -/
  reserved : Nat
  opcode : Opcode
  payload : List UInt8
deriving DecidableEq, Repr

namespace Frame

def ofHead (head : UInt8) (payload : List UInt8) : Frame :=
  ⟨128 ≤ head.toNat, head.toNat / 16 % 8, .ofCode (head.toNat % 16), payload⟩

/-- A frame that is a message of its own. -/
def whole (opcode : Opcode) (payload : List UInt8) : Frame := ⟨true, 0, opcode, payload⟩

def ofText (text : String) : Frame := whole .text (Text.Utf8.encode text)

def size (frame : Frame) : Nat :=
  let length := frame.payload.length
  length + if length < 126 then 2 else if length < 65536 then 4 else 10

def maskedSize (frame : Frame) : Nat := frame.size + 4

def totalSize (frames : List Frame) : Nat := frames.foldr (fun frame total => frame.size + total) 0

@[simp] theorem totalSize_append (first second : List Frame) :
    totalSize (first ++ second) = totalSize first + totalSize second := by
  induction first with
  | nil => exact (Nat.zero_add _).symm
  | cons frame rest inductionHypothesis =>
    exact (congrArg (frame.size + ·) inductionHypothesis).trans (Nat.add_assoc ..).symm

end Frame
end Dashboard.WebSocket
