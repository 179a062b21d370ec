import FzServer.Construction.Rtsp.RequestParser
import FzServer.Foundation.Loop
import FzServer.Foundation.Tokenizer

/-
This file runs the parse loop and notices where it reads behind the receive buffer or writes a token
behind its array. The copy of the session array into a string is not checked.
-/

namespace FzServer.Rtsp

open Foundation Sessions

/-- The parser has these arrays on its stack. -/
def methodSize : Nat := 40
def urlSize : Nat := 100
def versionSize : Nat := 40
def recvSessionSize : Nat := 40

/-- The buffer is zeroed before the receive call fills its front. -/
def receiveBuffer (received : Received) : List UInt8 :=
  received.bytes ++ List.replicate (BUF_MAX_SIZE - received.bytes.length) 0

/-- A conversion writes the token and its terminator. No value stands for an overflow. -/
def storeToken (size : Nat) (token : List UInt8) : Option (List UInt8) :=
  if token.length + 1 ≤ size then some token else none

/-- The three conversions of a request line write one array after the other. -/
def checkedRequestLine (line : List UInt8) (scanned : Scanned) : Option Scanned :=
  match scanToken line with
  | none => some scanned
  | some (first, afterMethod) =>
      (storeToken methodSize first).bind fun method =>
        match scanToken afterMethod with
        | none => some { scanned with method }
        | some (second, afterUrl) =>
            (storeToken urlSize second).bind fun url =>
              match scanToken afterUrl with
              | none => some { scanned with method, url }
              | some (third, _) =>
                  (storeToken versionSize third).map fun version =>
                    { scanned with method, url, version }

def checkedSession (line : List UInt8) (scanned : Scanned) : Option Scanned :=
  match scanSession line with
  | none =>
      some { scanned with handler := { scanned.handler with session_ := scanned.recv_session } }
  | some token =>
      (storeToken recvSessionSize token).map fun recv_session =>
        { scanned with recv_session, handler := { scanned.handler with session_ := recv_session } }

/-- The first test that succeeds classifies the line. -/
def checkedLine (line : List UInt8) (scanned : Scanned) : Option Scanned :=
  if hasKeyword line then checkedRequestLine line (scanned.setTracks line)
  else if strstr line (ascii "CSeq") then
    some { scanned with CSeq := (scanCSeq line).getD scanned.CSeq }
  else if ascii "Transport:" <+: line then some scanned
  else if strstr line (ascii "Session") then checkedSession line scanned
  else some scanned

/-- The loop leaves the receive buffer, leaves one of its arrays, or reaches the end of the text. -/
inductive ParseEnd
  | outside
  | overflow
  | finished (scanned : Scanned)

/-- The tokenizer keeps the rest of the buffer from one call to the next. -/
structure LineState where
  rest : List UInt8
  scanned : Scanned

def lineTurn (state : LineState) : ParseEnd ⊕ LineState :=
  match nextToken 0x0A state.rest with
  | .outside => .inl .outside
  | .last => .inl (.finished state.scanned)
  | .token line rest =>
      match checkedLine line state.scanned with
      | none => .inl .overflow
      | some scanned => .inr ⟨rest, scanned⟩

/-- Each turn takes a byte of the buffer, so the length is enough fuel. -/
def checkedRequest (received : Received) (surroundings : Surroundings) (handler : RtspHandler) :
    Option ParseEnd :=
  loop lineTurn ((receiveBuffer received).length + 1)
    ⟨receiveBuffer received, Scanned.init surroundings handler⟩

end FzServer.Rtsp
