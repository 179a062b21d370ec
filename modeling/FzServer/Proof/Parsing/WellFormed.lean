import FzServer.Proof.Parsing.Lines
import FzServer.Construction.Rtsp.RtspHandler
import Mathlib.Data.List.DropRight

/-
This file says which requests are well formed and what the server should read in them.
-/

namespace FzServer.Parsing

open Foundation Sessions Rtsp

/-- No blank and no terminator stands inside a token. -/
structure Token where
  text : List UInt8
  nonempty : text ≠ []
  solid : ∀ character ∈ text, isspace character = false ∧ character ≠ 0

/-- These bytes may stand between the colon and the value. -/
structure Blanks where
  text : List UInt8
  spaces : ∀ character ∈ text, character = 0x20 ∨ character = 0x09

structure Digits where
  text : List UInt8
  nonempty : text ≠ []
  digits : ∀ character ∈ text, isdigit character = true

/-- A session identifier leaves room for its terminator. The other names and values are free. -/
inductive Header
  | cseq (blanks : Blanks) (number : Digits)
  | session (blanks : Blanks) (value : Token) (fits : value.text.length < 40)
  | other (name : Token) (value : List UInt8) (oneWord : 0x3A ∉ name.text)
      (ordinary : name.text ≠ ascii "CSeq" ∧ name.text ≠ ascii "Session")
      (oneLine : 0 ∉ value ∧ 0x0A ∉ value ∧ 0x0D ∉ value)

namespace Header

def name : Header → List UInt8
  | cseq .. => ascii "CSeq"
  | session .. => ascii "Session"
  | other name .. => name.text

def value : Header → List UInt8
  | cseq blanks number => blanks.text ++ number.text
  | session blanks value _ => blanks.text ++ value.text
  | other _ value .. => value

def line (header : Header) : List UInt8 := header.name ++ 0x3A :: header.value

def sequenceNumber : Header → Option Nat
  | cseq _ number => some (decimalValue number.text)
  | _ => none

def sessionValue : Header → Option (List UInt8)
  | session _ value _ => some value.text
  | _ => none

end Header

/-- The path ends before the query, and its last component follows the last slash. -/
def lastComponent (url : List UInt8) : List UInt8 :=
  (url.takeWhile fun character => character ≠ 0x3F ∧ character ≠ 0x23).rtakeWhile (· ≠ 0x2F)

/-- These are the lines of a request before the requirements on its headers. -/
structure RequestLines where
  method : Method
  url : Token
  headers : List Header

namespace RequestLines

def requestLine (request : RequestLines) : List UInt8 :=
  request.method.text ++ 0x20 :: (request.url.text ++ 0x20 :: ascii "RTSP/1.0")

def bytes (request : RequestLines) : List UInt8 :=
  request.requestLine ++ crlf ++ (request.headers.flatMap fun header => header.line ++ crlf) ++ crlf

end RequestLines

/-- One header carries the sequence number, and at most one names a session. -/
structure RtspRequest extends RequestLines where
  urlFits : url.text.length < 100
  cseq : Nat
  oneCSeq : headers.filterMap Header.sequenceNumber = [cseq]
  session : Option (List UInt8)
  oneSession : headers.filterMap Header.sessionValue = session.toList
  fits : toRequestLines.bytes.length < BUF_MAX_SIZE

namespace RtspRequest

def received (request : RtspRequest) : Received :=
  ⟨request.bytes, Nat.le_of_lt request.fits⟩

/-- The last component of the path selects the track. -/
def selectTrack (request : RtspRequest) (clientFd : Nat) (manager : ClientFdManager) :
    ClientFdManager :=
  if lastComponent request.url.text = ascii "track0" then manager.setAvFlags clientFd false
  else if lastComponent request.url.text = ascii "track1" then manager.setAvFlags clientFd true
  else manager

/-- The reply depends on these values and on no others. -/
structure Reads (request : RtspRequest) (handler : RtspHandler) (scanned : Scanned) : Prop where
  method : scanned.method = request.method.text
  url : scanned.url = request.url.text
  cseq : scanned.CSeq = request.cseq
  handler : scanned.handler = { handler with
    session_ := request.session.getD []
    clientFdManager_ := request.selectTrack handler.clientFd_ handler.clientFdManager_ }

/-- Each event gives the request to a handler that has no session yet. -/
def Faithful (request : RtspRequest) : Prop :=
  ∀ surroundings handler, handler.session_ = [] →
    request.Reads handler (parseRequest request.received.bytes surroundings handler)

end RtspRequest

/-- The loop takes this line for a session header. -/
def Header.selectsSession (header : Header) : Bool :=
  strstr header.line (ascii "Session") ∧ strstr header.line (ascii "CSeq") = false ∧
    ¬ ascii "Transport:" <+: header.line

/-- No text of the request is taken for a line or a track that it is not. -/
structure RtspRequest.Unambiguous (request : RtspRequest) : Prop where
  quiet : ∀ header ∈ request.headers, hasKeyword header.line = false
  cseq : request.cseq < 0x80000000
  session : ∀ header ∈ request.headers, header.sessionValue ≠ none →
    strstr header.line (ascii "CSeq") = false
  absent : request.session = none → ∀ header ∈ request.headers, header.selectsSession = false
  track0 : strstr request.url.text (ascii "track0") →
    lastComponent request.url.text = ascii "track0" ∨
      lastComponent request.url.text = ascii "track1"
  track1 : strstr request.url.text (ascii "track1") →
    lastComponent request.url.text = ascii "track1"

end FzServer.Parsing
