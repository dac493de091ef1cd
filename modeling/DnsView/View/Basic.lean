import DnsView.View.Codec
import DnsView.Message.Basic
import DnsView.View.Value
import DnsView.Digest.Fingerprint

/-!
# Views

Views of messages, the JSON form in which they are handed to a script and handed back, and their
fingerprints.
-/

/-!
## Views

A view is what a script sees of a message: the sender, the header, and the questions and records as
mappings.
-/

namespace DnsView

/-- Who sent a message: the address as it was given, and the device that is known for it. -/
structure Client where
  ip : String
  mac : String
  nickname : String
deriving DecidableEq, Repr, Inhabited

/--
The head of a message as a script sees it.  A script may set codes that are wider than on the wire.
-/
structure Header where
  authenticated : Bool
  authoritative : Bool
  checkingDisabled : Bool
  id : UInt16
  opcode : UInt8
  rcode : UInt16
  recursionAvailable : Bool
  recursionDesired : Bool
  response : Bool
  truncated : Bool
  zero : Bool
deriving DecidableEq, Repr

namespace Header

instance : Inhabited Header :=
  ⟨⟨false, false, false, 0, 0, 0, false, false, false, false, false⟩⟩

def ofWire (h : WireHeader) : Header where
  authenticated := h.ad
  authoritative := h.aa
  checkingDisabled := h.cd
  id := h.id
  opcode := h.opcode
  rcode := h.rcode
  recursionAvailable := h.ra
  recursionDesired := h.rd
  response := h.qr
  truncated := h.tc
  zero := h.z

def opcodeMask : UInt8 := 0x0F

/-- The bits of a response code, eight of which are in another place on the wire. -/
def rcodeMask : UInt16 := 0x0FFF

/-- The header of a message.  Bits of codes that do not fit on the wire are dropped. -/
def toWire (h : Header) : WireHeader where
  id := h.id
  qr := h.response
  opcode := h.opcode &&& opcodeMask
  aa := h.authoritative
  tc := h.truncated
  rd := h.recursionDesired
  ra := h.recursionAvailable
  z := h.zero
  ad := h.authenticated
  cd := h.checkingDisabled
  rcode := h.rcode &&& rcodeMask

end Header

structure View where
  answers : List Mapping
  client : Client
  compress : Bool
  extras : List Mapping
  header : Header
  nameservers : List Mapping
  questions : List Mapping
deriving Inhabited

namespace View

def recordCount (v : View) : Nat :=
  v.answers.length + v.nameservers.length + v.extras.length

end View

namespace Question

def toMapping (q : Question) : Mapping := .ofList
  [("Name", .text q.name.text), ("Qtype", .ofUInt16 q.qtype.code),
    ("Qclass", .ofUInt16 q.qclass.code)]

/--
The question that a mapping shows.  Each part that is missing or of the wrong kind is replaced by
the empty name or the code zero.
-/
def ofMapping (fields : Mapping) : Question where
  name := .ofString (fields.textD "Name")
  qtype := .ofCode (fields.uint16D "Qtype")
  qclass := .ofCode (fields.uint16D "Qclass")

end Question

/-!
## Views as JSON

The JSON form of views.  Any member may be missing when a view is read, and then has its default.
-/

open Json (Reader Field Shape)

namespace Client

def toJson (c : Client) : Json := .object
  [("IP", .text c.ip), ("MAC", .text c.mac), ("Alias", .text c.nickname)]

def shape : Shape Client where
  name := "ScriptClient"
  blank := default
  fields :=
    [.of "IP" Json.readString (fun c x => { c with ip := x }) false,
      .of "MAC" Json.readString (fun c x => { c with mac := x }) false,
      .of "Alias" Json.readString (fun c x => { c with nickname := x }) false]

end Client

namespace Header

def toJson (h : Header) : Json := .object
  [("AuthenticatedData", .boolean h.authenticated), ("Authoritative", .boolean h.authoritative),
    ("CheckingDisabled", .boolean h.checkingDisabled), ("Id", .ofUInt16 h.id),
    ("Opcode", .integer h.opcode.toNat), ("Rcode", .ofUInt16 h.rcode),
    ("RecursionAvailable", .boolean h.recursionAvailable),
    ("RecursionDesired", .boolean h.recursionDesired), ("Response", .boolean h.response),
    ("Truncated", .boolean h.truncated), ("Zero", .boolean h.zero)]

def shape : Shape Header where
  name := "ScriptHeader"
  blank := default
  fields :=
    [.of "AuthenticatedData" Json.readBool (fun h x => { h with authenticated := x }) false,
      .of "Authoritative" Json.readBool (fun h x => { h with authoritative := x }) false,
      .of "CheckingDisabled" Json.readBool (fun h x => { h with checkingDisabled := x }) false,
      .of "Id" Json.readUInt16 (fun h x => { h with id := x }) false,
      .of "Opcode" Json.readUInt8 (fun h x => { h with opcode := x }) false,
      .of "Rcode" Json.readUInt16 (fun h x => { h with rcode := x }) false,
      .of "RecursionAvailable" Json.readBool
        (fun h x => { h with recursionAvailable := x }) false,
      .of "RecursionDesired" Json.readBool (fun h x => { h with recursionDesired := x }) false,
      .of "Response" Json.readBool (fun h x => { h with response := x }) false,
      .of "Truncated" Json.readBool (fun h x => { h with truncated := x }) false,
      .of "Zero" Json.readBool (fun h x => { h with zero := x }) false]

end Header

namespace View

def mappingsToJson (ms : List Mapping) : Json := .list (ms.map Fields.toJson)

def toJson (v : View) : Json := .object
  [("Answers", mappingsToJson v.answers), ("Client", v.client.toJson),
    ("Compress", .boolean v.compress), ("Extras", mappingsToJson v.extras),
    ("Header", v.header.toJson), ("Nameservers", mappingsToJson v.nameservers),
    ("Questions", mappingsToJson v.questions)]

def shape : Shape View where
  name := "ScriptQuery"
  blank := default
  fields :=
    [.of "Answers" (Json.readList Fields.reader) (fun v x => { v with answers := x }) false,
      .of "Client" Client.shape.read (fun v x => { v with client := x }) false,
      .of "Compress" Json.readBool (fun v x => { v with compress := x }) false,
      .of "Extras" (Json.readList Fields.reader) (fun v x => { v with extras := x }) false,
      .of "Header" Header.shape.read (fun v x => { v with header := x }) false,
      .of "Nameservers" (Json.readList Fields.reader)
        (fun v x => { v with nameservers := x }) false,
      .of "Questions" (Json.readList Fields.reader) (fun v x => { v with questions := x }) false]

def ofString (s : String) : Except Json.ReadError View :=
  Json.read shape.read s

end View

end DnsView

/-!
## Fingerprints of views

Two views have the same fingerprint if they agree in everything that counts for the message: all
but the device that is known for the sender.
-/

namespace DnsView.View

def parts (v : View) : List Part :=
  [.json (.ok (mappingsToJson v.answers)), .text v.client.ip, .flag v.compress,
    .json (.ok (mappingsToJson v.extras)), .json (.ok v.header.toJson),
    .json (.ok (mappingsToJson v.nameservers)), .json (.ok (mappingsToJson v.questions))]

def fingerprint (v : View) : Fingerprint := .ofParts v.parts

end DnsView.View
