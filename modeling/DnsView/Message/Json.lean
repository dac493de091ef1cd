import DnsView.Message.Basic
import DnsView.Json.Basic
import DnsView.Json.Reader

/-!
# Messages as JSON

The JSON form of messages and their parts, written with the members in a fixed order and read by
name or by position.  Types and classes are numbers, names are lists of labels, addresses are
texts, and a payload is an object whose single member is named for its kind.
-/

namespace DnsView

open Json (Reader Field Shape Variant)

namespace Name

def toJson (n : Name) : Json := .ofStrings n.labels

def reader : Reader Name := fun levels n =>
  Name.mk <$> Json.readList Json.readString levels n

end Name

namespace RecordType

def toJson (t : RecordType) : Json := .ofUInt16 t.code

def reader : Reader RecordType := fun levels n =>
  ofCode <$> Json.readUInt16 levels n

end RecordType

namespace RecordClass

def toJson (c : RecordClass) : Json := .ofUInt16 c.code

def reader : Reader RecordClass := fun levels n =>
  ofCode <$> Json.readUInt16 levels n

end RecordClass

namespace Soa

def toJson (d : Soa) : Json := .object
  [("mname", .text d.mname), ("rname", .text d.rname), ("serial", .ofUInt32 d.serial),
    ("refresh", .ofUInt32 d.refresh), ("retry", .ofUInt32 d.retry),
    ("expire", .ofUInt32 d.expire), ("minimum", .ofUInt32 d.minimum)]

def shape : Shape Soa where
  name := "SoaData"
  blank := default
  fields :=
    [.of "mname" Json.readString (fun d x => { d with mname := x }) true,
      .of "rname" Json.readString (fun d x => { d with rname := x }) true,
      .of "serial" Json.readUInt32 (fun d x => { d with serial := x }) true,
      .of "refresh" Json.readUInt32 (fun d x => { d with refresh := x }) true,
      .of "retry" Json.readUInt32 (fun d x => { d with retry := x }) true,
      .of "expire" Json.readUInt32 (fun d x => { d with expire := x }) true,
      .of "minimum" Json.readUInt32 (fun d x => { d with minimum := x }) true]

end Soa

namespace Srv

def toJson (d : Srv) : Json := .object
  [("priority", .ofUInt16 d.priority), ("weight", .ofUInt16 d.weight),
    ("port", .ofUInt16 d.port), ("target", .text d.target)]

def shape : Shape Srv where
  name := "SrvData"
  blank := default
  fields :=
    [.of "priority" Json.readUInt16 (fun d x => { d with priority := x }) true,
      .of "weight" Json.readUInt16 (fun d x => { d with weight := x }) true,
      .of "port" Json.readUInt16 (fun d x => { d with port := x }) true,
      .of "target" Json.readString (fun d x => { d with target := x }) true]

end Srv

namespace Payload

def toJson : Payload → Json
  | a address => .object [("A", .text address.text)]
  | aaaa address => .object [("AAAA", .text address.text)]
  | ns host => .object [("NS", .text host)]
  | cname target => .object [("CNAME", .text target)]
  | ptr target => .object [("PTR", .text target)]
  | mx preference exchange =>
      .object [("MX", .list [.ofUInt16 preference, .text exchange])]
  | soa data => .object [("SOA", data.toJson)]
  | srv data => .object [("SRV", data.toJson)]
  | txt parts => .object [("TXT", .ofStrings parts)]
  | raw bytes => .object [("Unknown", .list (bytes.map fun b => .integer b.toNat))]

def single {α : Type} (name : String) (reader : Reader α) (make : α → Payload) :
    Variant Payload where
  name := name
  content := "newtype variant"
  read levels n := make <$> reader levels n

def variants : List (Variant Payload) :=
  [single "A" (Json.readNamed "IPv4 address" Ipv4.ofString?) .a,
    single "AAAA" (Json.readNamed "IPv6 address" Ipv6.ofString?) .aaaa,
    single "NS" Json.readString .ns,
    single "CNAME" Json.readString .cname,
    single "PTR" Json.readString .ptr,
    { name := "MX"
      content := "tuple variant"
      read := fun levels n =>
        (fun (preference, exchange) => .mx preference exchange) <$>
          Json.readPair "tuple variant DNSResourceData::MX" Json.readUInt16 Json.readString
            levels n },
    single "SOA" Soa.shape.read .soa,
    single "SRV" Srv.shape.read .srv,
    single "TXT" (Json.readList Json.readString) .txt,
    single "Unknown" (Json.readList Json.readUInt8) .raw]

def reader : Reader Payload :=
  Json.readVariant variants

end Payload

namespace Record

def toJson (r : Record) : Json := .object
  [("labels", r.name.toJson), ("rtype", r.rtype.toJson), ("rclass", r.rclass.toJson),
    ("ttl", .ofUInt32 r.ttl), ("rdata", r.payload.toJson)]

def shape : Shape Record where
  name := "DNSResource"
  blank := default
  fields :=
    [.of "labels" Name.reader (fun r x => { r with name := x }) true,
      .of "rtype" RecordType.reader (fun r x => { r with rtype := x }) true,
      .of "rclass" RecordClass.reader (fun r x => { r with rclass := x }) true,
      .of "ttl" Json.readUInt32 (fun r x => { r with ttl := x }) true,
      .of "rdata" Payload.reader (fun r x => { r with payload := x }) true]

end Record

namespace Question

def toJson (q : Question) : Json := .object
  [("labels", q.name.toJson), ("qtype", q.qtype.toJson), ("qclass", q.qclass.toJson)]

def shape : Shape Question where
  name := "DNSQuestion"
  blank := default
  fields :=
    [.of "labels" Name.reader (fun q x => { q with name := x }) true,
      .of "qtype" RecordType.reader (fun q x => { q with qtype := x }) true,
      .of "qclass" RecordClass.reader (fun q x => { q with qclass := x }) true]

end Question

namespace WireHeader

def toJson (h : WireHeader) : Json := .object
  [("id", .ofUInt16 h.id), ("qr", .boolean h.qr), ("opcode", .integer h.opcode.toNat),
    ("aa", .boolean h.aa), ("tc", .boolean h.tc), ("rd", .boolean h.rd), ("ra", .boolean h.ra),
    ("z", .boolean h.z), ("ad", .boolean h.ad), ("cd", .boolean h.cd),
    ("rcode", .ofUInt16 h.rcode)]

def shape : Shape WireHeader where
  name := "DNSHeader"
  blank := default
  fields :=
    [.of "id" Json.readUInt16 (fun h x => { h with id := x }) true,
      .of "qr" Json.readBool (fun h x => { h with qr := x }) true,
      .of "opcode" Json.readUInt8 (fun h x => { h with opcode := x }) true,
      .of "aa" Json.readBool (fun h x => { h with aa := x }) true,
      .of "tc" Json.readBool (fun h x => { h with tc := x }) true,
      .of "rd" Json.readBool (fun h x => { h with rd := x }) true,
      .of "ra" Json.readBool (fun h x => { h with ra := x }) true,
      .of "z" Json.readBool (fun h x => { h with z := x }) true,
      .of "ad" Json.readBool (fun h x => { h with ad := x }) true,
      .of "cd" Json.readBool (fun h x => { h with cd := x }) true,
      .of "rcode" Json.readUInt16 (fun h x => { h with rcode := x }) true]

end WireHeader

namespace Message

def toJson (m : Message) : Json := .object
  [("header", m.header.toJson), ("questions", .list (m.questions.map Question.toJson)),
    ("answers", .list (m.answers.map Record.toJson)),
    ("authorities", .list (m.authorities.map Record.toJson)),
    ("resources", .list (m.additionals.map Record.toJson)),
    ("compress", .boolean m.compress)]

/-- How a message is read.  Names are not compressed unless the message says so. -/
def shape : Shape Message where
  name := "DNSPacket"
  blank := default
  fields :=
    [.of "header" WireHeader.shape.read (fun m x => { m with header := x }) true,
      .of "questions" (Json.readList Question.shape.read)
        (fun m x => { m with questions := x }) true,
      .of "answers" (Json.readList Record.shape.read) (fun m x => { m with answers := x }) true,
      .of "authorities" (Json.readList Record.shape.read)
        (fun m x => { m with authorities := x }) true,
      .of "resources" (Json.readList Record.shape.read)
        (fun m x => { m with additionals := x }) true,
      .of "compress" Json.readBool (fun m x => { m with compress := x }) false]

def ofString (s : String) : Except Json.ReadError Message :=
  Json.read shape.read s

end Message

end DnsView
