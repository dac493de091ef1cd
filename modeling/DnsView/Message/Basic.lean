import DnsView.Text.Characters
import DnsView.Net.Addresses

/-!
# Messages

A decoded message and its parts: names, codes, records, questions and the header of the wire.
-/

/-!
## Domain names

A name is a list of labels.  In its text the labels are separated by points, and a point or a
backslash inside a label is escaped by a backslash.  A fully qualified name ends in the empty root
label, so its text ends in a point, and the root itself is a lone point.

Any text is read as a name: an escaped character stands for itself, whatever it is, and so does a
backslash at the end.
-/

namespace DnsView

structure Name where
  labels : List String
deriving DecidableEq, Repr, Inhabited

namespace Name

def escaped (label : List Char) : List Char :=
  label.flatMap fun c => if c = '.' ∨ c = '\\' then ['\\', c] else [c]

def joined : List (List Char) → List Char
  | [] => []
  | [l] => escaped l
  | l :: ls => escaped l ++ '.' :: joined ls

def text (n : Name) : String :=
  if n.labels = [""] then "." else String.ofList (joined (n.labels.map String.toList))

/-- The first label of a text and the labels after it. -/
def split : List Char → List Char × List (List Char)
  | [] => ([], [])
  | ['\\'] => (['\\'], [])
  | '\\' :: c :: rest =>
      let (label, labels) := split rest
      (c :: label, labels)
  | c :: rest =>
      let (label, labels) := split rest
      if c = '.' then ([], label :: labels) else (c :: label, labels)

def ofString (s : String) : Name :=
  if s = "" then ⟨[]⟩
  else if s = "." then ⟨[""]⟩
  else
    let (label, labels) := split s.toList
    ⟨(label :: labels).map String.ofList⟩

end Name

/-!
## Type and class codes

Records and questions have a type and a class, which are numbers on the wire.  The assigned numbers
have constructors of their own; any other number is kept as it is.  A number that is kept although
it is assigned is a value of its own, which reading a code never gives.
-/

inductive RecordType where
  | a | ns | cname | soa | ptr | hinfo | mx | txt | aaaa | srv | opt | ds | rrsig | nsec | dnskey
  | https | axfr | any | caa
  | unknown (code : UInt16)
deriving DecidableEq, Repr

namespace RecordType

instance : Inhabited RecordType := ⟨.a⟩

def ofCode (code : UInt16) : RecordType :=
  match code with
  | 1 => .a
  | 2 => .ns
  | 5 => .cname
  | 6 => .soa
  | 12 => .ptr
  | 13 => .hinfo
  | 15 => .mx
  | 16 => .txt
  | 28 => .aaaa
  | 33 => .srv
  | 41 => .opt
  | 43 => .ds
  | 46 => .rrsig
  | 47 => .nsec
  | 48 => .dnskey
  | 65 => .https
  | 252 => .axfr
  | 255 => .any
  | 257 => .caa
  | code => .unknown code

def code : RecordType → UInt16
  | a => 1
  | ns => 2
  | cname => 5
  | soa => 6
  | ptr => 12
  | hinfo => 13
  | mx => 15
  | txt => 16
  | aaaa => 28
  | srv => 33
  | opt => 41
  | ds => 43
  | rrsig => 46
  | nsec => 47
  | dnskey => 48
  | https => 65
  | axfr => 252
  | any => 255
  | caa => 257
  | unknown code => code

def label : RecordType → String
  | a => "A"
  | ns => "NS"
  | cname => "CNAME"
  | soa => "SOA"
  | ptr => "PTR"
  | hinfo => "HINFO"
  | mx => "MX"
  | txt => "TXT"
  | aaaa => "AAAA"
  | srv => "SRV"
  | opt => "OPT"
  | ds => "DS"
  | rrsig => "RRSIG"
  | nsec => "NSEC"
  | dnskey => "DNSKEY"
  | https => "HTTPS"
  | axfr => "AXFR"
  | any => "ANY"
  | caa => "CAA"
  | unknown code => "Unknown(" ++ String.ofList (Text.decimal code.toNat) ++ ")"

end RecordType

inductive RecordClass where
  | internet | cs | chaos | hesiod | none | any
  | unknown (code : UInt16)
deriving DecidableEq, Repr

namespace RecordClass

instance : Inhabited RecordClass := ⟨.internet⟩

def ofCode (code : UInt16) : RecordClass :=
  match code with
  | 1 => .internet
  | 2 => .cs
  | 3 => .chaos
  | 4 => .hesiod
  | 254 => .none
  | 255 => .any
  | code => .unknown code

def code : RecordClass → UInt16
  | internet => 1
  | cs => 2
  | chaos => 3
  | hesiod => 4
  | none => 254
  | any => 255
  | unknown code => code

def label : RecordClass → String
  | internet => "IN"
  | cs => "CS"
  | chaos => "CH"
  | hesiod => "HS"
  | none => "NONE"
  | any => "ANY"
  | unknown code => "Unknown(" ++ String.ofList (Text.decimal code.toNat) ++ ")"

end RecordClass

/-!
## Resource records

A record carries a payload under a name, type and class.  Nine types have payloads with a structure
of their own; a raw payload may stand under any type.  Nothing keeps a record from carrying a
payload of another type than its own.
-/

structure Soa where
  mname : String
  rname : String
  serial : UInt32
  refresh : UInt32
  retry : UInt32
  expire : UInt32
  minimum : UInt32
deriving DecidableEq, Repr, Inhabited

structure Srv where
  priority : UInt16
  weight : UInt16
  port : UInt16
  target : String
deriving DecidableEq, Repr, Inhabited

inductive Payload where
  | a (address : Ipv4)
  | aaaa (address : Ipv6)
  | ns (host : String)
  | cname (target : String)
  | ptr (target : String)
  | mx (preference : UInt16) (exchange : String)
  | soa (data : Soa)
  | srv (data : Srv)
  | txt (parts : List String)
  | raw (bytes : List UInt8)
deriving DecidableEq, Repr

namespace Payload

instance : Inhabited Payload := ⟨.raw []⟩

/-- The type that a payload belongs to; raw payloads belong to none. -/
def recordType? : Payload → Option RecordType
  | a _ => some .a
  | aaaa _ => some .aaaa
  | ns _ => some .ns
  | cname _ => some .cname
  | ptr _ => some .ptr
  | mx _ _ => some .mx
  | soa _ => some .soa
  | srv _ => some .srv
  | txt _ => some .txt
  | raw _ => none

def kind : Payload → String
  | a _ => "A"
  | aaaa _ => "AAAA"
  | ns _ => "NS"
  | cname _ => "CNAME"
  | ptr _ => "PTR"
  | mx _ _ => "MX"
  | soa _ => "SOA"
  | srv _ => "SRV"
  | txt _ => "TXT"
  | raw _ => "opaque"

end Payload

structure Record where
  name : Name
  rtype : RecordType
  rclass : RecordClass
  ttl : UInt32
  payload : Payload
deriving DecidableEq, Repr, Inhabited

namespace Record

/-- The internet record with a payload under its own type; raw payloads get the type A. -/
def ofPayload (name : String) (ttl : UInt32) (payload : Payload) : Record where
  name := .ofString name
  rtype := payload.recordType?.getD default
  rclass := .internet
  ttl := ttl
  payload := payload

end Record

/-!
## DNS messages

A decoded message: its header, its questions, and three sections of records.  The counts of the
header are not kept, since they follow from the sections.
-/

/-- The codes and flags at the head of a message, under the names and in the order of the wire. -/
structure WireHeader where
  id : UInt16
  qr : Bool
  opcode : UInt8
  aa : Bool
  tc : Bool
  rd : Bool
  ra : Bool
  z : Bool
  ad : Bool
  cd : Bool
  rcode : UInt16
deriving DecidableEq, Repr

instance : Inhabited WireHeader :=
  ⟨⟨0, false, 0, false, false, false, false, false, false, false, 0⟩⟩

structure Question where
  name : Name
  qtype : RecordType
  qclass : RecordClass
deriving DecidableEq, Repr, Inhabited

inductive Section where
  | answer
  | authority
  | additional
deriving DecidableEq, Repr

def Section.label : Section → String
  | .answer => "answers"
  | .authority => "nameservers"
  | .additional => "extras"

structure Message where
  header : WireHeader
  questions : List Question
  answers : List Record
  authorities : List Record
  additionals : List Record
  /-- Whether names are compressed when the message goes back on the wire. -/
  compress : Bool
deriving DecidableEq, Repr, Inhabited

namespace Message

def recordCount (m : Message) : Nat :=
  m.answers.length + m.authorities.length + m.additionals.length

end Message

end DnsView
