import DnsView.View.Value
import DnsView.Message.Basic
import DnsView.Text.Characters

/-!
# Records as mappings

A script sees a record as a mapping.  The key `Header` holds the name, type, class and time to live
of the record, and the payload is held by keys of its own:

* `A` and `AAAA` for addresses, `Ns`, `Target` and `Ptr` for names,
* `Preference` and `Mx`, `Priority`, `Weight`, `Port` and `Target`,
* `Ns`, `Mbox`, `Serial`, `Refresh`, `Retry`, `Expire` and `Minttl`,
* `Txt` for a list of strings, and `Rdata` for raw bytes in hexadecimal.

A record is only shown if its payload is raw or belongs to its type.  Reading a mapping is strict:
the first key that is missing or holds a wrong value decides the error.  The key `Rdata` makes the
payload raw, whatever the type says; other keys that do not belong to the type are ignored.
-/

namespace DnsView

inductive Fault where
  | noMapping
  | noText (typeName : String)
  /-- Not an unsigned integer of so many bits but the value that is described. -/
  | noUnsigned (bits : Nat) (described : String)
  | noIpv4 (text : String)
  | noIpv6 (text : String)
  | noTexts
  | noTextEntry (typeName : String)
  | noHex (error : Text.HexError)
deriving DecidableEq, Repr

def Fault.message : Fault → String
  | .noMapping => "expected a mapping"
  | .noText typeName => "expected a string, got " ++ typeName
  | .noUnsigned bits described =>
      "expected an unsigned " ++ String.ofList (Text.decimal bits) ++ "-bit integer, got " ++
        described
  | .noIpv4 text => "not an IPv4 address: " ++ text
  | .noIpv6 text => "not an IPv6 address: " ++ text
  | .noTexts => "expected a list of strings"
  | .noTextEntry typeName => typeName ++ " entry"
  | .noHex error => error.message

inductive CodecError where
  | missingField (name : String)
  | invalidField (name : String) (fault : Fault)
  | typeMismatch (code : UInt16) (kind : String)
deriving DecidableEq, Repr

def CodecError.message : CodecError → String
  | .missingField name => "missing field: " ++ name
  | .invalidField name fault => "invalid value for field " ++ name ++ ": " ++ fault.message
  | .typeMismatch code kind =>
      "record type " ++ String.ofList (Text.decimal code.toNat) ++ " cannot carry " ++ kind ++
        " data"

/-! ## From records to mappings -/

namespace Payload

def toFields : Payload → List (String × Value)
  | a address => [("A", .text address.text)]
  | aaaa address => [("AAAA", .text address.text)]
  | cname target => [("Target", .text target)]
  | ns host => [("Ns", .text host)]
  | ptr target => [("Ptr", .text target)]
  | mx preference exchange => [("Preference", .ofUInt16 preference), ("Mx", .text exchange)]
  | soa data =>
      [("Ns", .text data.mname), ("Mbox", .text data.rname), ("Serial", .ofUInt32 data.serial),
        ("Refresh", .ofUInt32 data.refresh), ("Retry", .ofUInt32 data.retry),
        ("Expire", .ofUInt32 data.expire), ("Minttl", .ofUInt32 data.minimum)]
  | srv data =>
      [("Priority", .ofUInt16 data.priority), ("Weight", .ofUInt16 data.weight),
        ("Port", .ofUInt16 data.port), ("Target", .text data.target)]
  | txt parts => [("Txt", .list (parts.map .text))]
  | raw bytes => [("Rdata", .text (Text.encodeHex bytes))]

/-- Whether a payload may stand under a type. -/
def Fits (p : Payload) (t : RecordType) : Prop :=
  p.recordType? = none ∨ p.recordType? = some t

instance (p : Payload) (t : RecordType) : Decidable (p.Fits t) :=
  inferInstanceAs (Decidable (_ ∨ _))

end Payload

namespace Record

def headerFields (r : Record) : Mapping := .ofList
  [("Name", .text r.name.text), ("Rrtype", .ofUInt16 r.rtype.code),
    ("Class", .ofUInt16 r.rclass.code), ("Ttl", .ofUInt32 r.ttl)]

def toMapping (r : Record) : Except CodecError Mapping :=
  if r.payload.Fits r.rtype then
    return .ofList (("Header", .mapping r.headerFields) :: r.payload.toFields)
  else throw (.typeMismatch r.rtype.code r.payload.kind)

end Record

/-! ## From mappings to records -/

namespace Fields

def require (fields : Mapping) (key : String) : Except CodecError Value :=
  match fields.get? key with
  | some v => return v
  | none => throw (.missingField key)

def requireMapping (fields : Mapping) (key : String) : Except CodecError Mapping := do
  let v ← fields.require key
  match v.mapping? with
  | some m => return m
  | none => throw (.invalidField key .noMapping)

def requireText (fields : Mapping) (key : String) : Except CodecError String := do
  let v ← fields.require key
  match v.text? with
  | some s => return s
  | none => throw (.invalidField key (.noText v.typeName))

def requireUInt16 (fields : Mapping) (key : String) : Except CodecError UInt16 := do
  let v ← fields.require key
  match v.uint16? with
  | some n => return n
  | none => throw (.invalidField key (.noUnsigned 16 v.described))

def requireUInt32 (fields : Mapping) (key : String) : Except CodecError UInt32 := do
  let v ← fields.require key
  match v.uint32? with
  | some n => return n
  | none => throw (.invalidField key (.noUnsigned 32 v.described))

def textEntries (key : String) : List Value → Except CodecError (List String)
  | [] => return []
  | v :: vs =>
      match v.text? with
      | some s => do
          let rest ← textEntries key vs
          return s :: rest
      | none => throw (.invalidField key (.noTextEntry v.typeName))

def requireTexts (fields : Mapping) (key : String) : Except CodecError (List String) := do
  let v ← fields.require key
  match v.list? with
  | some items => textEntries key items
  | none => throw (.invalidField key .noTexts)

end Fields

namespace Payload

def ofTypedFields (t : RecordType) (fields : Mapping) : Except CodecError Payload :=
  match t with
  | .a => do
      let s ← fields.requireText "A"
      match Ipv4.ofString? s with
      | some address => return .a address
      | none => throw (.invalidField "A" (.noIpv4 s))
  | .aaaa => do
      let s ← fields.requireText "AAAA"
      match Ipv6.ofString? s with
      | some address => return .aaaa address
      | none => throw (.invalidField "AAAA" (.noIpv6 s))
  | .cname => .cname <$> fields.requireText "Target"
  | .ns => .ns <$> fields.requireText "Ns"
  | .ptr => .ptr <$> fields.requireText "Ptr"
  | .mx => do
      let preference ← fields.requireUInt16 "Preference"
      let exchange ← fields.requireText "Mx"
      return .mx preference exchange
  | .soa => do
      let mname ← fields.requireText "Ns"
      let rname ← fields.requireText "Mbox"
      let serial ← fields.requireUInt32 "Serial"
      let refresh ← fields.requireUInt32 "Refresh"
      let retry ← fields.requireUInt32 "Retry"
      let expire ← fields.requireUInt32 "Expire"
      let minimum ← fields.requireUInt32 "Minttl"
      return .soa { mname, rname, serial, refresh, retry, expire, minimum }
  | .srv => do
      let priority ← fields.requireUInt16 "Priority"
      let weight ← fields.requireUInt16 "Weight"
      let port ← fields.requireUInt16 "Port"
      let target ← fields.requireText "Target"
      return .srv { priority, weight, port, target }
  | .txt => .txt <$> fields.requireTexts "Txt"
  | _ => throw (.missingField "Rdata")

def ofFields (t : RecordType) (fields : Mapping) : Except CodecError Payload :=
  match fields.get? "Rdata" with
  | none => ofTypedFields t fields
  | some _ => do
      let s ← fields.requireText "Rdata"
      match Text.decodeHex s with
      | .ok bytes => return .raw bytes
      | .error e => throw (.invalidField "Rdata" (.noHex e))

end Payload

namespace Record

def ofMapping (fields : Mapping) : Except CodecError Record := do
  let header ← fields.requireMapping "Header"
  let name ← header.requireText "Name"
  let type ← header.requireUInt16 "Rrtype"
  let cls ← header.requireUInt16 "Class"
  let ttl ← header.requireUInt32 "Ttl"
  let rtype := RecordType.ofCode type
  let payload ← Payload.ofFields rtype fields
  return { name := .ofString name, rtype, rclass := .ofCode cls, ttl, payload }

end Record

end DnsView
