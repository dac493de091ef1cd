import DnsView.Proofs.Number.Integers
import DnsView.Proofs.View.RecordAccounts

/-!
# Numbers that scripts return as doubles

A script may hand an integer back as the nearest double.  For the words of a message this makes no
difference: an integer of at most fifty-three bits is the same number as its double, and a larger
one is out of range in either form, even where it is rounded.  So a view with doubles in place of
integers is rebuilt to the same message, and leaves out the same records for the same causes.
-/

namespace DnsView

mutual

/-- Some of the integers in a value are replaced by the doubles nearest to them. -/
inductive Value.Loosened : Value → Value → Prop where
  | same (v : Value) : Value.Loosened v v
  | double (n : Int64) : Value.Loosened (.integer n) (.float (.ofInt n.toInt))
  | list {items items' : List Value} (h : List.Forall₂ Value.Loosened items items') :
      Value.Loosened (.list items) (.list items')
  | mapping {fields fields' : Mapping} (h : Fields.Loosened fields fields') :
      Value.Loosened (.mapping fields) (.mapping fields')

inductive Fields.Loosened : {lo : Option String} → Fields lo → Fields lo → Prop where
  | nil {lo : Option String} : Fields.Loosened (.nil : Fields lo) .nil
  | cons {lo : Option String} {key : String} {v v' : Value} {rest rest' : Fields (some key)}
      {above : Above lo key} (hvalue : Value.Loosened v v') (hrest : Fields.Loosened rest rest') :
      Fields.Loosened (.cons key v rest above) (.cons key v' rest' above)

end

/-- Some of the integers in the sections of a view are replaced by doubles. -/
structure View.Loosened (v v' : View) : Prop where
  answers : List.Forall₂ Fields.Loosened v.answers v'.answers
  client : v.client = v'.client
  compress : v.compress = v'.compress
  extras : List.Forall₂ Fields.Loosened v.extras v'.extras
  header : v.header = v'.header
  nameservers : List.Forall₂ Fields.Loosened v.nameservers v'.nameservers
  questions : List.Forall₂ Fields.Loosened v.questions v'.questions

/-- The errors are of one kind and name the same key.  What is wrong with its value may differ. -/
inductive CodecError.SameCause : CodecError → CodecError → Prop where
  | missingField (name : String) : SameCause (.missingField name) (.missingField name)
  | invalidField (name : String) (fault fault' : Fault) :
      SameCause (.invalidField name fault) (.invalidField name fault')
  | typeMismatch (code : UInt16) (kind : String) :
      SameCause (.typeMismatch code kind) (.typeMismatch code kind)

structure Failure.SameCause (f f' : Failure) : Prop where
  part : f.part = f'.part
  index : f.index = f'.index
  error : f.error.SameCause f'.error

/-!
## Words
-/

namespace Value

theorem integer?_double_bind {α : Type} {size : Nat} (hsize : size ≤ 2 * Number.fractions)
    (word : Int → α) (n : Int64) :
    ((float (.ofInt n.toInt)).integer?.bind fun i =>
        if 0 ≤ i ∧ i < size then some (word i) else none) =
      (integer n).integer?.bind fun i => if 0 ≤ i ∧ i < size then some (word i) else none := by
  by_cases hsmall : n.toInt.natAbs < 2 * Number.fractions
  · simp only [integer?, Binary64.toInt64?_ofInt hsmall, Option.map_some]
  · have hlarge : 2 * Number.fractions ≤ n.toInt.natAbs := Nat.le_of_not_lt hsmall
    have hinteger : ¬(0 ≤ n.toInt ∧ n.toInt < size) := by omega
    simp only [integer?, Option.bind_some, if_neg hinteger]
    cases hdouble : (Binary64.ofInt n.toInt).toInt64? with
    | none =>
        rfl
    | some k =>
        have hk : ¬(0 ≤ k.toInt ∧ k.toInt < size) := by
          have hout := Binary64.large_of_toInt64?_ofInt hlarge hdouble
          omega
        rw [Option.map_some, Option.bind_some, if_neg hk]

theorem uint16?_double (n : Int64) :
    (float (.ofInt n.toInt)).uint16? = (integer n).uint16? :=
  integer?_double_bind (by decide) _ n

theorem uint32?_double (n : Int64) :
    (float (.ofInt n.toInt)).uint32? = (integer n).uint32? :=
  integer?_double_bind (by decide) _ n

namespace Loosened

variable {v v' : Value}

theorem text? (h : Loosened v v') : v.text? = v'.text? := by
  cases h <;> rfl

theorem uint16? (h : Loosened v v') : v.uint16? = v'.uint16? := by
  cases h with
  | same =>
      rfl
  | double n =>
      exact (uint16?_double n).symm
  | list =>
      rfl
  | mapping =>
      rfl

theorem uint32? (h : Loosened v v') : v.uint32? = v'.uint32? := by
  cases h with
  | same =>
      rfl
  | double n =>
      exact (uint32?_double n).symm
  | list =>
      rfl
  | mapping =>
      rfl

end Loosened

end Value

namespace Fields.Loosened

theorem refl {lo : Option String} (fields : Fields lo) : Loosened fields fields := by
  cases fields with
  | nil =>
      exact nil
  | cons k v rest above =>
      exact cons (.same v) (refl rest)

theorem get? {lo : Option String} {fields fields' : Fields lo} (h : Loosened fields fields')
    (key : String) : Option.Rel Value.Loosened (fields.get? key) (fields'.get? key) := by
  cases h with
  | nil =>
      exact .none
  | @cons _ k v v' rest rest' above hvalue hrest =>
      rw [Fields.get?, Fields.get?]
      split
      · exact .some hvalue
      · exact get? hrest key

theorem place {lo : Option String} {fields fields' : Fields lo} (h : Loosened fields fields')
    (key : String) {v v' : Value} (hvalue : Value.Loosened v v') (above : Above lo key) :
    Loosened (fields.place key v above) (fields'.place key v' above) := by
  cases h with
  | nil =>
      exact cons hvalue nil
  | cons hfirst hrest =>
      rw [Fields.place, Fields.place]
      split
      · exact cons hvalue (cons hfirst hrest)
      · split
        · exact cons hvalue hrest
        · exact cons hfirst (place hrest key hvalue _)

theorem ofList {l l' : List (String × Value)}
    (h : List.Forall₂ (fun f f' => f.1 = f'.1 ∧ Value.Loosened f.2 f'.2) l l') :
    Loosened (Fields.ofList l) (Fields.ofList l') := by
  have hfold : ∀ fields fields' : Mapping, Loosened fields fields' →
      Loosened (l.foldl (fun fields field => fields.insert field.1 field.2) fields)
        (l'.foldl (fun fields field => fields.insert field.1 field.2) fields') := by
    induction h with
    | nil =>
        exact fun _ _ hfields => hfields
    | @cons f f' _ _ hfirst _ ih =>
        intro fields fields' hfields
        apply ih
        dsimp only
        rw [← hfirst.left]
        exact hfields.place f.1 hfirst.right trivial
  exact hfold .nil .nil nil

end Fields.Loosened

namespace Value.Loosened

variable {v v' : Value}

theorem mapping? (h : Loosened v v') :
    Option.Rel Fields.Loosened v.mapping? v'.mapping? := by
  cases h with
  | same =>
      cases v with
      | mapping fields =>
          exact .some (Fields.Loosened.refl fields)
      | _ =>
          exact .none
  | double =>
      exact .none
  | list =>
      exact .none
  | mapping hfields =>
      exact .some hfields

theorem list? (h : Loosened v v') :
    Option.Rel (List.Forall₂ Loosened) v.list? v'.list? := by
  cases h with
  | same =>
      cases v with
      | list items =>
          exact .some (List.forall₂_same.mpr fun item _ => .same item)
      | _ =>
          exact .none
  | double =>
      exact .none
  | list hitems =>
      exact .some hitems
  | mapping =>
      exact .none

end Value.Loosened

/-!
## Results
-/

inductive CodecError.Agree {α : Type} (R : α → α → Prop) :
    Except CodecError α → Except CodecError α → Prop where
  | ok {a a' : α} (h : R a a') : Agree R (.ok a) (.ok a')
  | error {e e' : CodecError} (h : e.SameCause e') : Agree R (.error e) (.error e')

namespace CodecError

theorem SameCause.refl : ∀ e : CodecError, SameCause e e
  | .missingField name => .missingField name
  | .invalidField name fault => .invalidField name fault fault
  | .typeMismatch code kind => .typeMismatch code kind

variable {α β : Type} {R : α → α → Prop} {S : β → β → Prop} {r r' : Except CodecError α}

theorem Agree.refl (r : Except CodecError α) : Agree Eq r r := by
  cases r with
  | error e =>
      exact .error (SameCause.refl e)
  | ok a =>
      exact .ok rfl

theorem Agree.bind (h : Agree R r r') {f f' : α → Except CodecError β}
    (hf : ∀ a a', R a a' → Agree S (f a) (f' a')) : Agree S (r >>= f) (r' >>= f') := by
  cases h with
  | ok hrelated =>
      exact hf _ _ hrelated
  | error hcause =>
      exact .error hcause

theorem Agree.bind_eq (h : Agree Eq r r') {f f' : α → Except CodecError β}
    (hf : ∀ a, Agree S (f a) (f' a)) : Agree S (r >>= f) (r' >>= f') := by
  apply h.bind
  rintro a _ rfl
  exact hf a

theorem Agree.map (h : Agree Eq r r') (f : α → β) : Agree Eq (f <$> r) (f <$> r') := by
  cases h with
  | ok hsame =>
      exact .ok (congrArg f hsame)
  | error hcause =>
      exact .error hcause

end CodecError

open CodecError (Agree)

/-!
## Required keys
-/

namespace Fields.Loosened

variable {fields fields' : Mapping} (h : Loosened fields fields') (key : String)

include h

theorem require : Agree Value.Loosened (fields.require key) (fields'.require key) := by
  unfold Fields.require
  match fields.get? key, fields'.get? key, h.get? key with
  | none, none, .none =>
      exact .error (.missingField key)
  | some _, some _, .some hvalue =>
      exact .ok hvalue

theorem requireMapping : Agree Loosened (fields.requireMapping key)
    (fields'.requireMapping key) := by
  apply (h.require key).bind
  intro v v' hvalue
  match v.mapping?, v'.mapping?, hvalue.mapping? with
  | none, none, .none =>
      exact .error (.invalidField key _ _)
  | some _, some _, .some hfields =>
      exact .ok hfields

theorem requireText : Agree Eq (fields.requireText key) (fields'.requireText key) := by
  apply (h.require key).bind
  intro v v' hvalue
  rw [← hvalue.text?]
  cases v.text? with
  | none =>
      exact .error (.invalidField key _ _)
  | some s =>
      exact .ok rfl

theorem requireUInt16 : Agree Eq (fields.requireUInt16 key) (fields'.requireUInt16 key) := by
  apply (h.require key).bind
  intro v v' hvalue
  rw [← hvalue.uint16?]
  cases v.uint16? with
  | none =>
      exact .error (.invalidField key _ _)
  | some n =>
      exact .ok rfl

theorem requireUInt32 : Agree Eq (fields.requireUInt32 key) (fields'.requireUInt32 key) := by
  apply (h.require key).bind
  intro v v' hvalue
  rw [← hvalue.uint32?]
  cases v.uint32? with
  | none =>
      exact .error (.invalidField key _ _)
  | some n =>
      exact .ok rfl

omit h in
theorem textEntries {items items' : List Value}
    (hitems : List.Forall₂ Value.Loosened items items') :
    Agree Eq (Fields.textEntries key items) (Fields.textEntries key items') := by
  induction hitems with
  | nil =>
      exact .ok rfl
  | @cons v v' _ _ hvalue _ ih =>
      rw [Fields.textEntries, Fields.textEntries, ← hvalue.text?]
      cases v.text? with
      | none =>
          exact .error (.invalidField key _ _)
      | some s =>
          exact ih.bind_eq fun _ => .ok rfl

theorem requireTexts : Agree Eq (fields.requireTexts key) (fields'.requireTexts key) := by
  apply (h.require key).bind
  intro v v' hvalue
  match v.list?, v'.list?, hvalue.list? with
  | none, none, .none =>
      exact .error (.invalidField key _ _)
  | some _, some _, .some hitems =>
      exact textEntries key hitems

/-!
## Keys with a default
-/

theorem textD : fields.textD key = fields'.textD key := by
  unfold Fields.textD
  match fields.get? key, fields'.get? key, h.get? key with
  | none, none, .none =>
      rfl
  | some _, some _, .some hvalue =>
      rw [Option.bind_some, Option.bind_some, hvalue.text?]

theorem uint16D : fields.uint16D key = fields'.uint16D key := by
  unfold Fields.uint16D
  match fields.get? key, fields'.get? key, h.get? key with
  | none, none, .none =>
      rfl
  | some _, some _, .some hvalue =>
      rw [Option.bind_some, Option.bind_some, hvalue.uint16?]

end Fields.Loosened

/-!
## Questions and records
-/

variable {fields fields' : Mapping} (h : Fields.Loosened fields fields')

include h

theorem Question.ofMapping_of_loosened : ofMapping fields = ofMapping fields' := by
  rw [ofMapping, ofMapping, h.textD, h.uint16D, h.uint16D]

theorem Payload.ofTypedFields_of_loosened (t : RecordType) :
    Agree Eq (ofTypedFields t fields) (ofTypedFields t fields') := by
  cases t with
  | a =>
      exact (h.requireText "A").bind_eq fun _ => Agree.refl _
  | aaaa =>
      exact (h.requireText "AAAA").bind_eq fun _ => Agree.refl _
  | cname =>
      exact (h.requireText "Target").map _
  | ns =>
      exact (h.requireText "Ns").map _
  | ptr =>
      exact (h.requireText "Ptr").map _
  | mx =>
      exact (h.requireUInt16 "Preference").bind_eq fun _ =>
        (h.requireText "Mx").bind_eq fun _ => Agree.refl _
  | soa =>
      exact (h.requireText "Ns").bind_eq fun _ => (h.requireText "Mbox").bind_eq fun _ =>
        (h.requireUInt32 "Serial").bind_eq fun _ => (h.requireUInt32 "Refresh").bind_eq fun _ =>
        (h.requireUInt32 "Retry").bind_eq fun _ => (h.requireUInt32 "Expire").bind_eq fun _ =>
        (h.requireUInt32 "Minttl").bind_eq fun _ => Agree.refl _
  | srv =>
      exact (h.requireUInt16 "Priority").bind_eq fun _ =>
        (h.requireUInt16 "Weight").bind_eq fun _ => (h.requireUInt16 "Port").bind_eq fun _ =>
        (h.requireText "Target").bind_eq fun _ => Agree.refl _
  | txt =>
      exact (h.requireTexts "Txt").map _
  | _ =>
      exact Agree.refl _

theorem Payload.ofFields_of_loosened (t : RecordType) :
    Agree Eq (ofFields t fields) (ofFields t fields') := by
  unfold ofFields
  match fields.get? "Rdata", fields'.get? "Rdata", h.get? "Rdata" with
  | none, none, .none =>
      exact ofTypedFields_of_loosened h t
  | some _, some _, .some _ =>
      exact (h.requireText "Rdata").bind_eq fun _ => Agree.refl _

theorem Record.ofMapping_of_loosened : Agree Eq (ofMapping fields) (ofMapping fields') := by
  apply (h.requireMapping "Header").bind
  intro header header' hheader
  exact (hheader.requireText "Name").bind_eq fun _ =>
    (hheader.requireUInt16 "Rrtype").bind_eq fun _ =>
    (hheader.requireUInt16 "Class").bind_eq fun _ => (hheader.requireUInt32 "Ttl").bind_eq fun _ =>
    (Payload.ofFields_of_loosened h _).bind_eq fun _ => Agree.refl _

omit h

/-!
## Sections and views

The example is a view with two address records, given with integers and with doubles, the second of
which has a time to live out of range.
-/

theorem convertFrom_of_agree {α β : Type} (part : Section) {convert : α → Except CodecError β}
    {R : α → α → Prop} (hconvert : ∀ a a', R a a' → Agree Eq (convert a) (convert a'))
    {as as' : List α} (has : List.Forall₂ R as as') (index : Nat) :
    (convertFrom part convert index as).results = (convertFrom part convert index as').results ∧
      List.Forall₂ Failure.SameCause (convertFrom part convert index as).failures
        (convertFrom part convert index as').failures := by
  induction has generalizing index with
  | nil =>
      exact ⟨rfl, .nil⟩
  | @cons a a' as as' ha _ ih =>
      rcases ih (index + 1) with ⟨hresults, hfailures⟩
      have hfirst := hconvert a a' ha
      rw [convertFrom, convertFrom]
      generalize convert a = r, convert a' = r' at hfirst
      cases hfirst with
      | ok hsame =>
          exact ⟨congrArg₂ _ hsame hresults, hfailures⟩
      | error hcause =>
          exact ⟨hresults, .cons ⟨rfl, rfl, hcause⟩ hfailures⟩

theorem convertSection_of_loosened (part : Section) {l l' : List Mapping}
    (hl : List.Forall₂ Fields.Loosened l l') :
    (convertSection part Record.ofMapping l).results =
        (convertSection part Record.ofMapping l').results ∧
      List.Forall₂ Failure.SameCause (convertSection part Record.ofMapping l).failures
        (convertSection part Record.ofMapping l').failures :=
  convertFrom_of_agree part (fun _ _ h => Record.ofMapping_of_loosened h) hl 0

/-- Doubles in place of integers change neither the message nor which records are left out. -/
theorem Session.toMessage_of_loosened {s s' : Session} (hview : s.view.Loosened s'.view) :
    s.toMessage.result.1 = s'.toMessage.result.1 ∧
      List.Forall₂ Failure.SameCause s.toMessage.result.2.failures
        s'.toMessage.result.2.failures := by
  rcases convertSection_of_loosened .answer hview.answers with ⟨hanswers, hleftAnswers⟩
  rcases convertSection_of_loosened .additional hview.extras with ⟨hextras, hleftExtras⟩
  rcases convertSection_of_loosened .authority hview.nameservers with ⟨hnames, hleftNames⟩
  have hquestions : s.view.questions.map Question.ofMapping =
      s'.view.questions.map Question.ofMapping := by
    rw [← List.forall₂_eq_eq_eq]
    exact List.rel_map (fun _ _ h => Question.ofMapping_of_loosened h) hview.questions
  constructor
  · show s.view.toMessage.1 = s'.view.toMessage.1
    rw [View.toMessage, View.toMessage, hanswers, hextras, hnames, hquestions, hview.header,
      hview.compress]
  · exact List.rel_append (List.rel_append hleftAnswers hleftExtras) hleftNames

def addressFields (number : Int64 → Value) (ttl : Int64) : Mapping := .ofList
  [("Header", .mapping (.ofList [("Name", .text "a"), ("Rrtype", number 1), ("Class", number 1),
    ("Ttl", number ttl)])), ("A", .text "1.2.3.4")]

def addressView (number : Int64 → Value) : View :=
  { (default : View) with
    answers := [addressFields number 300, addressFields number Int64.maxValue] }

theorem Session.toMessage_of_loosened_addresses :
    let s := ofView (addressView .integer)
    let s' := ofView (addressView fun n => .float (.ofInt n.toInt))
    s.toMessage.result.1 = s'.toMessage.result.1 ∧
      List.Forall₂ Failure.SameCause s.toMessage.result.2.failures
        s'.toMessage.result.2.failures ∧
      s.toMessage.result.2.failures =
        [⟨.answer, 1, .invalidField "Ttl" (.noUnsigned 32 "Int(9223372036854775807)")⟩] ∧
      s'.toMessage.result.2.failures =
        [⟨.answer, 1, .invalidField "Ttl" (.noUnsigned 32 "Float(9.223372036854776e18)")⟩] := by
  have hfields (ttl : Int64) : Fields.Loosened (addressFields .integer ttl)
      (addressFields (fun n => .float (.ofInt n.toInt)) ttl) :=
    .ofList (.cons ⟨rfl, .mapping (.ofList (.cons ⟨rfl, .same _⟩ (.cons ⟨rfl, .double 1⟩
      (.cons ⟨rfl, .double 1⟩ (.cons ⟨rfl, .double ttl⟩ .nil)))))⟩ (.cons ⟨rfl, .same _⟩ .nil))
  have hview : (addressView .integer).Loosened
      (addressView fun n => .float (.ofInt n.toInt)) :=
    ⟨.cons (hfields _) (.cons (hfields _) .nil), rfl, rfl, .nil, rfl, .nil, .nil⟩
  rcases @toMessage_of_loosened (ofView _) (ofView _) hview with ⟨hmessage, hleft⟩
  refine ⟨hmessage, hleft, ?_, ?_⟩
  · decide +kernel
  · decide +kernel

end DnsView
