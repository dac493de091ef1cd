import DnsView.AddressBook
import DnsView.Proofs.Attempts
import Mathlib

/-!
# The latest entry of each address

Entries come from a document and from later insertions, and any of them may be for an address that
had one before, in this spelling or in another.  A book answers with the latest one, and its size is
the number of different addresses.  Loading a document tells of every entry whose address stands
before it, and fails at the first text that is no address.
-/

namespace DnsView

/-!
## Elements that come again
-/

section

variable {α : Type} [DecidableEq α]

/-- The elements of a list that stand among those before them, in order. -/
def repeats (as : List α) : List α :=
  (as.zipIdx.filter fun place => place.1 ∈ as.take place.2).map Prod.fst

theorem repeats_concat (as : List α) (a : α) :
    repeats (as ++ [a]) = repeats as ++ if a ∈ as then [a] else [] := by
  have hbefore : (as.zipIdx.filter fun place => place.1 ∈ (as ++ [a]).take place.2) =
      as.zipIdx.filter fun place => place.1 ∈ as.take place.2 := by
    apply List.filter_congr
    intro place hplace
    have hlt : place.2 < as.length := by
      simpa using (List.mem_zipIdx hplace).right.left
    rw [List.take_append_of_le_length (Nat.le_of_lt hlt)]
  rw [repeats, List.zipIdx_append, List.filter_append, hbefore, List.map_append, ← repeats]
  by_cases ha : a ∈ as
  · simp [ha]
  · simp [ha]

theorem mem_of_mem_repeats {as : List α} {a : α} (h : a ∈ repeats as) :
    ∃ before after, as = before ++ a :: after ∧ a ∈ before := by
  rcases List.mem_map.mp h with ⟨⟨b, i⟩, hplace, heq⟩
  rw [List.mem_filter, List.mem_zipIdx_iff_getElem?, decide_eq_true_eq] at hplace
  rcases List.getElem?_eq_some_iff.mp hplace.left with ⟨hi, hget⟩
  dsimp only at heq hi hget hplace
  subst heq hget
  refine ⟨as.take i, as.drop (i + 1), ?_, hplace.right⟩
  rw [List.getElem_cons_drop, List.take_append_drop]

theorem length_repeats (as : List α) : (repeats as).length + as.toFinset.card = as.length := by
  induction as using List.reverseRecOn with
  | nil =>
      rfl
  | append_singleton as a ih =>
      rw [repeats_concat, List.length_append, List.length_append, List.toFinset_append,
        List.length_singleton, List.toFinset_cons, List.toFinset_nil]
      by_cases ha : a ∈ as
      · simp [ha, Finset.union_eq_left.mpr]
        omega
      · simp [ha]
        omega

end

namespace AddressBook

/-!
## Insertions

A book holds what is left of the entries that were made one after another: for each address the
latest one, and each address once.
-/

def insertAll (b : AddressBook) (made : List (IpAddress × Endpoint)) : AddressBook :=
  made.foldl (fun b entry => b.insert entry.1 entry.2) b

/-- The latest of the entries that were made for an address. -/
def latest? (made : List (IpAddress × Endpoint)) (ip : IpAddress) : Option Endpoint :=
  ((made.filter fun entry => entry.1 = ip).map Prod.snd).getLast?

theorem get?_insert (b : AddressBook) (ip other : IpAddress) (e : Endpoint) :
    (b.insert ip e).get? other = if ip = other then some e else b.get? other := by
  by_cases h : ip = other
  · simp [get?, insert, h]
  · have hfind : (b.entries.filter fun entry => entry.1 ≠ ip).find? (fun entry => entry.1 = other) =
        b.entries.find? fun entry => entry.1 = other := by
      rw [List.find?_filter]
      congr 1
      funext entry
      by_cases hentry : entry.1 = other
      · simp [hentry, Ne.symm h]
      · simp [hentry]
    rw [get?, insert, List.find?_cons_of_neg (by simpa using h), hfind, if_neg h, get?]

theorem isSome_get?_iff {b : AddressBook} {ip : IpAddress} :
    (b.get? ip).isSome ↔ ip ∈ b.entries.map Prod.fst := by
  simp [get?]

theorem latest?_concat (made : List (IpAddress × Endpoint)) (ip other : IpAddress) (e : Endpoint) :
    latest? (made ++ [(ip, e)]) other = if ip = other then some e else latest? made other := by
  by_cases h : ip = other
  · simp [latest?, h]
  · simp [latest?, h]

theorem isSome_latest?_iff {made : List (IpAddress × Endpoint)} {ip : IpAddress} :
    (latest? made ip).isSome ↔ ip ∈ made.map Prod.fst := by
  simp [latest?]

structure Holds (b : AddressBook) (made : List (IpAddress × Endpoint)) : Prop where
  nodup : (b.entries.map Prod.fst).Nodup
  get? : ∀ ip, b.get? ip = latest? made ip

namespace Holds

variable {b : AddressBook} {made : List (IpAddress × Endpoint)}

theorem mem_iff (h : b.Holds made) (ip : IpAddress) :
    (b.get? ip).isSome ↔ ip ∈ made.map Prod.fst := by
  rw [h.get?, isSome_latest?_iff]

theorem size_eq (h : b.Holds made) : b.size = (made.map Prod.fst).toFinset.card := by
  have hsame : (b.entries.map Prod.fst).toFinset = (made.map Prod.fst).toFinset := by
    ext ip
    rw [List.mem_toFinset, List.mem_toFinset, ← isSome_get?_iff, h.mem_iff]
  rw [← hsame, List.toFinset_card_of_nodup h.nodup, List.length_map, size]

theorem insert (h : b.Holds made) (ip : IpAddress) (e : Endpoint) :
    (b.insert ip e).Holds (made ++ [(ip, e)]) where
  nodup := by
    have hrest := (List.filter_sublist (l := b.entries) (p := fun entry => entry.1 ≠ ip)).map
      Prod.fst
    rw [AddressBook.insert, List.map_cons, List.nodup_cons]
    refine ⟨?_, h.nodup.sublist hrest⟩
    simp
  get? other := by
    rw [get?_insert, latest?_concat, h.get?]

theorem insertAll (h : b.Holds made) (further : List (IpAddress × Endpoint)) :
    (b.insertAll further).Holds (made ++ further) := by
  induction further generalizing b made with
  | nil =>
      rw [List.append_nil]
      exact h
  | cons entry further ih =>
      rw [List.append_cons]
      exact ih (h.insert entry.1 entry.2)

end Holds

theorem holds_empty : empty.Holds [] where
  nodup := List.nodup_nil
  get? _ := rfl

/-!
## Loading

A document gives its entries in order, and each is made for the address that its text spells.  The
example has an address in two spellings, another one, and a mapped address that is not the one it
maps.
-/

def Entry.made? (e : Entry) : Option (IpAddress × Endpoint) :=
  (IpAddress.ofString? e.ip).map fun ip => (ip, ⟨e.mac, e.nickname⟩)

theorem exists_made? {e : Entry} (h : IpAddress.ofString? e.ip ≠ none) :
    ∃ entry, e.made? = some entry := by
  rcases Option.ne_none_iff_exists'.mp h with ⟨ip, hip⟩
  exact ⟨(ip, ⟨e.mac, e.nickname⟩), by rw [Entry.made?, hip]; rfl⟩

theorem map_made?_eq {es : List Entry} (h : ∀ e ∈ es, IpAddress.ofString? e.ip ≠ none) :
    es.map Entry.made? = (es.filterMap Entry.made?).map some := by
  induction es with
  | nil =>
      rfl
  | cons e es ih =>
      rw [List.forall_mem_cons] at h
      rcases exists_made? h.left with ⟨entry, hentry⟩
      rw [List.filterMap_cons_some hentry, List.map_cons, List.map_cons, ih h.right, hentry]

theorem addAll_cons (b : AddressBook) (e : Entry) (es : List Entry) :
    b.addAll (e :: es) = b.add e >>= fun b => b.addAll es :=
  rfl

theorem addAll_append (b : AddressBook) (es es' : List Entry) :
    b.addAll (es ++ es') = b.addAll es >>= fun b => b.addAll es' := by
  induction es generalizing b with
  | nil =>
      rfl
  | cons e es ih =>
      rw [List.cons_append, addAll_cons, addAll_cons, Attempt.bind_assoc]
      congr 1
      funext b
      exact ih b

theorem addAll_singleton (b : AddressBook) (e : Entry) : b.addAll [e] = b.add e := by
  rw [addAll_cons]
  rcases b.add e with ⟨err | b, events⟩
  · rfl
  · show (⟨_, events ++ []⟩ : Attempt BookError AddressBook) = _
    rw [List.append_nil]
    rfl

theorem add_insertAll (made : List (IpAddress × Endpoint)) {e : Entry} {ip : IpAddress}
    (hip : IpAddress.ofString? e.ip = some ip) :
    (empty.insertAll made).add e =
      ⟨.ok (empty.insertAll (made ++ [(ip, ⟨e.mac, e.nickname⟩)])),
        if ip ∈ made.map Prod.fst then [.endpointReplaced ip] else []⟩ := by
  have hbefore : ((empty.insertAll made).get? ip).isSome ↔ ip ∈ made.map Prod.fst :=
    (holds_empty.insertAll made).mem_iff ip
  have hbook : empty.insertAll (made ++ [(ip, ⟨e.mac, e.nickname⟩)]) =
      (empty.insertAll made).insert ip ⟨e.mac, e.nickname⟩ := by
    rw [insertAll, List.foldl_append]
    rfl
  simp only [add, hip, hbefore, hbook]

theorem addAll_empty {es : List Entry} (h : ∀ e ∈ es, IpAddress.ofString? e.ip ≠ none) :
    empty.addAll es =
      ⟨.ok (empty.insertAll (es.filterMap Entry.made?)),
        (repeats ((es.filterMap Entry.made?).map Prod.fst)).map .endpointReplaced⟩ := by
  -- On the last entry, since an entry is told of if its address stands among those before it.
  induction es using List.reverseRecOn with
  | nil =>
      rfl
  | append_singleton es e ih =>
      rw [List.forall_mem_append, List.forall_mem_singleton] at h
      rcases Option.ne_none_iff_exists'.mp h.right with ⟨ip, hip⟩
      have hmade : e.made? = some (ip, ⟨e.mac, e.nickname⟩) := by
        rw [Entry.made?, hip]
        rfl
      rw [addAll_append, Attempt.bind_of_ok (ih h.left), addAll_singleton, add_insertAll _ hip,
        List.filterMap_append, List.filterMap_cons_some hmade, List.filterMap_nil, List.map_append,
        List.map_singleton, repeats_concat]
      split
      · simp
      · simp

theorem ofEntries_of_addresses {es : List Entry}
    (h : ∀ e ∈ es, IpAddress.ofString? e.ip ≠ none) :
    ofEntries es = ⟨.ok (empty.insertAll (es.filterMap Entry.made?)),
      (repeats ((es.filterMap Entry.made?).map Prod.fst)).map .endpointReplaced ++
        [.bookLoaded (empty.insertAll (es.filterMap Entry.made?)).size]⟩ := by
  rw [ofEntries, Attempt.bind_of_ok (addAll_empty h)]
  rfl

/-- Loading fails at the first text that is no address, and has told of the entries before it. -/
theorem ofEntries_of_no_address {before : List Entry} {e : Entry}
    (hbefore : ∀ d ∈ before, IpAddress.ofString? d.ip ≠ none)
    (he : IpAddress.ofString? e.ip = none) (after : List Entry) :
    ofEntries (before ++ e :: after) = ⟨.error (.noAddress e.ip),
      (repeats ((before.filterMap Entry.made?).map Prod.fst)).map .endpointReplaced⟩ := by
  have hfails : empty.addAll (before ++ e :: after) = ⟨.error (.noAddress e.ip),
      (repeats ((before.filterMap Entry.made?).map Prod.fst)).map .endpointReplaced⟩ := by
    rw [addAll_append, Attempt.bind_of_ok (addAll_empty hbefore), addAll_cons, add, he]
    show (⟨_, _ ++ []⟩ : Attempt BookError AddressBook) = _
    rw [List.append_nil]
    rfl
  rw [ofEntries, Attempt.bind_of_error hfails]

theorem filter_warnings (ips : List IpAddress) (n : Nat) :
    (ips.map Event.endpointReplaced ++ [Event.bookLoaded n]).filter
      (fun event : Event => event.level = .warn) = ips.map .endpointReplaced := by
  have hall : (ips.map Event.endpointReplaced).filter (fun event : Event => event.level = .warn) =
      ips.map .endpointReplaced := by
    apply List.filter_eq_self.mpr
    intro event hevent
    rcases List.mem_map.mp hevent with ⟨ip, _, rfl⟩
    rfl
  rw [List.filter_append, hall]
  exact List.append_nil _

theorem exists_before_of_warning {ips : List IpAddress} {n : Nat} {event : Event}
    (hevent : event ∈ (repeats ips).map Event.endpointReplaced ++ [Event.bookLoaded n])
    (hwarn : event.level = .warn) : ∃ before ip after,
      ips = before ++ ip :: after ∧ ip ∈ before ∧ event = .endpointReplaced ip := by
  have hmem := List.mem_filter (p := fun event : Event => event.level = .warn).mpr
    ⟨hevent, decide_eq_true hwarn⟩
  rw [filter_warnings] at hmem
  rcases List.mem_map.mp hmem with ⟨ip, hip, rfl⟩
  rcases mem_of_mem_repeats hip with ⟨before, after, hsplit, hbefore⟩
  exact ⟨before, ip, after, hsplit, hbefore, rfl⟩

theorem length_warnings {es : List Entry} {made : List (IpAddress × Endpoint)}
    (hmade : es.map Entry.made? = made.map some) :
    ((repeats (made.map Prod.fst)).map Event.endpointReplaced).length =
      es.length - (made.map Prod.fst).toFinset.card := by
  have hcount := length_repeats (made.map Prod.fst)
  have hlength := congrArg List.length hmade
  rw [List.length_map, List.length_map] at hlength
  rw [List.length_map] at hcount ⊢
  omega

/-- After all entries of a document and further insertions the latest entry counts. -/
theorem lookup_insertAll (made further : List (IpAddress × Endpoint)) :
    (∀ s, ((empty.insertAll made).insertAll further).lookup s =
      (IpAddress.ofString? s).bind (latest? (made ++ further))) ∧
      ((empty.insertAll made).insertAll further).size =
        ((made ++ further).map Prod.fst).toFinset.card := by
  have hholds := (holds_empty.insertAll made).insertAll further
  rw [List.nil_append] at hholds
  refine ⟨?_, hholds.size_eq⟩
  intro s
  rw [lookup]
  exact congrArg (Option.bind (IpAddress.ofString? s)) (funext hholds.get?)

/--
Of the entries of a document the first one whose text is no address makes loading fail, and nothing
else does once the document is read.  Otherwise every entry is made, and after any further
insertions a text finds the latest entry for the address that it spells; there are as many entries
as different addresses, and each entry of the document that was for an address again has been told
of.
-/
theorem latest_entry_counts {text : String} {es : List Entry}
    (htext : (Toml.Table.ofString? text).bind entriesOf? = some es) :
    ((∃ err, ofToml text = .error err) ↔ ∃ e ∈ es, IpAddress.ofString? e.ip = none) ∧
      (∀ err, ofToml text = .error err → ∃ before e after, es = before ++ e :: after ∧
        (∀ d ∈ before, IpAddress.ofString? d.ip ≠ none) ∧ IpAddress.ofString? e.ip = none ∧
        err = .noAddress e.ip) ∧
      ∀ loaded, ofToml text = .ok loaded → ∃ made, es.map Entry.made? = made.map some ∧
        (loaded.events.filter fun event => event.level = .warn) =
          (repeats (made.map Prod.fst)).map .endpointReplaced ∧
        (loaded.events.filter fun event => event.level = .warn).length =
          es.length - (made.map Prod.fst).toFinset.card ∧
        (∀ event ∈ loaded.events, event.level = .warn → ∃ before ip after,
          made.map Prod.fst = before ++ ip :: after ∧ ip ∈ before ∧ event = .endpointReplaced ip) ∧
        ∀ further : List (IpAddress × Endpoint),
          (∀ s, (loaded.result.insertAll further).lookup s =
            (IpAddress.ofString? s).bind (latest? (made ++ further))) ∧
          (loaded.result.insertAll further).size =
            ((made ++ further).map Prod.fst).toFinset.card := by
  have hload : ofToml text = (ofEntries es).settled := by
    rw [ofToml, ofText, htext]
  rw [hload]
  cases hfirst : es.find? fun e => (IpAddress.ofString? e.ip).isNone with
  | some e =>
      rcases List.find?_eq_some_iff_append.mp hfirst with ⟨hnone, before, after, hes, hbefore⟩
      rw [Option.isNone_iff_eq_none] at hnone
      have haddresses : ∀ d ∈ before, IpAddress.ofString? d.ip ≠ none := by
        intro d hd
        exact Option.isSome_iff_ne_none.mp (by simpa using hbefore d hd)
      rw [hes, ofEntries_of_no_address haddresses hnone]
      refine ⟨?_, ?_, ?_⟩
      · constructor
        · intro _
          exact ⟨e, List.mem_append_right before List.mem_cons_self, hnone⟩
        · intro _
          exact ⟨_, rfl⟩
      · intro err herr
        cases herr
        exact ⟨before, e, after, rfl, haddresses, hnone, rfl⟩
      · intro loaded hloaded
        cases hloaded
  | none =>
      have hall : ∀ e ∈ es, IpAddress.ofString? e.ip ≠ none := by
        simpa using hfirst
      have hmade := map_made?_eq hall
      rw [ofEntries_of_addresses hall]
      refine ⟨?_, ?_, ?_⟩
      · constructor
        · rintro ⟨err, herr⟩
          cases herr
        · rintro ⟨e, he, hnone⟩
          exact absurd hnone (hall e he)
      · intro err herr
        cases herr
      · intro loaded hloaded
        cases hloaded
        rw [filter_warnings]
        refine ⟨_, hmade, rfl, ?_, ?_, ?_⟩
        · exact length_warnings hmade
        · intro event
          exact exists_before_of_warning
        · exact lookup_insertAll _

def spellings : List Entry :=
  [⟨"fe80::1", "aa", ""⟩, ⟨"1.2.3.4", "bb", ""⟩, ⟨"::ffff:1.2.3.4", "cc", ""⟩,
    ⟨"FE80:0:0:0:0:0:0:1", "dd", "laptop"⟩]

def spellingsText : String :=
  "endpoint=[[\"fe80::1\",\"aa\"],[\"1.2.3.4\",\"bb\"],[\"::ffff:1.2.3.4\",\"cc\"]," ++
    "[\"FE80:0:0:0:0:0:0:1\",\"dd\",\"laptop\"]]"

def spellingsMade : List (IpAddress × Endpoint) :=
  [(.v6 ⟨[0xFE80, 0, 0, 0, 0, 0, 0, 1], rfl⟩, ⟨"aa", ""⟩), (.v4 ⟨1, 2, 3, 4⟩, ⟨"bb", ""⟩),
    (.v6 ⟨[0, 0, 0, 0, 0, 0xFFFF, 0x102, 0x304], rfl⟩, ⟨"cc", ""⟩),
    (.v6 ⟨[0xFE80, 0, 0, 0, 0, 0, 0, 1], rfl⟩, ⟨"dd", "laptop"⟩)]

theorem latest_entry_counts_spellings :
    (Toml.Table.ofString? spellingsText).bind entriesOf? = some spellings ∧
      ∃ loaded, ofToml spellingsText = .ok loaded ∧
        (loaded.events.filter fun event => event.level = .warn) =
          [.endpointReplaced (.v6 ⟨[0xFE80, 0, 0, 0, 0, 0, 0, 1], rfl⟩)] ∧
        ∀ further : List (IpAddress × Endpoint),
          (∀ s, (loaded.result.insertAll further).lookup s =
            (IpAddress.ofString? s).bind (latest? (spellingsMade ++ further))) ∧
          (loaded.result.insertAll further).size =
            ((spellingsMade ++ further).map Prod.fst).toFinset.card := by
  have htext : (Toml.Table.ofString? spellingsText).bind entriesOf? = some spellings := by
    cbv
  have hspellings : spellings.map Entry.made? = spellingsMade.map some := by
    decide +kernel
  have hspec := latest_entry_counts htext
  refine ⟨htext, ?_⟩
  cases hloaded : ofToml spellingsText with
  | error err =>
      have hall : ∀ e ∈ spellings, IpAddress.ofString? e.ip ≠ none := by
        decide +kernel
      rcases hspec.left.mp ⟨err, hloaded⟩ with ⟨e, he, hnone⟩
      exact absurd hnone (hall e he)
  | ok loaded =>
      rcases hspec.right.right loaded hloaded with ⟨made, hmade, hwarnings, _, _, hbook⟩
      have hsame : made = spellingsMade :=
        List.map_injective_iff.mpr (Option.some_injective _) (hmade.symm.trans hspellings)
      subst hsame
      exact ⟨loaded, rfl, hwarnings, hbook⟩

end AddressBook

end DnsView
