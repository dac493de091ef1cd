import DnsView.Proofs.View.Mappings
import DnsView.View.Edit
import Mathlib.Data.List.Basic
import Mathlib.Data.List.InsertIdx

/-!
# The content of views

What a mapping holds is a value, or none, for each key.  In the content of a value each mapping is
this function, at any depth, so nothing is left of how a mapping is built or of what was done to it
before.  An edit of a view edits its content, and the view can be told from its content.
-/

namespace DnsView

/-- A value whose mappings are functions of the keys. -/
inductive Content where
  | null
  | boolean (b : Bool)
  | integer (n : Int64)
  | float (x : Binary64)
  | text (s : String)
  | list (items : List Content)
  | mapping (entries : String → Option Content)

mutual

def Value.content : Value → Content
  | .null => .null
  | .boolean b => .boolean b
  | .integer n => .integer n
  | .float x => .float x
  | .text s => .text s
  | .list items => .list (Value.itemContents items)
  | .mapping fields => .mapping fields.contents

def Value.itemContents : List Value → List Content
  | [] => []
  | v :: vs => v.content :: Value.itemContents vs

def Fields.contents {lo : Option String} : Fields lo → String → Option Content
  | .nil, _ => none
  | .cons k v rest _, key => if k = key then some v.content else rest.contents key

end

theorem Value.itemContents_eq_map (vs : List Value) : itemContents vs = vs.map content := by
  induction vs with
  | nil =>
      rfl
  | cons v vs ih =>
      rw [itemContents, ih, List.map_cons]

namespace Fields

theorem contents_apply {lo : Option String} (key : String) (fields : Fields lo) :
    fields.contents key = (fields.get? key).map Value.content := by
  cases fields with
  | nil =>
      rfl
  | cons k v rest above =>
      rw [contents, get?]
      split
      · rfl
      · exact contents_apply key rest

theorem contents_insert (fields : Mapping) (key : String) (v : Value) :
    (fields.insert key v).contents = Function.update fields.contents key (some v.content) := by
  funext k
  rw [contents_apply, get?_insert, Function.update_apply, contents_apply]
  by_cases hk : key = k
  · rw [if_pos hk, if_pos hk.symm]
    rfl
  · rw [if_neg hk, if_neg fun heq => hk heq.symm]

theorem contents_erase (fields : Mapping) (key : String) :
    (fields.erase key).contents = Function.update fields.contents key none := by
  funext k
  rw [contents_apply, get?_erase, Function.update_apply, contents_apply]
  by_cases hk : key = k
  · rw [if_pos hk, if_pos hk.symm]
    rfl
  · rw [if_neg hk, if_neg fun heq => hk heq.symm]

end Fields

/-!
## Values told by their content
-/

def Value.Told (v : Value) : Prop :=
  ∀ w : Value, v.content = w.content → v = w

theorem Fields.eq_of_contents {fields fields' : Mapping} (htold : fields.All Value.Told)
    (h : fields.contents = fields'.contents) : fields = fields' := by
  apply ext_get?
  intro key
  have hkey := congrFun h key
  rw [contents_apply, contents_apply] at hkey
  cases hget : fields.get? key with
  | none =>
      rw [hget] at hkey
      exact (Option.map_eq_none_iff.mp hkey.symm).symm
  | some v =>
      rw [hget] at hkey
      rcases Option.map_eq_some_iff.mp hkey.symm with ⟨w, hget', hw⟩
      rw [hget', htold.of_get? hget w hw.symm]

mutual

theorem Value.told : ∀ v : Value, v.Told
  | .null, w, h => by
      cases w <;> first | rfl | cases h
  | .boolean b, w, h => by
      cases w <;> cases h
      rfl
  | .integer n, w, h => by
      cases w <;> cases h
      rfl
  | .float x, w, h => by
      cases w <;> cases h
      rfl
  | .text s, w, h => by
      cases w <;> cases h
      rfl
  | .list items, w, h => by
      cases w with
      | list items' =>
          rw [Value.content, Value.content, Content.list.injEq] at h
          rw [Value.told_items items items' h]
      | _ =>
          cases h
  | .mapping fields, w, h => by
      cases w with
      | mapping fields' =>
          rw [Value.content, Value.content, Content.mapping.injEq] at h
          rw [Fields.eq_of_contents (Fields.all_told fields) h]
      | _ =>
          cases h

theorem Value.told_items : ∀ vs ws : List Value,
    Value.itemContents vs = Value.itemContents ws → vs = ws
  | [], [], _ => rfl
  | [], _ :: _, h => by
      cases h
  | _ :: _, [], h => by
      cases h
  | v :: vs, w :: ws, h => by
      rw [Value.itemContents, Value.itemContents, List.cons.injEq] at h
      rw [Value.told v w h.left, Value.told_items vs ws h.right]

theorem Fields.all_told {lo : Option String} : ∀ fields : Fields lo, fields.All Value.Told
  | .nil => trivial
  | .cons _ v rest _ => ⟨Value.told v, Fields.all_told rest⟩

end

theorem Fields.contents_injective : Function.Injective (contents : Mapping → _) :=
  fun fields _ h => eq_of_contents (all_told fields) h

/-!
## Edits of contents

Content is put and removed at a path as a value is.
-/

namespace Content

def mapping? : Content → Option (String → Option Content)
  | mapping entries => some entries
  | _ => none

def put? (new : Content) : List Step → Content → Option Content
  | [], _ => some new
  | [.key k], .mapping entries => some (.mapping (Function.update entries k (some new)))
  | .key k :: path, .mapping entries => do
      let c ← put? new path (← entries k)
      return .mapping (Function.update entries k (some c))
  | [.index i], .list items =>
      if i < items.length then some (.list (items.set i new))
      else if i = items.length then some (.list (items ++ [new]))
      else none
  | .index i :: path, .list items => do
      let c ← put? new path (← items[i]?)
      return .list (items.set i c)
  | _, _ => none

def remove? : List Step → Content → Option Content
  | [.key k], .mapping entries => do
      let _ ← entries k
      return .mapping (Function.update entries k none)
  | .key k :: path, .mapping entries => do
      let c ← remove? path (← entries k)
      return .mapping (Function.update entries k (some c))
  | [.index i], .list items =>
      if i < items.length then some (.list (items.eraseIdx i)) else none
  | .index i :: path, .list items => do
      let c ← remove? path (← items[i]?)
      return .list (items.set i c)
  | _, _ => none

end Content

namespace Value

theorem content_list (items : List Value) : (list items).content = .list (items.map content) := by
  rw [content, itemContents_eq_map]

theorem content_mapping (fields : Mapping) : (mapping fields).content = .mapping fields.contents :=
  rfl

/-!
A path goes on in one part of a value.  What is done there is done to the content of this part.
-/

section Parts

variable {edit : Value → Option Value} {edit' : Content → Option Content}
  (h : ∀ v, (edit v).map content = edit' v.content)

include h

theorem map_content_key (k : String) (fields : Mapping) :
    (do
      let v ← edit (← fields.get? k)
      return mapping (fields.insert k v)).map content =
    (do
      let c ← edit' (← fields.contents k)
      return .mapping (Function.update fields.contents k (some c))) := by
  rw [Fields.contents_apply]
  cases fields.get? k with
  | none =>
      rfl
  | some part =>
      simp only [Option.map_some, Option.bind_eq_bind, Option.bind_some, ← h part]
      cases edit part with
      | none =>
          rfl
      | some part' =>
          exact congrArg (some ∘ Content.mapping) (Fields.contents_insert fields k part')

theorem map_content_index (i : Nat) (items : List Value) :
    (do
      let v ← edit (← items[i]?)
      return list (items.set i v)).map content =
    (do
      let c ← edit' (← (items.map content)[i]?)
      return .list ((items.map content).set i c)) := by
  rw [List.getElem?_map]
  cases items[i]? with
  | none =>
      rfl
  | some part =>
      simp only [Option.map_some, Option.bind_eq_bind, Option.bind_some, ← h part]
      cases edit part with
      | none =>
          rfl
      | some part' =>
          simp only [Option.bind_some, Option.map_some, Option.pure_def, content_list, List.map_set]

end Parts

theorem map_content_put? (new : Value) : ∀ (path : List Step) (v : Value),
    (put? new path v).map content = Content.put? new.content path v.content
  | [], v => by
      rw [put?, Content.put?, Option.map_some]
  | .key k :: path, v => by
      cases v with
      | mapping fields =>
          cases path with
          | nil =>
              rw [put?, content_mapping, Content.put?, Option.map_some, content_mapping,
                Fields.contents_insert]
          | cons step path =>
              exact map_content_key (map_content_put? new (step :: path)) k fields
      | _ =>
          cases path <;> rfl
  | .index i :: path, v => by
      cases v with
      | list items =>
          rw [content_list]
          cases path with
          | nil =>
              simp only [put?, content_list, Content.put?, List.length_map,
                apply_ite (Option.map _), Option.map_some, Option.map_none, List.map_set,
                List.map_append, List.map_cons, List.map_nil]
          | cons step path =>
              exact map_content_index (map_content_put? new (step :: path)) i items
      | _ =>
          cases path <;> rfl

theorem map_content_remove? : ∀ (path : List Step) (v : Value),
    (remove? path v).map content = Content.remove? path v.content
  | [], v => by
      cases v <;> rfl
  | .key k :: path, v => by
      cases v with
      | mapping fields =>
          cases path with
          | nil =>
              simp only [remove?, content_mapping, Content.remove?, Fields.contents_apply]
              cases fields.get? k with
              | none =>
                  rfl
              | some part =>
                  exact congrArg (some ∘ Content.mapping) (Fields.contents_erase fields k)
          | cons step path =>
              exact map_content_key (map_content_remove? (step :: path)) k fields
      | _ =>
          cases path <;> rfl
  | .index i :: path, v => by
      cases v with
      | list items =>
          rw [content_list]
          cases path with
          | nil =>
              simp only [remove?, content_list, Content.remove?, List.length_map,
                apply_ite (Option.map _), Option.map_some, Option.map_none, List.eraseIdx_map]
          | cons step path =>
              exact map_content_index (map_content_remove? (step :: path)) i items
      | _ =>
          cases path <;> rfl

theorem map_contents_mapping? (v : Value) :
    v.mapping?.map Fields.contents = v.content.mapping? := by
  cases v <;> rfl

end Value

/-!
## Views

The content of a view takes every edit as the view does, and an edit that leads nowhere changes
neither.
-/

structure ViewContent where
  lists : ViewList → List (String → Option Content)
  client : Client
  compress : Bool
  header : Header

namespace ViewContent

def set (c : ViewContent) (ms : List (String → Option Content)) (list : ViewList) : ViewContent :=
  { c with lists := Function.update c.lists list ms }

def run? (c : ViewContent) : Edit → Option ViewContent
  | .put list index path value => do
      let m ← (c.lists list)[index]?
      let m ← (← Content.put? value.content path (.mapping m)).mapping?
      return c.set ((c.lists list).set index m) list
  | .remove list index [] =>
      if index < (c.lists list).length then some (c.set ((c.lists list).eraseIdx index) list)
      else none
  | .remove list index path => do
      let m ← (c.lists list)[index]?
      let m ← (← Content.remove? path (.mapping m)).mapping?
      return c.set ((c.lists list).set index m) list
  | .push list value => do
      return c.set (c.lists list ++ [← value.content.mapping?]) list
  | .insert list index value => do
      let ms := c.lists list
      return c.set (ms.take index ++ (← value.content.mapping?) :: ms.drop index) list
  | .swap list i j => do
      return c.set (← exchange? i j (c.lists list)) list
  | .clear list => some (c.set [] list)
  | .header assign => some { c with header := assign c.header }
  | .client assign => some { c with client := assign c.client }
  | .compress b => some { c with compress := b }

def after (c : ViewContent) (edits : List Edit) : ViewContent :=
  edits.foldl (fun c edit => (c.run? edit).getD c) c

end ViewContent

namespace View

def content (v : View) : ViewContent where
  lists list := (v.get list).map Fields.contents
  client := v.client
  compress := v.compress
  header := v.header

/-- The view after edits, of which those that lead nowhere change nothing. -/
def after (v : View) (edits : List Edit) : View :=
  edits.foldl (fun v edit => (edit.run? v).getD v) v

theorem content_set (v : View) (ms : List Mapping) (list : ViewList) :
    (v.set ms list).content = v.content.set (ms.map Fields.contents) list := by
  have hlists : (v.set ms list).content.lists =
      Function.update v.content.lists list (ms.map Fields.contents) := by
    funext l
    cases list <;> cases l <;> rfl
  cases list with
  | _ =>
      rw [ViewContent.set, ← hlists]
      rfl

theorem content_injective : Function.Injective content := by
  intro v w h
  have hlists (list : ViewList) : v.get list = w.get list :=
    Fields.contents_injective.list_map (congrFun (congrArg ViewContent.lists h) list)
  rcases v with ⟨answers, client, compress, extras, header, nameservers, questions⟩
  have hanswers : answers = w.answers := hlists .answers
  have hextras : extras = w.extras := hlists .extras
  have hnameservers : nameservers = w.nameservers := hlists .nameservers
  have hquestions : questions = w.questions := hlists .questions
  have hclient : client = w.client := congrArg ViewContent.client h
  have hcompress : compress = w.compress := congrArg ViewContent.compress h
  have hheader : header = w.header := congrArg ViewContent.header h
  rw [hanswers, hextras, hnameservers, hquestions, hclient, hcompress, hheader]

theorem map_content_mapping {edit : Value → Option Value} {edit' : Content → Option Content}
    (h : ∀ v, (edit v).map Value.content = edit' v.content) (v : View) (list : ViewList)
    (index : Nat) :
    (do
      let m ← (v.get list)[index]?
      let m ← (← edit (.mapping m)).mapping?
      return v.set ((v.get list).set index m) list).map content =
    (do
      let m ← (v.content.lists list)[index]?
      let m ← (← edit' (.mapping m)).mapping?
      return v.content.set ((v.content.lists list).set index m) list) := by
  have hlist : v.content.lists list = (v.get list).map Fields.contents := rfl
  rw [hlist, List.getElem?_map]
  cases (v.get list)[index]? with
  | none =>
      rfl
  | some m =>
      simp only [Option.map_some, Option.bind_eq_bind, Option.bind_some,
        ← Value.content_mapping, ← h]
      cases edit (.mapping m) with
      | none =>
          rfl
      | some edited =>
          simp only [Option.map_some, Option.bind_some, ← Value.map_contents_mapping?]
          cases edited.mapping? with
          | none =>
              rfl
          | some m' =>
              simp only [Option.map_some, Option.bind_some, Option.pure_def, content_set,
                List.map_set]

theorem map_exchange? {α β : Type} (f : α → β) (i j : Nat) (l : List α) :
    (exchange? i j l).map (List.map f) = exchange? i j (l.map f) := by
  rw [exchange?, exchange?, List.getElem?_map, List.getElem?_map]
  cases l[i]? with
  | none =>
      rfl
  | some a =>
      cases l[j]? with
      | none =>
          rfl
      | some b =>
          simp only [Option.map_some, Option.bind_eq_bind, Option.bind_some, Option.pure_def,
            List.map_set]

theorem map_content_run? (v : View) (edit : Edit) :
    (edit.run? v).map content = v.content.run? edit := by
  cases edit with
  | put list index path value =>
      exact map_content_mapping (Value.map_content_put? value path) v list index
  | remove list index path =>
      cases path with
      | nil =>
          have hlist : v.content.lists list = (v.get list).map Fields.contents := rfl
          simp only [Edit.run?, ViewContent.run?, hlist, List.length_map, List.eraseIdx_map,
            apply_ite (Option.map content), Option.map_some, Option.map_none, content_set]
      | cons step path =>
          exact map_content_mapping (Value.map_content_remove? (step :: path)) v list index
  | push list value =>
      simp only [Edit.run?, ViewContent.run?, ← Value.map_contents_mapping?]
      cases value.mapping? with
      | none =>
          rfl
      | some m =>
          simp only [Option.map_some, Option.bind_eq_bind, Option.bind_some, Option.pure_def,
            content_set, List.map_append, List.map_cons, List.map_nil]
          rfl
  | insert list index value =>
      simp only [Edit.run?, ViewContent.run?, ← Value.map_contents_mapping?]
      cases value.mapping? with
      | none =>
          rfl
      | some m =>
          simp only [Option.map_some, Option.bind_eq_bind, Option.bind_some, Option.pure_def,
            content_set, List.map_append, List.map_cons, List.map_take, List.map_drop]
          rfl
  | swap list i j =>
      have hlist : v.content.lists list = (v.get list).map Fields.contents := rfl
      simp only [Edit.run?, ViewContent.run?, hlist, ← map_exchange?]
      cases exchange? i j (v.get list) with
      | none =>
          rfl
      | some ms =>
          exact congrArg some (content_set v ms list)
  | clear list =>
      exact congrArg some (content_set v [] list)
  | header assign =>
      rfl
  | client assign =>
      rfl
  | compress b =>
      rfl

theorem content_after (v : View) (edits : List Edit) :
    (v.after edits).content = v.content.after edits := by
  induction edits generalizing v with
  | nil =>
      rfl
  | cons edit edits ih =>
      have hstep : ((edit.run? v).getD v).content = (v.content.run? edit).getD v.content := by
        rw [← map_content_run?]
        cases edit.run? v <;> rfl
      show (after ((edit.run? v).getD v) edits).content = _
      rw [ih, hstep]
      rfl

end View

end DnsView
