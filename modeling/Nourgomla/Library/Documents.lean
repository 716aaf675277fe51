import Mathlib.Data.Int.Order.Basic
import Mathlib.Data.List.Sort
import Mathlib.Data.Prod.Lex
import Mathlib.Data.String.Basic
import Mathlib.Tactic.Common

set_option autoImplicit false

/-! # A store of documents

Documents lie in collections, which are named by their path, and have an id that is unique in its collection.
`add` brings a document under an id that is new, `set` under a given one, in the place of the document that has
it. A query asks for a collection in the order of a field.

`Reflects` says what a store that has only seen the writes of a log contains: a collection that is only added to
has what was added, in that order; one that is only set has the last document of each id. -/

namespace Nourgomla

inductive FieldValue
  | null
  | string (s : String)
  | timestamp (seconds : Int) (nanoseconds : Nat)
deriving DecidableEq, Repr

/-- Values are ordered by their type first: null, then timestamps, then strings. -/
def FieldValue.key : FieldValue → ℕ ×ₗ ℤ ×ₗ ℕ ×ₗ String
  | .null => toLex (0, toLex (0, toLex (0, "")))
  | .timestamp seconds nanoseconds => toLex (1, toLex (seconds, toLex (nanoseconds, "")))
  | .string s => toLex (2, toLex (0, toLex (0, s)))

/-- The fields of a document and their values. -/
abbrev Document : Type := List (String × FieldValue)

namespace Document

/-- `data[field]`, null where the document has no such field. -/
def get (data : Document) (field : String) : FieldValue := (data.lookup field).getD .null

def has (data : Document) (field : String) : Bool := (data.lookup field).isSome

end Document

/-- A document where it is stored. -/
structure StoredDocument where
  collection : List String
  id : String
  data : Document
deriving DecidableEq, Repr

abbrev DocumentStore : Type := List StoredDocument

inductive DocumentWrite
  | add (collection : List String) (data : Document)
  | set (collection : List String) (id : String) (data : Document)
deriving DecidableEq, Repr

namespace DocumentWrite

def addedTo (collection : List String) : DocumentWrite → Option Document
  | .add c data => if c = collection then some data else none
  | .set _ _ _ => none

def setIn (collection : List String) (id : String) : DocumentWrite → Option Document
  | .add _ _ => none
  | .set c i data => if c = collection ∧ i = id then some data else none

/-- The collection is not one that documents are set in. -/
def OnlyAdds (collection : List String) : DocumentWrite → Prop
  | .add _ _ => True
  | .set c _ _ => c ≠ collection

/-- The collection is not one that documents are added to. -/
def OnlySets (collection : List String) : DocumentWrite → Prop
  | .add c _ => c ≠ collection
  | .set _ _ _ => True

end DocumentWrite

namespace DocumentStore

def collection (s : DocumentStore) (path : List String) : List StoredDocument :=
  s.filter (·.collection = path)

/-- A write is carried out; `fresh` is the id that a document is added under. -/
def write (s : DocumentStore) (fresh : String) : DocumentWrite → Option DocumentStore
  | .add path data =>
    if ∀ d ∈ s.collection path, d.id ≠ fresh then some (s ++ [⟨path, fresh, data⟩]) else none
  | .set path id data =>
    some (s.filter (fun d => ¬(d.collection = path ∧ d.id = id)) ++ [⟨path, id, data⟩])

/-- Documents are ordered by a field, and by their ids where it is the same. -/
def key (field : String) (d : StoredDocument) : (ℕ ×ₗ ℤ ×ₗ ℕ ×ₗ String) ×ₗ String :=
  toLex ((d.data.get field).key, d.id)

/-- `collection(path).orderBy(field, descending: descending).get()`: documents without the field are left out. -/
def orderBy (s : DocumentStore) (path : List String) (field : String) (descending : Bool) : List Document :=
  let found := (s.collection path).filter (·.data.has field)
  let ordered := found.insertionSort (fun d d' => key field d ≤ key field d')
  (if descending then ordered.reverse else ordered).map (·.data)

/-! ## Queries -/

section Queries

variable {s : DocumentStore} {path : List String} {field : String} {descending : Bool}

theorem perm_orderBy (hfield : ∀ d ∈ s.collection path, d.data.has field = true) :
    (s.orderBy path field descending).Perm ((s.collection path).map (·.data)) := by
  have hfound : (s.collection path).filter (·.data.has field) = s.collection path :=
    List.filter_eq_self.2 hfield
  have hsorted := List.perm_insertionSort (fun d d' => key field d ≤ key field d') (s.collection path)
  simp only [orderBy, hfound]
  cases descending with
  | false => exact hsorted.map _
  | true => exact ((List.reverse_perm _).trans hsorted).map _

instance (field : String) : Std.Total (fun d d' => key field d ≤ key field d') :=
  ⟨fun d d' => le_total (key field d) (key field d')⟩

instance (field : String) : IsTrans StoredDocument (fun d d' => key field d ≤ key field d') :=
  ⟨fun _ _ _ => le_trans⟩

theorem le_of_key_le {d d' : StoredDocument} (h : key field d ≤ key field d') :
    (d.data.get field).key ≤ (d'.data.get field).key :=
  Prod.Lex.monotone_fst _ _ h

theorem pairwise_orderBy_ascending (s : DocumentStore) (path : List String) (field : String) :
    (s.orderBy path field false).Pairwise fun data data' => (data.get field).key ≤ (data'.get field).key := by
  rw [orderBy, List.pairwise_map]
  exact (List.pairwise_insertionSort _ _).imp le_of_key_le

theorem pairwise_orderBy_descending (s : DocumentStore) (path : List String) (field : String) :
    (s.orderBy path field true).Pairwise fun data data' => (data'.get field).key ≤ (data.get field).key := by
  rw [orderBy, List.pairwise_map]
  exact List.pairwise_reverse.2 ((List.pairwise_insertionSort _ _).imp le_of_key_le)

end Queries

/-! ## What the writes leave -/

/-- The store has seen the writes of the log, and no others. -/
structure Reflects (s : DocumentStore) (log : List DocumentWrite) : Prop where
  added : ∀ path, (∀ w ∈ log, w.OnlyAdds path) →
    (s.collection path).map (·.data) = log.filterMap (DocumentWrite.addedTo path)
  last : ∀ path, (∀ w ∈ log, w.OnlySets path) → ∀ id data,
    (⟨path, id, data⟩ : StoredDocument) ∈ s ↔
      (log.filterMap (DocumentWrite.setIn path id)).getLast? = some data
  nodup : ∀ path, ((s.collection path).map (·.id)).Nodup

namespace Reflects

variable {s s' : DocumentStore} {log : List DocumentWrite} {fresh : String} {w : DocumentWrite}

theorem empty : Reflects [] [] where
  added _ _ := rfl
  last _ _ _ _ := by simp
  nodup _ := List.nodup_nil

theorem collection_append (s s' : DocumentStore) (path : List String) :
    DocumentStore.collection (s ++ s') path = s.collection path ++ DocumentStore.collection s' path :=
  List.filter_append s s'

theorem collection_singleton (path c : List String) (id : String) (data : Document) :
    DocumentStore.collection [⟨c, id, data⟩] path = if c = path then [⟨c, id, data⟩] else [] := by
  by_cases h : c = path <;> simp [DocumentStore.collection, h]

theorem write_add {path : List String} {data : Document} (h : s.Reflects log)
    (hwrite : s.write fresh (.add path data) = some s') : s'.Reflects (log ++ [.add path data]) := by
  obtain ⟨hfresh, hs'⟩ := Option.ite_none_right_eq_some.1 hwrite
  obtain rfl : s ++ [⟨path, fresh, data⟩] = s' := Option.some.inj hs'
  refine ⟨fun c honly => ?_, fun c honly id d => ?_, fun c => ?_⟩
  · have hlog := h.added c fun w hw => honly w (List.mem_append_left _ hw)
    rw [collection_append, List.map_append, hlog, List.filterMap_append, collection_singleton]
    by_cases hc : path = c <;> simp [DocumentWrite.addedTo, hc]
  · have hc : path ≠ c := honly (.add path data) (by simp)
    have hlog := h.last c (fun w hw => honly w (List.mem_append_left _ hw)) id d
    simp [hlog, DocumentWrite.setIn, Ne.symm hc]
  · rw [collection_append, collection_singleton, List.map_append]
    by_cases hc : path = c
    · subst hc
      simpa [List.nodup_append, h.nodup path] using hfresh
    · simpa [hc] using h.nodup c

theorem write_set {path : List String} {id : String} {data : Document} (h : s.Reflects log)
    (hwrite : s.write fresh (.set path id data) = some s') :
    s'.Reflects (log ++ [.set path id data]) := by
  obtain rfl : _ = s' := Option.some.inj hwrite
  refine ⟨fun c honly => ?_, fun c honly i d => ?_, fun c => ?_⟩
  · have hc : path ≠ c := honly (.set path id data) (by simp)
    have hlog := h.added c fun w hw => honly w (List.mem_append_left _ hw)
    have hkept : DocumentStore.collection (s.filter fun d => ¬(d.collection = path ∧ d.id = id)) c =
        s.collection c := by
      simp only [DocumentStore.collection, List.filter_filter]
      refine List.filter_congr fun d _ => ?_
      by_cases hd : d.collection = c
      · simp [hd, Ne.symm hc]
      · simp [hd]
    rw [collection_append, hkept, collection_singleton, if_neg hc, List.append_nil, hlog]
    simp [DocumentWrite.addedTo]
  · have hlog := h.last c (fun w hw => honly w (List.mem_append_left _ hw)) i d
    by_cases hset : path = c ∧ id = i
    · obtain ⟨rfl, rfl⟩ := hset
      simp [DocumentWrite.setIn, eq_comm]
    · have hne : (⟨c, i, d⟩ : StoredDocument) ≠ ⟨path, id, data⟩ := by
        intro heq
        cases heq
        exact hset ⟨rfl, rfl⟩
      have hkept : ¬(c = path ∧ i = id) := fun heq => hset ⟨heq.1.symm, heq.2.symm⟩
      simp only [List.mem_append, List.mem_singleton, hne, or_false, List.mem_filter, hkept, not_false_eq_true,
        decide_true, and_true, hlog, List.filterMap_append, DocumentWrite.setIn, List.filterMap_cons,
        List.filterMap_nil, if_neg hset, List.append_nil]
  · have hsub : ((DocumentStore.collection (s.filter fun d => ¬(d.collection = path ∧ d.id = id)) c).map
        (·.id)).Nodup :=
      (h.nodup c).sublist ((List.filter_sublist.filter _).map _)
    rw [collection_append, collection_singleton, List.map_append]
    by_cases hc : path = c
    · subst hc
      rw [if_pos rfl, List.nodup_append]
      refine ⟨hsub, List.nodup_singleton _, ?_⟩
      intro i hi j hj hij
      obtain ⟨d, hd, rfl⟩ := List.mem_map.1 hi
      obtain rfl : j = id := by simpa using hj
      simp only [DocumentStore.collection, List.mem_filter, decide_eq_true_eq] at hd
      exact hd.1.2 ⟨hd.2, hij⟩
    · simpa [hc] using hsub

/-- A write is reflected once it is carried out. -/
theorem write (h : s.Reflects log) (hwrite : s.write fresh w = some s') : s'.Reflects (log ++ [w]) := by
  cases w with
  | add path data => exact h.write_add hwrite
  | set path id data => exact h.write_set hwrite

end Reflects
end DocumentStore
end Nourgomla
