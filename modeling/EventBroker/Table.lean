/-
Finite tables, in the order in which their keys were first entered.

A table holds each key once. `find?` is its view: `find?_insert` and `find?_erase` say what the operations do to it.
-/

namespace EventBroker

/-- entries with distinct keys -/
structure Table (κ : Type) (α : Type) where
  entries : List (κ × α)
  nodup : (entries.map Prod.fst).Nodup
  deriving DecidableEq

namespace Table

variable {κ α : Type} [DecidableEq κ]

instance : Inhabited (Table κ α) := ⟨⟨[], List.nodup_nil⟩⟩

def empty : Table κ α := ⟨[], List.nodup_nil⟩

def keys (t : Table κ α) : List κ := t.entries.map Prod.fst

def values (t : Table κ α) : List α := t.entries.map Prod.snd

def size (t : Table κ α) : Nat := t.entries.length

/-- look a key up in a list of entries -/
def lookup (k : κ) : List (κ × α) → Option α
  | [] => none
  | e :: es => if e.1 = k then some e.2 else lookup k es

def find? (t : Table κ α) (k : κ) : Option α := lookup k t.entries

def contains (t : Table κ α) (k : κ) : Bool := (t.find? k).isSome

/-- replace the entry of a key, or enter the key at the end -/
def put (k : κ) (v : α) : List (κ × α) → List (κ × α)
  | [] => [(k, v)]
  | e :: es => if e.1 = k then (k, v) :: es else e :: put k v es

theorem map_fst_put (k : κ) (v : α) (es : List (κ × α)) :
    (put k v es).map Prod.fst = if k ∈ es.map Prod.fst then es.map Prod.fst else es.map Prod.fst ++ [k] := by
  induction es with
  | nil => simp [put]
  | cons e es ih =>
    by_cases h : e.1 = k
    · simp [put, h]
    · have h' : ¬ k = e.1 := fun e => h e.symm
      by_cases hm : k ∈ es.map Prod.fst <;> simp_all [put]

def insert (t : Table κ α) (k : κ) (v : α) : Table κ α :=
  ⟨put k v t.entries, by
    rw [map_fst_put]
    split
    · exact t.nodup
    · rename_i h
      rw [List.nodup_append]
      exact ⟨t.nodup, by simp, fun a ha b hb => by simp at hb; subst hb; exact fun e => h (e ▸ ha)⟩⟩

def erase (t : Table κ α) (k : κ) : Table κ α :=
  ⟨t.entries.filter fun e => e.1 ≠ k, t.nodup.sublist (List.filter_sublist.map Prod.fst)⟩

/-- keep the entries that pass a test -/
def filter (t : Table κ α) (p : κ → α → Bool) : Table κ α :=
  ⟨t.entries.filter fun e => p e.1 e.2, t.nodup.sublist (List.filter_sublist.map Prod.fst)⟩

@[simp] theorem find?_empty (k : κ) : (empty : Table κ α).find? k = none := rfl

theorem lookup_put (k : κ) (v : α) (es : List (κ × α)) (k' : κ) :
    lookup k' (put k v es) = if k' = k then some v else lookup k' es := by
  induction es with
  | nil => simp only [put, lookup, eq_comm]
  | cons e es ih =>
    by_cases h : e.1 = k
    · subst h
      by_cases h' : k' = e.1
      · simp [put, lookup, h']
      · have h'' : ¬ e.1 = k' := fun e => h' e.symm
        simp [put, lookup, h', h'']
    · by_cases h' : e.1 = k'
      · have : ¬ k' = k := fun e' => h (h'.trans e')
        simp [put, lookup, h', this]
      · simp [put, lookup, h, h', ih]

/-- a key that was entered is found with its value, every other key as before -/
theorem find?_insert (t : Table κ α) (k : κ) (v : α) (k' : κ) :
    (t.insert k v).find? k' = if k' = k then some v else t.find? k' :=
  lookup_put k v t.entries k'

theorem lookup_filter_ne (k : κ) (es : List (κ × α)) (k' : κ) :
    lookup k' (es.filter fun e => e.1 ≠ k) = if k' = k then none else lookup k' es := by
  induction es with
  | nil => simp [lookup]
  | cons e es ih =>
    by_cases h : e.1 = k
    · subst h
      by_cases h' : k' = e.1
      · simp_all
      · have h'' : ¬ e.1 = k' := fun e => h' e.symm
        simp_all [lookup]
    · by_cases h' : e.1 = k'
      · have : ¬ k' = k := fun e' => h (h'.trans e')
        simp_all [lookup]
      · simp_all [lookup]

/-- an erased key is not found, every other key as before -/
theorem find?_erase (t : Table κ α) (k k' : κ) :
    (t.erase k).find? k' = if k' = k then none else t.find? k' :=
  lookup_filter_ne k t.entries k'

theorem lookup_eq_some_iff {es : List (κ × α)} (h : (es.map Prod.fst).Nodup) {k : κ} {v : α} :
    lookup k es = some v ↔ (k, v) ∈ es := by
  induction es with
  | nil => simp [lookup]
  | cons e es ih =>
    obtain ⟨k', v'⟩ := e
    rw [List.map_cons, List.nodup_cons] at h
    rw [lookup]
    split
    · rename_i hk
      subst hk
      have hnot : (k', v) ∉ es := fun hm => h.1 (List.mem_map.2 ⟨_, hm, rfl⟩)
      simp [hnot, eq_comm]
    · rename_i hk
      have hne : ¬ k = k' := fun e => hk e.symm
      simp [ih h.2, hne]

/-- what is found is what is entered -/
theorem find?_eq_some_iff {t : Table κ α} {k : κ} {v : α} : t.find? k = some v ↔ (k, v) ∈ t.entries :=
  lookup_eq_some_iff t.nodup

theorem mem_values_iff {t : Table κ α} {v : α} : v ∈ t.values ↔ ∃ k, t.find? k = some v := by
  simp only [values, List.mem_map, find?_eq_some_iff]
  exact ⟨fun ⟨e, he, hv⟩ => ⟨e.1, hv ▸ he⟩, fun ⟨k, hk⟩ => ⟨(k, v), hk, rfl⟩⟩

theorem mem_keys_iff {t : Table κ α} {k : κ} : k ∈ t.keys ↔ ∃ v, t.find? k = some v := by
  simp only [keys, List.mem_map, find?_eq_some_iff]
  exact ⟨fun ⟨e, he, hk⟩ => ⟨e.2, hk ▸ he⟩, fun ⟨v, hv⟩ => ⟨(k, v), hv, rfl⟩⟩

theorem keys_insert (t : Table κ α) (k : κ) (v : α) :
    (t.insert k v).keys = if k ∈ t.keys then t.keys else t.keys ++ [k] :=
  map_fst_put k v t.entries

theorem keys_erase (t : Table κ α) (k : κ) : (t.erase k).keys = t.keys.filter fun k' => k' ≠ k := by
  simp only [keys, erase, List.filter_map]
  rfl

/-- a table with these entries, entered one after the other -/
def ofList (es : List (κ × α)) : Table κ α :=
  es.foldl (fun t e => t.insert e.1 e.2) empty

end Table

end EventBroker
