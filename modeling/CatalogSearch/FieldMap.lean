/-!
# Values keyed by field name

A `FieldMap` holds at most one value for each name and lists its entries in the order of the
names' UTF-8 bytes, which is the order of their code points. Writing a name again replaces its
value. The order is part of the type, so two maps with the same entries are equal.

## Main definitions

* `FieldMap.insert`, `FieldMap.erase`, `FieldMap.ofList`, `FieldMap.extend`: building a map.
* `FieldMap.get?`, `FieldMap.toList`: its two views.
* `FieldMap.get?_insert`: what an insertion does to the look-up view.
-/

namespace CatalogSearch

universe u v

variable {α : Type u} {β : Type v}

/-- Entries in strictly increasing order of their names. -/
def SortedByName (l : List (String × α)) : Prop :=
  l.Pairwise fun a b => a.1 < b.1

/-- Put a value under a name into a sorted list of entries, replacing an entry of that name. -/
def insertEntry (k : String) (x : α) : List (String × α) → List (String × α)
  | [] => [(k, x)]
  | (k', x') :: rest =>
    if k < k' then (k, x) :: (k', x') :: rest
    else if k = k' then (k, x) :: rest
    else (k', x') :: insertEntry k x rest

/-- The value under a name in a list of entries. -/
def findEntry (k : String) : List (String × α) → Option α
  | [] => none
  | (k', x) :: rest => if k = k' then some x else findEntry k rest

theorem mem_insertEntry {k : String} {x : α} {a : String × α} {l : List (String × α)} :
    a ∈ insertEntry k x l → a = (k, x) ∨ a ∈ l := by
  induction l with
  | nil => simp [insertEntry]
  | cons hd tl ih =>
    obtain ⟨k', x'⟩ := hd
    unfold insertEntry
    split
    · simp
    · split
      · simp only [List.mem_cons]
        exact fun h => h.imp_right Or.inr
      · simp only [List.mem_cons]
        rintro (h | h)
        · exact Or.inr (Or.inl h)
        · exact (ih h).imp_right Or.inr

theorem sortedByName_insertEntry {k : String} {x : α} {l : List (String × α)}
    (h : SortedByName l) : SortedByName (insertEntry k x l) := by
  induction l with
  | nil => simp [insertEntry, SortedByName]
  | cons hd tl ih =>
    obtain ⟨k', x'⟩ := hd
    unfold SortedByName at h ih ⊢
    rw [List.pairwise_cons] at h
    unfold insertEntry
    split
    · rename_i hlt
      refine List.pairwise_cons.2 ⟨?_, List.pairwise_cons.2 h⟩
      intro b hb
      rcases List.mem_cons.1 hb with rfl | hb
      · exact hlt
      · exact String.lt_trans hlt (h.1 b hb)
    · split
      · rename_i heq
        subst heq
        exact List.pairwise_cons.2 ⟨h.1, h.2⟩
      · rename_i hnlt hne
        refine List.pairwise_cons.2 ⟨?_, ih h.2⟩
        intro b hb
        rcases mem_insertEntry hb with rfl | hb
        · exact Std.lt_of_le_of_ne (String.not_lt.1 hnlt) (Ne.symm hne)
        · exact h.1 b hb

/-- Values keyed by name, in name order. -/
structure FieldMap (α : Type u) where
  /-- The entries, by increasing name. -/
  toList : List (String × α)
  /-- Every name occurs once, and the names increase. -/
  sorted : SortedByName toList
  deriving DecidableEq

namespace FieldMap

/-- The map without entries. -/
def empty : FieldMap α := ⟨[], List.Pairwise.nil⟩

instance : Inhabited (FieldMap α) := ⟨empty⟩

/-- Put a value under a name, replacing the one that is there. -/
def insert (m : FieldMap α) (k : String) (x : α) : FieldMap α :=
  ⟨insertEntry k x m.toList, sortedByName_insertEntry m.sorted⟩

/-- Put entries into a map in order: of two with the same name the later one stays. -/
def extend (m : FieldMap α) (l : List (String × α)) : FieldMap α :=
  l.foldl (fun m e => m.insert e.1 e.2) m

/-- The map of a list of entries, the later of two with the same name staying. -/
def ofList (l : List (String × α)) : FieldMap α :=
  empty.extend l

/-- The value under a name. -/
def get? (m : FieldMap α) (k : String) : Option α :=
  findEntry k m.toList

/-- Whether the map has no entries. -/
def isEmpty (m : FieldMap α) : Bool := m.toList.isEmpty

/-- The entries whose name satisfies a test. -/
def keep (m : FieldMap α) (p : String → Bool) : FieldMap α :=
  ⟨m.toList.filter fun e => p e.1, m.sorted.filter _⟩

/-- The map without the entry of a name. -/
def erase (m : FieldMap α) (k : String) : FieldMap α :=
  m.keep fun k' => k' != k

/-- The map with every value replaced. -/
def mapValues (f : α → β) (m : FieldMap α) : FieldMap β :=
  ⟨m.toList.map fun e => (e.1, f e.2),
    by simpa [SortedByName, List.pairwise_map] using m.sorted⟩

@[ext] theorem ext {m n : FieldMap α} (h : m.toList = n.toList) : m = n := by
  cases m; cases n; cases h; rfl

theorem findEntry_insertEntry (k k' : String) (x : α) (l : List (String × α)) :
    findEntry k' (insertEntry k x l) = if k' = k then some x else findEntry k' l := by
  induction l with
  | nil => rfl
  | cons hd tl ih =>
    obtain ⟨j, y⟩ := hd
    unfold insertEntry
    split
    · rfl
    · split
      · rename_i heq
        subst heq
        by_cases h : k' = k <;> simp [findEntry, h]
      · rename_i hne
        by_cases h : k' = j
        · subst h
          simp [findEntry, Ne.symm hne]
        · simp [findEntry, h, ih]

/-- After an insertion its name has the new value and every other name what it had. -/
theorem get?_insert (m : FieldMap α) (k k' : String) (x : α) :
    (m.insert k x).get? k' = if k' = k then some x else m.get? k' :=
  findEntry_insertEntry k k' x m.toList

theorem get?_empty (k : String) : (empty : FieldMap α).get? k = none := rfl

end FieldMap

end CatalogSearch
