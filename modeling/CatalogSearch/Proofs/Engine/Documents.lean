import Mathlib.Data.List.Basic
import CatalogSearch.Engine.Store

/-!
# Documents and their look-ups

A table in order is told by its look-ups (`eq_of_lookup_eq`); so are the fields of a document
(`FieldMap.eq_of_get?`) and the documents of an engine (`Documents.eq_of_find?`), whose order every
declaration keeps (`Documents.Sorted.apply`). A declaration changes one document
(`Documents.find?_apply`), as `Documents.obeys_apply` says field by field.
-/

namespace CatalogSearch

universe u v

/-! ## Tables in order -/

section Tables

variable {κ : Type u} {β : Type v} [BEq κ] [LawfulBEq κ] {before : κ → κ → Prop}

theorem lookup_cons_of_ne {k k' : κ} (h : k ≠ k') (x : β) (l : List (κ × β)) :
    ((k', x) :: l).lookup k = l.lookup k := by
  rw [List.lookup_cons, beq_false_of_ne h]

/-- A name that comes before those of a table is not in it. -/
theorem lookup_eq_none_of_before (asymm : ∀ a b, before a b → ¬before b a) {k : κ}
    {l : List (κ × β)} (h : ∀ e ∈ l, before k e.1) : l.lookup k = none := by
  refine List.lookup_eq_none_iff.2 fun e mem => ?_
  have other : k ≠ e.1 := fun same => asymm k e.1 (h e mem) (same ▸ h e mem)
  simpa using other

/-- A table whose first name is another one has a name only behind it. -/
theorem before_of_lookup {k k' : κ} {x x' : β} {l : List (κ × β)} (ne : k ≠ k')
    (first : ∀ e ∈ l, before k' e.1) (found : ((k', x') :: l).lookup k = some x) : before k' k := by
  rw [lookup_cons_of_ne ne] at found
  obtain ⟨l₁, l₂, rfl, -⟩ := List.lookup_eq_some_iff.1 found
  exact first (k, x) (List.mem_append_right _ List.mem_cons_self)

/-- Two tables in the same order with the same look-ups are the same. -/
theorem eq_of_lookup_eq (asymm : ∀ a b, before a b → ¬before b a) {l l' : List (κ × β)}
    (sorted : l.Pairwise fun a b => before a.1 b.1)
    (sorted' : l'.Pairwise fun a b => before a.1 b.1)
    (same : ∀ k, l.lookup k = l'.lookup k) : l = l' := by
  induction l generalizing l' with
  | nil =>
    cases l' with
    | nil => rfl
    | cons e' l' =>
      have found := same e'.1
      rw [List.lookup_cons_self] at found
      cases found
  | cons e l ih =>
    obtain ⟨k, x⟩ := e
    have found : l'.lookup k = some x := by
      rw [← same k]
      exact List.lookup_cons_self
    cases l' with
    | nil => cases found
    | cons e' l' =>
      obtain ⟨k', x'⟩ := e'
      obtain ⟨first, behind⟩ := List.pairwise_cons.1 sorted
      obtain ⟨first', behind'⟩ := List.pairwise_cons.1 sorted'
      have key : k = k' := by
        by_contra other
        have found' : ((k, x) :: l).lookup k' = some x' := by
          rw [same k']
          exact List.lookup_cons_self
        have after : before k' k := before_of_lookup other first' found
        exact asymm k' k after (before_of_lookup (Ne.symm other) first found')
      subst key
      have value : x = x' := by
        rw [List.lookup_cons_self] at found
        exact (Option.some.inj found).symm
      have rest : l = l' := by
        refine ih behind behind' fun j => ?_
        by_cases own : j = k
        · rw [own, lookup_eq_none_of_before asymm first, lookup_eq_none_of_before asymm first']
        · have same := same j
          rwa [lookup_cons_of_ne own, lookup_cons_of_ne own] at same
      rw [value, rest]

end Tables

variable {α : Type u}

theorem findEntry_eq_lookup (k : String) (l : List (String × α)) : findEntry k l = l.lookup k := by
  induction l with
  | nil => rfl
  | cons e l ih =>
    obtain ⟨k', x⟩ := e
    by_cases own : k = k'
    · simp [findEntry, own]
    · rw [lookup_cons_of_ne own, findEntry, if_neg own, ih]

/-! ## Fields -/

namespace FieldMap

theorem asymm (a b : String) (less : a < b) : ¬b < a :=
  fun more => String.lt_irrefl a (String.lt_trans less more)

/-- Fields are told by their look-ups. -/
theorem eq_of_get? {m n : FieldMap α} (h : ∀ k, m.get? k = n.get? k) : m = n := by
  ext1
  refine eq_of_lookup_eq asymm m.sorted n.sorted fun k => ?_
  rw [← findEntry_eq_lookup, ← findEntry_eq_lookup]
  exact h k

/-- Fields that are written have the values that were written, and the others what they had. -/
theorem get?_extend (m : FieldMap α) (l : List (String × α)) (k : String) :
    (m.extend l).get? k = ((ofList l).get? k).or (m.get? k) := by
  induction l generalizing m with
  | nil => rfl
  | cons e l ih =>
    have written : (ofList (e :: l)).get? k =
        ((ofList l).get? k).or ((empty.insert e.1 e.2).get? k) := ih _
    have rest : (m.extend (e :: l)).get? k = ((ofList l).get? k).or ((m.insert e.1 e.2).get? k) :=
      ih _
    rw [rest, written, get?_insert, get?_insert, get?_empty]
    cases (ofList l).get? k with
    | some x => rfl
    | none => by_cases own : k = e.1 <;> simp [own]

theorem get?_ofList_cons (e : String × α) (l : List (String × α)) (k : String) :
    (ofList (e :: l)).get? k =
      ((ofList l).get? k).or (if k = e.1 then some e.2 else none) := by
  have written : (ofList (e :: l)).get? k =
      ((ofList l).get? k).or ((empty.insert e.1 e.2).get? k) := get?_extend _ l k
  rw [written, get?_insert, get?_empty]

/-- The fields of a document, written into one without fields, make that document. -/
theorem get?_ofList_toList (m : FieldMap α) (k : String) : (ofList m.toList).get? k = m.get? k := by
  obtain ⟨l, sorted⟩ := m
  show (ofList l).get? k = findEntry k l
  unfold SortedByName at sorted
  induction l with
  | nil => rfl
  | cons e l ih =>
    obtain ⟨k', x⟩ := e
    obtain ⟨first, behind⟩ := List.pairwise_cons.1 sorted
    rw [get?_ofList_cons, ih behind, findEntry]
    by_cases own : k = k'
    · have absent : findEntry k l = none := by
        rw [findEntry_eq_lookup, own]
        exact lookup_eq_none_of_before asymm first
      rw [absent, if_pos own]
      rfl
    · rw [if_neg own, if_neg own, Option.or_none]

theorem ofList_toList (m : FieldMap α) : ofList m.toList = m := eq_of_get? (get?_ofList_toList m)

/-- Of the values written under a name the last one is found. -/
theorem get?_ofList (l : List (String × α)) (k : String) :
    (ofList l).get? k = (l.filter fun e => e.1 = k).getLast?.map Prod.snd := by
  induction l with
  | nil => rfl
  | cons e l ih =>
    rw [get?_ofList_cons, ih, List.filter_cons]
    by_cases own : e.1 = k
    · rw [if_pos own.symm, if_pos (decide_eq_true own), List.getLast?_cons]
      cases (l.filter fun e => e.1 = k).getLast? <;> rfl
    · rw [if_neg (Ne.symm own), if_neg (by simpa using own), Option.or_none]

/-- The entries of a map are its look-ups. -/
theorem mem_toList {m : FieldMap α} {e : String × α} : e ∈ m.toList ↔ m.get? e.1 = some e.2 := by
  obtain ⟨l, sorted⟩ := m
  show e ∈ l ↔ findEntry e.1 l = some e.2
  rw [findEntry_eq_lookup, List.lookup_eq_some_iff]
  constructor
  · intro mem
    obtain ⟨l₁, l₂, rfl⟩ := List.append_of_mem mem
    refine ⟨l₁, l₂, rfl, fun e' before => bne_iff_ne.2 fun same => ?_⟩
    have less : e'.1 < e.1 := (List.pairwise_append.1 sorted).2.2 e' before e List.mem_cons_self
    exact String.lt_irrefl e.1 (same ▸ less)
  · rintro ⟨l₁, l₂, rfl, -⟩
    exact List.mem_append_right _ List.mem_cons_self

theorem get?_keep (m : FieldMap α) (p : String → Bool) (k : String) :
    (m.keep p).get? k = if p k then m.get? k else none := by
  refine Option.ext fun x => ?_
  have kept : (k, x) ∈ (m.keep p).toList ↔ (k, x) ∈ m.toList ∧ p k = true := List.mem_filter
  rw [mem_toList, mem_toList] at kept
  rw [kept]
  cases p k <;> simp

end FieldMap

namespace Json

@[simp] theorem get?_record_nil (k : String) : (record []).get? k = none := rfl

/-- Of the members of a record the later of two with the same name is found. -/
@[simp] theorem get?_record_cons (e : String × Json) (l : List (String × Json)) (k : String) :
    (record (e :: l)).get? k = ((record l).get? k).or (if k = e.1 then some e.2 else none) :=
  FieldMap.get?_ofList_cons e l k

theorem nat64?_nat {n : Nat} (small : n < 0x10000000000000000) : (nat n).nat64? = some n := by
  have inRange : (n : Int) < 0x10000000000000000 := by omega
  rw [nat, nat64?, if_pos ⟨Int.natCast_nonneg _, inRange⟩, Int.toNat_natCast]

end Json

/-! ## Documents -/

namespace DocKey

theorem before_iff {a b : DocKey} :
    a.before b = true ↔ a.index < b.index ∨ a.index = b.index ∧ a.id < b.id := by
  simp [before]

theorem before_trans {a b c : DocKey} (h : a.before b = true) (h' : b.before c = true) :
    a.before c = true := by
  rw [before_iff] at h h' ⊢
  rcases h with index | ⟨index, id⟩
  · rcases h' with index' | ⟨index', -⟩
    · exact .inl (String.lt_trans index index')
    · exact .inl (index' ▸ index)
  · rcases h' with index' | ⟨index', id'⟩
    · exact .inl (index ▸ index')
    · exact .inr ⟨index.trans index', String.lt_trans id id'⟩

theorem before_irrefl (a : DocKey) : ¬a.before a = true := by
  rw [before_iff]
  rintro (index | ⟨-, id⟩)
  · exact String.lt_irrefl _ index
  · exact String.lt_irrefl _ id

theorem before_asymm {a b : DocKey} (h : a.before b = true) : ¬b.before a = true :=
  fun h' => before_irrefl a (before_trans h h')

/-- Of two different addresses one comes before the other. -/
theorem before_of_not_before {a b : DocKey} (ne : a ≠ b) (h : ¬a.before b = true) :
    b.before a = true := by
  rw [before_iff, not_or, not_and] at h
  rw [before_iff]
  have le : b.index ≤ a.index := String.not_lt.1 h.1
  by_cases index : a.index = b.index
  · have id : a.id ≠ b.id := fun id => ne (by cases a; cases b; simp_all)
    exact .inr ⟨index.symm, Std.lt_of_le_of_ne (String.not_lt.1 (h.2 index)) (Ne.symm id)⟩
  · exact .inl (Std.lt_of_le_of_ne le (Ne.symm index))

end DocKey

namespace Documents

variable {docs docs' : Documents} {d e : Declaration} {k : DocKey} {x : FieldMap Json}

/-- Documents are listed in the order of their addresses, each address once. -/
def Sorted (docs : Documents) : Prop := docs.Pairwise fun a b => a.1.before b.1 = true

instance (docs : Documents) : Decidable docs.Sorted :=
  inferInstanceAs (Decidable (docs.Pairwise _))

theorem find?_eq_lookup (k : DocKey) (docs : Documents) : docs.find? k = docs.lookup k := by
  induction docs with
  | nil => rfl
  | cons e docs ih =>
    obtain ⟨k', x⟩ := e
    by_cases own : k = k'
    · simp [find?, own]
    · rw [lookup_cons_of_ne own, find?, if_neg own, ih]

/-- Documents are told by their look-ups. -/
theorem eq_of_find? (sorted : docs.Sorted) (sorted' : docs'.Sorted)
    (h : ∀ k, docs.find? k = docs'.find? k) : docs = docs' := by
  have asymm (a b : DocKey) (less : a.before b = true) : ¬b.before a = true :=
    DocKey.before_asymm less
  refine eq_of_lookup_eq asymm sorted sorted' fun k => ?_
  rw [← find?_eq_lookup, ← find?_eq_lookup]
  exact h k

theorem mem_put {e : DocKey × FieldMap Json} (mem : e ∈ docs.put k x) : e = (k, x) ∨ e ∈ docs := by
  induction docs with
  | nil => exact .inl (List.mem_singleton.1 mem)
  | cons hd docs ih =>
    obtain ⟨k', x'⟩ := hd
    unfold put at mem
    split at mem
    · exact (List.mem_cons.1 mem).imp_right (List.mem_cons_of_mem _)
    · split at mem
      · exact List.mem_cons.1 mem
      · rcases List.mem_cons.1 mem with rfl | mem
        · exact .inr List.mem_cons_self
        · exact (ih mem).imp_right (List.mem_cons_of_mem _)

namespace Sorted

theorem put (h : docs.Sorted) (k : DocKey) (x : FieldMap Json) : (docs.put k x).Sorted := by
  unfold Sorted at h ⊢
  induction docs with
  | nil => exact List.pairwise_singleton _ _
  | cons e docs ih =>
    obtain ⟨k', x'⟩ := e
    obtain ⟨first, rest⟩ := List.pairwise_cons.1 h
    unfold Documents.put
    split
    · next own =>
      subst own
      exact List.pairwise_cons.2 ⟨first, rest⟩
    · next other =>
      split
      · next before =>
        refine List.pairwise_cons.2 ⟨fun e mem => ?_, h⟩
        rcases List.mem_cons.1 mem with rfl | later
        · exact before
        · exact DocKey.before_trans before (first e later)
      · next after =>
        refine List.pairwise_cons.2 ⟨fun e mem => ?_, ih rest⟩
        rcases mem_put mem with rfl | later
        · exact DocKey.before_of_not_before other after
        · exact first e later

theorem remove (h : docs.Sorted) (k : DocKey) : (docs.remove k).Sorted := List.Pairwise.filter _ h

theorem apply (h : docs.Sorted) (d : Declaration) : (docs.apply d).Sorted := by
  unfold Documents.apply
  split
  · exact h.remove _
  · exact h.put _ _

/-- Applying declarations keeps documents in order. -/
theorem applyAll (h : docs.Sorted) (ds : List Declaration) : (docs.applyAll ds).Sorted := by
  induction ds generalizing docs with
  | nil => exact h
  | cons d ds ih => exact ih (h.apply d)

end Sorted

theorem find?_put (docs : Documents) (k k' : DocKey) (x : FieldMap Json) :
    (docs.put k x).find? k' = if k' = k then some x else docs.find? k' := by
  induction docs with
  | nil => rfl
  | cons e docs ih =>
    obtain ⟨j, y⟩ := e
    unfold put
    split
    · next own =>
      subst own
      by_cases same : k' = k <;> simp [find?, same]
    · next other =>
      split
      · rfl
      · by_cases same : k' = j
        · subst same
          simp [find?, Ne.symm other]
        · simp [find?, same, ih]

theorem find?_remove (docs : Documents) (k k' : DocKey) :
    (docs.remove k).find? k' = if k' = k then none else docs.find? k' := by
  induction docs with
  | nil => simp [remove, find?]
  | cons e docs ih =>
    obtain ⟨j, y⟩ := e
    unfold remove at ih ⊢
    by_cases gone : j = k
    · subst gone
      rw [List.filter_cons_of_neg (by simp), ih]
      by_cases same : k' = j <;> simp [find?, same]
    · rw [List.filter_cons_of_pos (by simpa using gone), find?, ih]
      by_cases same : k' = j
      · subst same
        simp [find?, gone]
      · simp [find?, same]

/-- What a declaration makes of its document. -/
def change (d : Declaration) (x : Option (FieldMap Json)) : Option (FieldMap Json) :=
  if d.isDelete then none else some ((x.getD .empty).extend d.fields.toList)

/-- A declaration changes its document and no other one. -/
theorem find?_apply (docs : Documents) (d : Declaration) (k : DocKey) :
    (docs.apply d).find? k = if k = keyOf d then change d (docs.find? k) else docs.find? k := by
  unfold apply change
  split
  · rw [find?_remove]
  · rw [find?_put]
    by_cases own : k = keyOf d <;> simp [own]

/-- What documents are after a declaration: a deletion removes its document, an upsert merges its
fields into it or creates it, and the others are as before. -/
structure Obeys (d : Declaration) (docs docs' : Documents) : Prop where
  others : ∀ k, k ≠ keyOf d → docs'.find? k = docs.find? k
  deletes : d.isDelete = true → docs'.find? (keyOf d) = none
  merges : d.isDelete = false → ∃ x, docs'.find? (keyOf d) = some x ∧
    ∀ field, x.get? field = (d.fields.get? field).or ((docs.find? (keyOf d)).bind (·.get? field))

theorem obeys_apply (docs : Documents) (d : Declaration) : Obeys d docs (docs.apply d) where
  others k other := by rw [find?_apply, if_neg other]
  deletes deletes := by rw [find?_apply, if_pos rfl, change, if_pos deletes]
  merges merges := by
    have made : (docs.apply d).find? (keyOf d) =
        some (((docs.find? (keyOf d)).getD .empty).extend d.fields.toList) := by
      rw [find?_apply, if_pos rfl, change, merges]
      rfl
    refine ⟨_, made, fun field => ?_⟩
    rw [FieldMap.get?_extend, FieldMap.get?_ofList_toList]
    cases docs.find? (keyOf d) with
    | none => rfl
    | some x => rfl

end Documents

end CatalogSearch
