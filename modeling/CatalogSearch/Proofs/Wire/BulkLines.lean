import CatalogSearch.Engine.BulkEntry
import CatalogSearch.Proofs.Wire.WritePath

/-!
# Reading bulk requests

The lines of a bulk request say of each declaration what has to be done, and no more is needed to
tell them apart than to know that a source line follows the action of an update: read from left to
right they give the declarations back, in order (`bulk_lines_read_back`), whatever stands in the
payloads. The induction is on the declarations, with any lines behind theirs
(`read?_bulkLines_append`).
-/

namespace CatalogSearch

namespace Wire

variable (p : Protocol) (d : Declaration) (ds : List Declaration) (lines : List Json)

/-- What a bulk request says of the document of a declaration. -/
def entryOf : BulkEntry := ⟨targetOf p d, if d.isDelete then none else some d.fields⟩

/-! ## One declaration -/

theorem ofSource?_upsertBody : BulkEntry.ofSource? d.upsertBody = some d.fields := by
  simp [BulkEntry.ofSource?, Declaration.upsertBody, Json.fields?, Json.object,
    FieldMap.ofList_toList]

/-- A reader that comes to the lines of a declaration takes its entry, and goes on behind them. -/
theorem read?_declarationLines_append :
    BulkEntry.read? (p.declarationLines d ++ lines) =
      (BulkEntry.read? lines).map (entryOf p d :: ·) := by
  obtain ⟨action, named, same⟩ := declarationLines_eq p d
  have kind : (targetOf p d).isDelete = d.isDelete := rfl
  rw [same, List.cons_append, BulkEntry.read?, named, entryOf]
  cases deletes : d.isDelete <;> simp [kind, deletes, ofSource?_upsertBody]

theorem length_declarationLines :
    (p.declarationLines d).length = 1 + if d.isDelete then 0 else 1 := by
  obtain ⟨action, -, same⟩ := declarationLines_eq p d
  cases deletes : d.isDelete <;> simp [same, deletes]

/-! ## All of them -/

theorem bulkLines_cons : p.bulkLines (d :: ds) = p.declarationLines d ++ p.bulkLines ds :=
  List.flatMap_cons

theorem bulkLines_append (ds' : List Declaration) :
    p.bulkLines (ds ++ ds') = p.bulkLines ds ++ p.bulkLines ds' :=
  List.flatMap_append

/-- A reader that comes to the lines of some declarations takes their entries, and goes on behind
them. -/
theorem read?_bulkLines_append :
    BulkEntry.read? (p.bulkLines ds ++ lines) =
      (BulkEntry.read? lines).map (ds.map (entryOf p) ++ ·) := by
  induction ds with
  | nil => simp [Protocol.bulkLines]
  | cons d ds ih =>
    rw [bulkLines_cons, List.append_assoc, read?_declarationLines_append, ih, Option.map_map]
    rfl

/-- There is an action for each declaration, and a source for each upsert. -/
theorem length_bulkLines :
    (p.bulkLines ds).length = ds.length + ds.countP fun d => !d.isDelete := by
  induction ds with
  | nil => rfl
  | cons d ds ih =>
    rw [bulkLines_cons, List.length_append, length_declarationLines, ih, List.length_cons,
      List.countP_cons]
    cases d.isDelete <;> simp <;> omega

/-- **The lines of a bulk request read back.** Whatever the declarations and their payloads: a
reader that takes one action line after the other, and the line behind each update as its source,
comes to the end of the lines and has, in order, the index and the id of every declaration, whether
it deletes, its fields if it does not, a missing payload counting as one without fields, and its
type if the engine is typed and none if it is not. The lines of two lists one after the other are
those of the two together, and there are as many lines as declarations and upserts. -/
theorem bulk_lines_read_back :
    (∀ ds, BulkEntry.read? (p.bulkLines ds) =
      some (ds.map fun d =>
        { target :=
            { isDelete := d.isDelete, index := d.index,
              docType := match p with
                | .typed => some d.docType
                | .typeless => none
              id := d.id }
          fields := if d.isDelete then none else some (d.payload.getD .empty) })) ∧
      (∀ ds ds', p.bulkLines (ds ++ ds') = p.bulkLines ds ++ p.bulkLines ds') ∧
      ∀ ds, (p.bulkLines ds).length = ds.length + ds.countP fun d => !d.isDelete := by
  refine ⟨fun ds => ?_, fun ds ds' => ?_, fun ds => ?_⟩
  · have read := read?_bulkLines_append p ds []
    rw [List.append_nil] at read
    rw [read]
    cases p <;> simp [BulkEntry.read?, entryOf, targetOf, Declaration.fields]
  · exact bulkLines_append p ds ds'
  · exact length_bulkLines p ds

end Wire

end CatalogSearch
