import CatalogSearch.Engine.BulkAnswer
import CatalogSearch.Proofs.Json.InOrder
import CatalogSearch.Proofs.Json.Views
import CatalogSearch.Wire.Answer

/-!
# Summaries account for every action

A summary is made of an untrusted answer, which may have more items than there were actions, fewer,
or items of any other form. Whatever it is, the counts add up, and the failures are those that the
items report (`Summary.accounts_of_items`).
-/

namespace CatalogSearch

namespace Summary

variable {item body error result : Json} {f : Failure} {items : List Json} {total : Nat}

/-! ## Items -/

theorem isTextOr_iff {given : Option Json} {other text : String} :
    IsTextOr given other text ↔ (given.bind Json.text?).getD other = text := by
  simp only [IsTextOr, Option.getD_eq_iff, Option.eq_none_iff_forall_ne_some, ne_eq,
    Json.bind_text?_eq_some, @eq_comm _ other text]

theorem statusOf_eq (result : Json) :
    statusOf result =
      (((result.get? "status").bind Json.nat64?).filter (· < 65536)).getD 0 := by
  rw [statusOf]
  cases (result.get? "status").bind Json.nat64? with
  | none => rfl
  | some n => by_cases small : n < 65536 <;> simp [Option.filter_some, small]

theorem isStatus_iff {status : Nat} :
    IsStatus (result.get? "status") status ↔ statusOf result = status := by
  have given (n : Nat) :
      ((result.get? "status").bind Json.nat64?).filter (· < 65536) = some n ↔
        n < 65536 ∧ result.get? "status" = some (.nat n) := by
    rw [Option.filter_eq_some_iff, Json.bind_nat64?_eq_some, decide_eq_true_iff]
    constructor
    · rintro ⟨⟨-, there⟩, small⟩
      exact ⟨small, there⟩
    · rintro ⟨small, there⟩
      exact ⟨⟨by omega, there⟩, small⟩
  simp only [IsStatus, statusOf_eq, Option.getD_eq_iff, Option.eq_none_iff_forall_ne_some, ne_eq,
    given, not_and, @eq_comm _ 0 status]

/-- In an object that is in order, the first member is the one with the least name. -/
theorem first_iff {e : String × Json} {members : List (String × Json)}
    (sorted : SortedByName (e :: members)) {e' : String × Json} :
    (e' ∈ e :: members ∧ ∀ e'' ∈ e :: members, e'.1 ≤ e''.1) ↔ e' = e := by
  obtain ⟨before, -⟩ := List.pairwise_cons.1 sorted
  constructor
  · rintro ⟨mem, least⟩
    rcases List.mem_cons.1 mem with rfl | later
    · rfl
    · exact absurd (before e' later) (String.not_lt.2 (least e List.mem_cons_self))
  · rintro rfl
    refine ⟨List.mem_cons_self, List.forall_mem_cons.2 ⟨String.le_refl _, fun e'' later => ?_⟩⟩
    exact Std.le_of_lt (before e'' later)

/-- The result of an item is its first member. -/
theorem itemResult?_eq_some_iff (inOrder : item.InOrder) :
    itemResult? item = some result ↔
      ∃ members name, item = .obj members ∧ (name, result) ∈ members ∧
        ∀ e ∈ members, name ≤ e.1 := by
  cases inOrder with
  | @obj members sorted inside =>
    cases members with
    | nil => simp [itemResult?]
    | cons e members =>
      constructor
      · intro own
        obtain rfl := Option.some.inj own
        exact ⟨_, e.1, rfl, (first_iff sorted).2 rfl⟩
      · rintro ⟨_, name, ⟨⟩, first⟩
        obtain rfl := (first_iff sorted).1 first
        rfl
  | _ => simp [itemResult?]

/-- An item is read as the failure that it reports. -/
theorem itemFailure?_eq_some_iff (inOrder : item.InOrder) :
    itemFailure? item = some f ↔ Reports item f := by
  constructor
  · intro read
    simp only [itemFailure?, Option.bind_eq_bind, Option.bind_eq_some_iff, Option.pure_def,
      Option.some.injEq] at read
    obtain ⟨result, own, error, refused, rfl⟩ := read
    obtain ⟨members, name, rfl, there, first⟩ := (itemResult?_eq_some_iff inOrder).1 own
    exact .intro there first refused (isTextOr_iff.2 rfl) (isStatus_iff.2 rfl) (isTextOr_iff.2 rfl)
  · rintro ⟨there, first, refused, id, status, reason⟩
    have own := (itemResult?_eq_some_iff inOrder).2 ⟨_, _, rfl, there, first⟩
    obtain ⟨_, _, _⟩ := f
    rw [isTextOr_iff] at id reason
    rw [isStatus_iff] at status
    simp [itemFailure?, own, refused, id, status, reasonOf, reason]

theorem itemFailure?_eq_none_iff (inOrder : item.InOrder) :
    itemFailure? item = none ↔ ∀ f, ¬Reports item f := by
  rw [Option.eq_none_iff_forall_ne_some]
  exact forall_congr' fun f => not_congr (itemFailure?_eq_some_iff inOrder)

theorem accounts_of_items (inOrder : ∀ item ∈ items, item.InOrder) :
    Accounts items (items.filterMap itemFailure?) := by
  induction items with
  | nil => exact .none
  | cons item items ih =>
    obtain ⟨first, others⟩ := List.forall_mem_cons.1 inOrder
    cases read : itemFailure? item with
    | none =>
      rw [List.filterMap_cons_none read]
      exact .applied ((itemFailure?_eq_none_iff first).1 read) (ih others)
    | some f =>
      rw [List.filterMap_cons_some read]
      exact .refused ((itemFailure?_eq_some_iff first).1 read) (ih others)

/-! ## Answers -/

theorem failuresOf_of_items (listed : body.get? "items" = some (.arr items)) :
    failuresOf body = items.filterMap itemFailure? := by
  rw [failuresOf, listed]
  rfl

/-- Without a list of items nothing has failed. -/
theorem ofResponse_of_no_items (unlisted : ∀ items, body.get? "items" ≠ some (.arr items))
    (total : Nat) : ofResponse body total = allSucceeded total := by
  rw [ofResponse, failuresOf, Json.bind_elements?_eq_none.2 unlisted]
  simp [allSucceeded]

/-- An item that reports nothing may as well be left out. -/
theorem ofResponse_withItems {before after : List Json}
    (listed : body.get? "items" = some (.arr (before ++ after))) (silent : itemFailure? item = none)
    (total : Nat) :
    ofResponse (withItems (before ++ item :: after) body) total = ofResponse body total := by
  have listed' : (withItems (before ++ item :: after) body).get? "items" =
      some (.arr (before ++ item :: after)) := by
    rw [withItems, Json.get?_update, listed]
    rfl
  rw [ofResponse, ofResponse, failuresOf_of_items listed, failuresOf_of_items listed',
    List.filterMap_append, List.filterMap_append, List.filterMap_cons_none silent]

theorem isComplete_ofResponse (some : 1 ≤ total) (body : Json) :
    (ofResponse body total).isComplete ↔ (ofResponse body total).failures = [] := by
  show decide (min (failuresOf body).length total = 0) = true ↔ failuresOf body = []
  rw [decide_eq_true_iff, ← List.length_eq_zero_iff]
  omega

end Summary

/-- The summary of an accepted bulk request is that of an answer to its actions. -/
theorem Wire.ofResponse_of_written {ds : List Declaration} {own : Nat} {r : Net.HttpResponse}
    {sum : Summary} (accepted : written (.bulk ds own) (some r) = .ok sum) :
    ∃ body, sum = Summary.ofResponse body ds.length := by
  rw [written] at accepted
  split at accepted
  · cases read : bodyOf r with
    | error e =>
      rw [read] at accepted
      cases accepted
    | ok body =>
      rw [read] at accepted
      exact ⟨body, (Except.ok.inj accepted).symm⟩
  · cases accepted

/-- **A summary accounts for every action.** Whatever the engine answers to a bulk request, of
however many actions, the actions that were applied and those that were refused are all of them, and
as many were refused as there are failures, but no more than there are actions. The failures are
those that the items report, in order, and there are none without a list of items. An item that
reports no failure may stand anywhere among the others and changes nothing. A summary of at least
one action is complete if and only if it lists no failures; and a bulk request has at least one
action, since it is not made without any. -/
theorem summary_accounts_for_every_action :
    (∀ text body, Json.parse? text = some body → body.InOrder) ∧
    (∀ (body : Json) (total : Nat), body.InOrder →
      let sum := Summary.ofResponse body total
      sum.total = total ∧ sum.succeeded + sum.failed = total ∧
      sum.failed = min total sum.failures.length ∧
      (∀ items, body.get? "items" = some (.arr items) → Summary.Accounts items sum.failures) ∧
      ((∀ items, body.get? "items" ≠ some (.arr items)) → sum = .allSucceeded total) ∧
      (∀ before item after, body.get? "items" = some (.arr (before ++ after)) → item.InOrder →
        (∀ f, ¬Summary.Reports item f) →
        Summary.ofResponse (Summary.withItems (before ++ item :: after) body) total = sum) ∧
      (1 ≤ total → (sum.isComplete ↔ sum.failures = []))) ∧
    (∀ p timeout own, Wire.writeCall p timeout (.bulk [] own) = none) ∧
    ∀ d ds own r sum, Wire.written (.bulk (d :: ds) own) (some r) = .ok sum →
      sum.total = ds.length + 1 ∧ (sum.isComplete ↔ sum.failures = []) := by
  refine ⟨fun _ _ => Json.inOrder_of_parse?, fun body total inOrder => ?_, fun _ _ _ => rfl, ?_⟩
  · intro sum
    have counted : sum.failed = min sum.failures.length total := rfl
    refine ⟨rfl, Nat.sub_add_cancel (Nat.min_le_right _ _), counted.trans (Nat.min_comm _ _),
      fun items listed => ?_, fun unlisted => Summary.ofResponse_of_no_items unlisted total,
      fun before item after listed inOrder silent => ?_,
      fun some => Summary.isComplete_ofResponse some body⟩
    · show Summary.Accounts items (Summary.failuresOf body)
      rw [Summary.failuresOf_of_items listed]
      cases inOrder.get? listed with
      | arr inside => exact Summary.accounts_of_items inside
    · have silent := (Summary.itemFailure?_eq_none_iff inOrder).2 silent
      exact Summary.ofResponse_withItems listed silent total
  · intro d ds own r sum accepted
    obtain ⟨body, rfl⟩ := Wire.ofResponse_of_written accepted
    exact ⟨rfl, Summary.isComplete_ofResponse (Nat.succ_pos _) body⟩

/-- An answer that reports three failures of two actions, and has a text among its items. -/
theorem summary_accounts_for_every_action_of_more_items :
    let refused : Json := .record [("update", .record [("_id", .str "track-1-7"),
      ("status", .nat 65536), ("error", .str "closed")])]
    let failure : Failure := ⟨"track-1-7", 0, "\"closed\""⟩
    let body : Json := .record [("items", .arr [refused, refused, refused])]
    let sum := Summary.ofResponse body 2
    sum.succeeded + sum.failed = 2 ∧ sum.failed = 2 ∧
    Summary.Accounts [refused, refused, refused] [failure, failure, failure] ∧
    Summary.ofResponse (Summary.withItems [refused, .str "x", refused, refused] body) 2 = sum ∧
    ¬sum.isComplete := by
  intro refused failure body sum
  have members : refused.InOrder := by
    refine .record (List.forall_mem_singleton.2 (.record ?_))
    simp only [List.forall_mem_cons, List.not_mem_nil, false_imp_iff, implies_true, and_true]
    exact ⟨.str, .int, .str⟩
  have inOrder : body.InOrder :=
    .record (List.forall_mem_singleton.2 (.arr (by simpa using members)))
  obtain ⟨-, summed, -⟩ := summary_accounts_for_every_action
  obtain ⟨-, counted, failed, accounts, -, silent, complete⟩ := summed body 2 inOrder
  refine ⟨counted, failed, accounts _ rfl, ?_, fun all => ?_⟩
  · exact silent [refused] (.str "x") [refused, refused] rfl .str fun f reports => by cases reports
  · exact absurd ((complete (by decide)).1 all) (List.cons_ne_nil failure [failure, failure])

end CatalogSearch
