/-
Traversals of lists by runs that can fail.  A traversal takes the items in their order and
stops at the first that fails; what happens in it is what happens for the items up to that
one, one after the other.  Steps that look alike make traversals that look alike.
-/
import ColumnCatalog.Trace

namespace ColumnCatalog

namespace Traced

variable {α β γ : Type}

def Succeeds (run : Traced α) : Prop :=
  ∃ result, run.outcome = .ok result

theorem bind_of_error {run : Traced α} {cause : CatalogError}
    (hcause : run.outcome = .error cause) (next : α → Traced β) :
    run >>= next = ⟨run.events, .error cause⟩ := by
  simp only [Bind.bind, bind, hcause]

theorem bind_of_ok {run : Traced α} {a : α} (hresult : run.outcome = .ok a)
    (next : α → Traced β) :
    run >>= next = ⟨run.events ++ (next a).events, (next a).outcome⟩ := by
  simp only [Bind.bind, bind, hresult]

/-! ### One item after the other -/

/-- What a step lets happen for each of some items, in their order. -/
def eventsOver (step : α → Traced β) (items : List α) : List Event :=
  items.flatMap fun item => (step item).events

theorem eventsOver_cons (step : α → Traced β) (item : α) (items : List α) :
    eventsOver step (item :: items) = (step item).events ++ eventsOver step items :=
  List.flatMap_cons

theorem lookups_of_eventsOver {run : Traced γ} {step : α → Traced β} {items : List α}
    (hevents : run.events = eventsOver step items) :
    run.lookups = items.flatMap fun item => (step item).lookups := by
  rw [lookups, hevents, eventsOver, List.filterMap_flatMap]
  rfl

theorem logs_of_eventsOver {run : Traced γ} {step : α → Traced β} {items : List α}
    (hevents : run.events = eventsOver step items) :
    run.logs = items.flatMap fun item => (step item).logs := by
  rw [logs, hevents, eventsOver, List.filterMap_flatMap]
  rfl

/-- If every step pulls once, a run pulls as often as it takes a step. -/
theorem pulled_of_eventsOver {run : Traced γ} {step : α → Traced β} {items : List α}
    (hevents : run.events = eventsOver step items) (honce : ∀ item, (step item).pulled = 1) :
    run.pulled = items.length := by
  have hcount : (List.count Event.pull ∘ fun item => (step item).events) = fun _ => 1 :=
    funext honce
  rw [pulled, hevents, eventsOver, List.count_flatMap, hcount, List.map_const',
    List.sum_replicate_nat, Nat.mul_one]

/-- The endings of a traversal: every item succeeds, or one fails and none before it does. -/
inductive Traverses (step : α → Traced β) (items : List α) : Traced (List β) → Prop where
  | completed {results : List β}
      (hresults : items.map (fun item => (step item).outcome) = results.map .ok) :
      Traverses step items ⟨eventsOver step items, .ok results⟩
  | stopped {earlier : List α} {item : α} {later : List α} {cause : CatalogError}
      (hitems : items = earlier ++ item :: later)
      (hearlier : ∀ former ∈ earlier, (step former).Succeeds)
      (hcause : (step item).outcome = .error cause) :
      Traverses step items ⟨eventsOver step (earlier ++ [item]), .error cause⟩

/-- Every traversal ends in one of the two ways. -/
theorem traverses_mapM (step : α → Traced β) (items : List α) :
    Traverses step items (items.mapM step) := by
  induction items with
  | nil =>
      have hresults : [].map (fun item => (step item).outcome) = ([] : List β).map .ok := rfl
      exact .completed hresults
  | cons head tail ih =>
      rw [List.mapM_cons]
      cases hhead : (step head).outcome with
      | error cause =>
          rw [bind_of_error hhead, ← List.append_nil (step head).events]
          have hitems : head :: tail = [] ++ head :: tail := rfl
          exact .stopped hitems (List.forall_mem_nil _) hhead
      | ok result =>
          rw [bind_of_ok hhead, bind_pure_comp, events_map, outcome_map]
          generalize tail.mapM step = rest at ih ⊢
          cases ih with
          | @completed results hresults =>
              change Traverses step (head :: tail)
                ⟨(step head).events ++ eventsOver step tail, .ok (result :: results)⟩
              rw [← eventsOver_cons]
              exact .completed (by rw [List.map_cons, List.map_cons, hhead, hresults])
          | @stopped earlier item later cause hitems hearlier hcause =>
              have hformer : ∀ former ∈ head :: earlier, (step former).Succeeds := by
                intro former hmem
                rcases List.mem_cons.mp hmem with rfl | hmem
                · exact ⟨result, hhead⟩
                · exact hearlier former hmem
              change Traverses step (head :: tail)
                ⟨(step head).events ++ eventsOver step (earlier ++ [item]), .error cause⟩
              rw [← eventsOver_cons, ← List.cons_append]
              exact .stopped (by rw [hitems, List.cons_append]) hformer hcause

section Endings

variable {step : α → Traced β} {items : List α} {run : Traced (List β)}

theorem succeeds_of_map_outcome_eq {results : List β}
    (hresults : items.map (fun item => (step item).outcome) = results.map .ok)
    {item : α} (hitem : item ∈ items) : (step item).Succeeds := by
  have hmem : (step item).outcome ∈ items.map fun item => (step item).outcome :=
    List.mem_map_of_mem hitem
  rw [hresults] at hmem
  obtain ⟨result, -, hresult⟩ := List.mem_map.mp hmem
  exact ⟨result, hresult.symm⟩

/-- If every item succeeds, so does the traversal, with the results in their order. -/
theorem Traverses.of_succeeds (htraverses : Traverses step items run)
    (hall : ∀ item ∈ items, (step item).Succeeds) :
    ∃ results, items.map (fun item => (step item).outcome) = results.map .ok ∧
      run.outcome = .ok results ∧ run.events = eventsOver step items := by
  cases htraverses with
  | completed hresults => exact ⟨_, hresults, rfl, rfl⟩
  | @stopped earlier item later cause hitems hearlier hcause =>
      obtain ⟨result, hresult⟩ := hall item (by simp [hitems])
      rw [hcause] at hresult
      cases hresult

/-- If some item fails, the traversal fails as the first of them does, and nothing
happens for the items after it. -/
theorem Traverses.of_not_succeeds (htraverses : Traverses step items run)
    (hsome : ¬ ∀ item ∈ items, (step item).Succeeds) :
    ∃ earlier item later cause, items = earlier ++ item :: later ∧
      (∀ former ∈ earlier, (step former).Succeeds) ∧ (step item).outcome = .error cause ∧
        run.outcome = .error cause ∧ run.events = eventsOver step (earlier ++ [item]) := by
  cases htraverses with
  | completed hresults =>
      exact absurd (fun item hitem => succeeds_of_map_outcome_eq hresults hitem) hsome
  | stopped hitems hearlier hcause => exact ⟨_, _, _, _, hitems, hearlier, hcause, rfl, rfl⟩

end Endings

/-! ### Failures as results -/

/-- A traversal that takes failures as results leaves no item out. -/
theorem mapM_attempt (step : α → Traced β) (items : List α) :
    (items.mapM fun item => (step item).attempt) =
      ⟨eventsOver step items, .ok (items.map fun item => (step item).outcome)⟩ := by
  obtain ⟨results, hresults, houtcome, hevents⟩ :=
    (traverses_mapM (fun item => (step item).attempt) items).of_succeeds
      fun item _ => ⟨(step item).outcome, rfl⟩
  have hsame : results = items.map fun item => (step item).outcome := by
    apply (List.map_inj_right fun _ _ => Except.ok.inj).mp
    rw [← hresults, List.map_map]
    rfl
  apply Traced.ext
  · exact hevents
  · rw [houtcome, hsame]

/-! ### Runs that look alike -/

/-- Two runs come to the same, ask for the same schemas and write the same log. -/
structure LooksLike (left right : Traced α) : Prop where
  outcome : left.outcome = right.outcome
  lookups : left.lookups = right.lookups
  logs : left.logs = right.logs

theorem LooksLike.refl (run : Traced α) : run.LooksLike run :=
  ⟨rfl, rfl, rfl⟩

theorem lookups_bind_of_ok {run : Traced α} {a : α} (hresult : run.outcome = .ok a)
    (next : α → Traced β) : (run >>= next).lookups = run.lookups ++ (next a).lookups := by
  rw [bind_of_ok hresult]
  exact List.filterMap_append

theorem logs_bind_of_ok {run : Traced α} {a : α} (hresult : run.outcome = .ok a)
    (next : α → Traced β) : (run >>= next).logs = run.logs ++ (next a).logs := by
  rw [bind_of_ok hresult]
  exact List.filterMap_append

theorem LooksLike.bind {left right : Traced α} {next other : α → Traced β}
    (hrun : left.LooksLike right) (hnext : ∀ a, (next a).LooksLike (other a)) :
    (left >>= next).LooksLike (right >>= other) := by
  cases hright : right.outcome with
  | error cause =>
      have hleft : left.outcome = .error cause := hrun.outcome.trans hright
      rw [bind_of_error hleft, bind_of_error hright]
      exact ⟨rfl, hrun.lookups, hrun.logs⟩
  | ok a =>
      have hleft : left.outcome = .ok a := hrun.outcome.trans hright
      constructor
      · rw [bind_of_ok hleft, bind_of_ok hright]
        exact (hnext a).outcome
      · rw [lookups_bind_of_ok hleft, lookups_bind_of_ok hright, hrun.lookups,
          (hnext a).lookups]
      · rw [logs_bind_of_ok hleft, logs_bind_of_ok hright, hrun.logs, (hnext a).logs]

theorem LooksLike.mapM {step other : α → Traced β}
    (hstep : ∀ item, (step item).LooksLike (other item)) (items : List α) :
    (items.mapM step).LooksLike (items.mapM other) := by
  induction items with
  | nil => exact .refl _
  | cons head tail ih =>
      rw [List.mapM_cons, List.mapM_cons]
      exact (hstep head).bind fun _ => ih.bind fun _ => .refl _

end Traced

end ColumnCatalog
