/-
Announcements of data types over a run.  Each replacement of the data type, by an edit
or as a property, is announced once to every registration made by then, and nothing else
is announced.  So what one registration hears is a chain, in which each call starts from
the type that the call before it ended with.
-/
import ColumnCatalog.Proofs.DefinitionEntries
import Mathlib.Data.List.Chain
import Mathlib.Data.List.Induction

namespace ColumnCatalog

/-- A replacement of the data type in a run: what was done before it, and the type that
comes. -/
structure Replacement where
  earlier : List Action
  new : DataType
deriving Repr, DecidableEq

namespace Column

/-- The type that an action puts in the place of the data type, by an edit or by an
accepted request to set the property. -/
def replacement? (column : Column) : Action → Option DataType
  | .edit (.dataType type) => some type
  | .setProperty id (.dataType type) =>
      if id = "dataType" ∧
          (column.perform (.setProperty id (.dataType type))).refusal? = none then
        some type
      else none
  | _ => none

/-- The replacement by an action that comes after others. -/
def replacementAfter? (start : Column) (earlier : List Action) (action : Action) :
    Option Replacement :=
  ((start.after earlier).replacement? action).map (Replacement.mk earlier)

/-- The replacements of a run, in order. -/
def replacements (start : Column) (actions : List Action) : List Replacement :=
  actions.zipIdx.filterMap fun turn =>
    start.replacementAfter? (actions.take turn.2) turn.1

/-- The call that tells a listener of a replacement in a run. -/
def announcementTo (start : Column) (replacement : Replacement) (listener : Listener) :
    Notification where
  listener := listener
  column := start.name
  old? := (start.after replacement.earlier).dataType?
  new := replacement.new

/-- The calls that announce a replacement: one for each registration made by then, in
the order of the registrations. -/
def announcement (start : Column) (replacement : Replacement) : List Notification :=
  (start.listeners ++ replacement.earlier.filterMap Action.newListener?).map
    (start.announcementTo replacement)

/-- The calls of a run to the registration at a place among all of them. -/
def heard (column : Column) (place : Nat) : List Action → List Notification
  | [] => []
  | action :: rest =>
      let result := column.perform action
      -- an announcement has the registrations in their order
      result.notifications[place]?.toList ++ result.column.heard place rest

/-! ### One action -/

/-- What an action does about the data type: a replacement takes its place, and is
announced to the listeners that the column has. -/
structure Announces (column : Column) (action : Action) (result : ActionResult) : Prop where
  notifications_eq : result.notifications =
    (column.replacement? action).elim [] fun type => column.notifications (.dataType type)
  dataType?_eq : result.column.dataType? = (column.replacement? action).or column.dataType?

theorem announces_edit (column : Column) (change : Edit) :
    column.Announces (.edit change) (column.applyEdit change) := by
  cases change <;> exact ⟨rfl, rfl⟩

theorem replacement?_of_refusal {column : Column} {id : String} {value : PropertyValue}
    {cause : CatalogError}
    (hrefusal : (column.perform (.setProperty id value)).refusal? = some cause) :
    column.replacement? (.setProperty id value) = none := by
  cases value with
  | dataType type => simp [replacement?, hrefusal]
  | null | text | integer | bool => rfl

/-- An accepted request replaces the data type just if the edit it stands for does. -/
theorem replacement?_of_accepted {column : Column} {editor : PropertyEditor}
    {value : PropertyValue} {change : Edit} (hedit : editor.edit? value = some change)
    (haccepted : (column.perform (.setProperty editor.propertyId value)).refusal? = none) :
    column.replacement? (.setProperty editor.propertyId value) =
      column.replacement? (.edit change) := by
  cases PropertyEditor.standsFor_of_edit? hedit with
  | dataType type => exact if_pos ⟨rfl, haccepted⟩
  | maxLength | required | defaultText | noDefault | descriptionText | noDescription => rfl

theorem announces_perform (column : Column) (action : Action) :
    column.Announces action (column.perform action) := by
  cases action with
  | edit change => exact column.announces_edit change
  | listen listener => exact ⟨rfl, rfl⟩
  | setProperty id value =>
      cases hresult : (column.perform (.setProperty id value)).refusal? with
      | some cause =>
          obtain ⟨hcolumn, hcalls⟩ := perform_of_refusal hresult
          have hnone := replacement?_of_refusal hresult
          constructor
          · rw [hcalls, hnone]
            rfl
          · rw [hcolumn, hnone]
            rfl
      | none =>
          obtain ⟨editor, change, rfl, hedit, hperform⟩ :=
            (propertyRequest_perform column id value).exists_edit hresult
          have hsame := replacement?_of_accepted hedit hresult
          have hchange := column.announces_edit change
          rw [hperform]
          constructor
          · rw [hsame]
            exact hchange.notifications_eq
          · rw [hsame]
            exact hchange.dataType?_eq

/-! ### Runs -/

theorem name_after (column : Column) (actions : List Action) :
    (column.after actions).name = column.name :=
  congrArg ColumnFacts.name (column.toColumnFacts_after actions)

theorem earlier_of_replacementAfter? {start : Column} {earlier : List Action}
    {action : Action} {replacement : Replacement}
    (hnew : start.replacementAfter? earlier action = some replacement) :
    replacement.earlier = earlier := by
  obtain ⟨type, -, rfl⟩ := Option.map_eq_some_iff.mp hnew
  rfl

theorem replacements_append_singleton (start : Column) (earlier : List Action)
    (action : Action) :
    start.replacements (earlier ++ [action]) =
      start.replacements earlier ++
        (start.replacementAfter? earlier action).toList := by
  rw [replacements, List.zipIdx_append, List.filterMap_append]
  congr 1
  · apply List.filterMap_congr
    rintro ⟨former, turn⟩ hformer
    have hturn : turn < earlier.length := List.snd_lt_of_mem_zipIdx hformer
    rw [List.take_append_of_le_length (Nat.le_of_lt hturn)]
  · cases hreplacement : start.replacementAfter? earlier action <;> simp [hreplacement]

/-- After a run the column has the type of the last replacement. -/
theorem dataType?_after (start : Column) (actions : List Action) :
    (start.after actions).dataType? =
      ((start.replacements actions).getLast?.map Replacement.new).or start.dataType? := by
  induction actions using List.reverseRecOn with
  | nil => rfl
  | append_singleton earlier action ih =>
      rw [after_append_singleton, (announces_perform _ action).dataType?_eq,
        replacements_append_singleton, replacementAfter?]
      cases (start.after earlier).replacement? action with
      | none => simpa using ih
      | some type => simp

theorem announcement_eq_notifications (start : Column) (replacement : Replacement) :
    start.announcement replacement =
      (start.after replacement.earlier).notifications (.dataType replacement.new) := by
  rw [announcement, ← listeners_after, notifications, name_after]
  rfl

/-- The calls of a run announce its replacements. -/
theorem calls_eq_flatMap (start : Column) (actions : List Action) :
    start.calls actions = (start.replacements actions).flatMap start.announcement := by
  induction actions using List.reverseRecOn with
  | nil => rfl
  | append_singleton earlier action ih =>
      rw [calls_append_singleton, replacements_append_singleton, List.flatMap_append, ih,
        (announces_perform _ action).notifications_eq, replacementAfter?]
      cases (start.after earlier).replacement? action with
      | none => rfl
      | some type => simp [announcement_eq_notifications]

/-! ### Chains -/

theorem dataType?_after_of_getLast? {start : Column} {actions : List Action}
    {last : Replacement} (hlast : (start.replacements actions).getLast? = some last) :
    (start.after actions).dataType? = some last.new := by
  rw [dataType?_after, hlast]
  rfl

/-- The first replacement of a run finds the type that the run starts with. -/
theorem dataType?_of_head? {start : Column} {actions : List Action} {first : Replacement}
    (hfirst : (start.replacements actions).head? = some first) :
    (start.after first.earlier).dataType? = start.dataType? := by
  induction actions using List.reverseRecOn with
  | nil => cases hfirst
  | append_singleton earlier action ih =>
      rw [replacements_append_singleton, List.head?_append, Option.head?_toList] at hfirst
      cases hformer : (start.replacements earlier).head? with
      | some former =>
          rw [hformer] at hfirst
          cases hfirst
          exact ih hformer
      | none =>
          rw [hformer, Option.none_or] at hfirst
          rw [earlier_of_replacementAfter? hfirst, dataType?_after,
            List.head?_eq_none_iff.mp hformer]
          rfl

/-- Every later replacement of a run finds the type that the one before it left. -/
theorem isChain_replacements (start : Column) (actions : List Action) :
    (start.replacements actions).IsChain fun replacement next =>
      (start.after next.earlier).dataType? = some replacement.new := by
  induction actions using List.reverseRecOn with
  | nil => exact List.isChain_nil
  | append_singleton earlier action ih =>
      rw [replacements_append_singleton, List.isChain_append]
      refine ⟨ih, ?_, ?_⟩
      · cases start.replacementAfter? earlier action <;> simp
      · intro last hlast next hnext
        rw [Option.head?_toList] at hnext
        rw [earlier_of_replacementAfter? hnext]
        exact dataType?_after_of_getLast? hlast

/-! ### One registration -/

/-- A registration keeps its place. -/
theorem getElem?_listeners_after {start : Column} {place : Nat} {listener : Listener}
    (hplace : start.listeners[place]? = some listener) (actions : List Action) :
    (start.after actions).listeners[place]? = some listener := by
  have hinside : place < start.listeners.length := (List.getElem?_eq_some_iff.mp hplace).1
  rw [listeners_after, List.getElem?_append_left hinside, hplace]

theorem heard_append (column : Column) (place : Nat) (first second : List Action) :
    column.heard place (first ++ second) =
      column.heard place first ++ (column.after first).heard place second := by
  induction first generalizing column with
  | nil => rfl
  | cons action rest ih =>
      rw [List.cons_append, heard, heard, ih, after_cons, List.append_assoc]

theorem heard_append_singleton (start : Column) (place : Nat) (earlier : List Action)
    (action : Action) :
    start.heard place (earlier ++ [action]) =
      start.heard place earlier ++
        ((start.after earlier).perform action).notifications[place]?.toList := by
  rw [heard_append, heard, heard, List.append_nil]

/-- Of the replacements after it, a registration hears all. -/
theorem heard_eq_map {start : Column} {place : Nat} {listener : Listener}
    (hplace : start.listeners[place]? = some listener) (actions : List Action) :
    start.heard place actions =
      (start.replacements actions).map (start.announcementTo · listener) := by
  induction actions using List.reverseRecOn with
  | nil => rfl
  | append_singleton earlier action ih =>
      rw [heard_append_singleton, replacements_append_singleton, List.map_append, ih,
        (announces_perform _ action).notifications_eq, replacementAfter?]
      cases (start.after earlier).replacement? action with
      | none => rfl
      | some type =>
          have hkept := getElem?_listeners_after hplace earlier
          rw [listeners_after] at hkept
          rw [Option.elim_some, ← announcement_eq_notifications start ⟨earlier, type⟩,
            announcement, List.getElem?_map, hkept]
          rfl

theorem length_notifications_perform_le (column : Column) (action : Action) :
    (column.perform action).notifications.length ≤ column.listeners.length := by
  rw [(announces_perform column action).notifications_eq]
  cases column.replacement? action with
  | none => exact Nat.zero_le _
  | some type => exact Nat.le_of_eq (List.length_map _)

/-- Of what was done before it, a registration hears nothing. -/
theorem heard_eq_nil {start : Column} {place : Nat} {actions : List Action}
    (hplace : (start.after actions).listeners.length ≤ place) :
    start.heard place actions = [] := by
  induction actions using List.reverseRecOn with
  | nil => rfl
  | append_singleton earlier action ih =>
      rw [after_append_singleton, listeners_perform, List.length_append] at hplace
      have hearlier : (start.after earlier).listeners.length ≤ place := by omega
      have hcalls : ((start.after earlier).perform action).notifications.length ≤ place :=
        (length_notifications_perform_le _ action).trans hearlier
      rw [heard_append_singleton, ih hearlier, List.getElem?_eq_none hcalls]
      rfl

/-- What a registration in the middle of a run hears are the replacements after it. -/
theorem heard_of_listen (start : Column) (earlier : List Action) (listener : Listener)
    (later : List Action) :
    start.heard (start.after earlier).listeners.length
        (earlier ++ .listen listener :: later) =
      (((start.after earlier).addListener listener).replacements later).map
        (((start.after earlier).addListener listener).announcementTo · listener) := by
  have hplace : ((start.after earlier).addListener listener).listeners[
      (start.after earlier).listeners.length]? = some listener :=
    List.getElem?_concat_length
  rw [heard_append, heard_eq_nil (Nat.le_refl _), List.nil_append]
  exact heard_eq_map hplace later

/-- What listeners are told over a run.  The calls are those for the replacements of the
data type in their order: one to each registration made by then, in the order of the
registrations, with the name of the column, the type that was held just before and the
type that comes.  What one registration hears is a chain: it starts from the type at the
registration, each call starts from the type that the call before it ended with, no
replacement is left out, and the column ends with the type of the last call. -/
theorem announcements_of_run (start : Column) :
    (∀ actions, start.calls actions =
        (start.replacements actions).flatMap fun replacement =>
          (start.listeners ++ replacement.earlier.filterMap Action.newListener?).map
            fun listener =>
              { listener
                column := start.name
                old? := (start.after replacement.earlier).dataType?
                new := replacement.new }) ∧
      (∀ earlier action, (start.after earlier).replacement? action = none →
        ((start.after earlier).perform action).notifications = []) ∧
      (∀ earlier listener later,
        let joined := start.after (earlier ++ [.listen listener])
        let place := (start.after earlier).listeners.length
        let calls := start.heard place (earlier ++ .listen listener :: later)
        (∀ call ∈ calls, call.listener = listener ∧ call.column = start.name) ∧
          calls.map Notification.new = (joined.replacements later).map Replacement.new ∧
          (∀ call, calls.head? = some call →
            call.old? = (start.after earlier).dataType?) ∧
          calls.IsChain (fun call next => next.old? = some call.new) ∧
          (∀ call, calls.getLast? = some call →
            (start.after (earlier ++ .listen listener :: later)).dataType? =
              some call.new)) := by
  refine ⟨start.calls_eq_flatMap, ?_, ?_⟩
  · intro earlier action hnone
    rw [(announces_perform _ action).notifications_eq, hnone]
    rfl
  · intro earlier listener later joined place calls
    have hjoined : joined = (start.after earlier).addListener listener :=
      start.after_append_singleton earlier (.listen listener)
    have hname : joined.name = start.name := start.name_after _
    have hcalls : calls =
        (joined.replacements later).map (joined.announcementTo · listener) := by
      rw [hjoined]
      exact start.heard_of_listen earlier listener later
    have hend : start.after (earlier ++ .listen listener :: later) = joined.after later := by
      rw [hjoined]
      exact start.after_append earlier (.listen listener :: later)
    rw [hcalls, hend]
    refine ⟨?_, ?_, ?_, ?_, ?_⟩
    · intro call hcall
      obtain ⟨replacement, -, rfl⟩ := List.mem_map.mp hcall
      exact ⟨rfl, hname⟩
    · rw [List.map_map]
      rfl
    · intro call hfirst
      rw [List.head?_map, Option.map_eq_some_iff] at hfirst
      obtain ⟨first, hfirst, rfl⟩ := hfirst
      have hheld : (joined.after first.earlier).dataType? = joined.dataType? :=
        dataType?_of_head? hfirst
      rw [hjoined] at hheld ⊢
      exact hheld
    · rw [List.isChain_map]
      exact joined.isChain_replacements later
    · intro call hlast
      rw [List.getLast?_map, Option.map_eq_some_iff] at hlast
      obtain ⟨last, hlast, rfl⟩ := hlast
      exact dataType?_after_of_getLast? hlast

end Column

end ColumnCatalog
