import Mathlib.Data.List.Dedup
import Mathlib.Data.List.Infix
import PromptDock.Desktop.DesktopText

/-!
# The groups of foreign hooks

The host lists its hooks in a JSON document: every event has groups, every group
has handlers, and a handler is PromptDock's own if a command of it carries a
marker.  The host records its trust by event, group index and handler index.

Installing and reconciling leave every foreign handler in its group and every group
at its index.  Uninstalling takes away the groups that it empties, and the groups
behind them move up (`foreign_groups_stay_iff`).
-/

namespace PromptDock.Desktop.Hooks

open List

/-- `serde_json::Value`.  Of two members of an object with one key the first
counts. -/
inductive Json where
  | null
  | bool (b : Bool)
  | number (literal : Text)
  | string (s : Text)
  | array (items : List Json)
  | object (members : List (Text × Json))

namespace Json

def get (key : Text) : Json → Option Json
  | object members => members.lookup key
  | _ => none

def asStr : Json → Option Text
  | string s => some s
  | _ => none

def asArray : Json → Option (List Json)
  | array items => some items
  | _ => none

def asObject : Json → Option (List (Text × Json))
  | object members => some members
  | _ => none

/-- `Map::insert`. -/
def insert (j : Json) (key : Text) (value : Json) : Json :=
  match j with
  | object members => object ((key, value) :: members)
  | other => other

end Json

inductive ManagedHookKind where
  | userPrompt | stop | permissionRequest
deriving DecidableEq

namespace ManagedHookKind

def all : List ManagedHookKind := [userPrompt, stop, permissionRequest]

def label : ManagedHookKind → Text
  | userPrompt => text "UserPromptSubmit"
  | stop => text "Stop"
  | permissionRequest => text "PermissionRequest"

def marker : ManagedHookKind → Text
  | userPrompt => text "--promptdock-desktop-agent-event-user-prompt"
  | stop => text "--promptdock-desktop-agent-event-stop"
  | permissionRequest => text "--promptdock-desktop-agent-event-permission-request"

end ManagedHookKind

/-- A handler that is wanted.  `spec` ends its command with the marker. -/
structure ManagedHookSpec where
  kind : ManagedHookKind
  (command commandWindows : Text)
  marked : kind.marker <:+ command

open Json ManagedHookKind

/-- `kind`. -/
def hookKind (handler : Json) : Option ManagedHookKind :=
  [text "command", text "commandWindows"].findSome? fun key =>
    ((handler.get key).bind asStr).bind fun c => all.find? fun k => decide (k.marker <:+: c)

def hooksKey : Text := text "hooks"

/-- The handlers of a group. -/
def handlers (group : Json) : List Json := ((group.get hooksKey).bind asArray).getD []

/-- The events of the document, with what stands under each. -/
def hookEvents (root : Json) : List (Text × Json) := ((root.get hooksKey).bind asObject).getD []

/-- The groups of an event. -/
def groups (root : Json) (event : Text) : List Json :=
  (((hookEvents root).lookup event).bind asArray).getD []

/-! ## The passes over the document

An error is `none`; its text is left out. -/

/-- The shape that every pass asks for: the groups and the handlers of the known
events are arrays. -/
def wellShaped (root : Json) : Bool :=
  (root.get hooksKey).all (·.asObject.isSome) && (hookEvents root).all fun e =>
    !(all.map label).contains e.1 || e.2.asArray.any fun groups =>
      groups.all fun group => (group.get hooksKey).all (·.asArray.isSome)

/-- Where the handlers of a kind are: event, group and the two indexes. -/
def places (root : Json) (target : ManagedHookKind) : List (Text × Json × Nat × Nat) :=
  ((hookEvents root).map Prod.fst).dedup.flatMap fun event =>
    (groups root event).zipIdx.flatMap fun (group, i) =>
      (handlers group).zipIdx.filterMap fun (handler, j) =>
        if hookKind handler = some target then some (event, group, i, j) else none

/-- `managed_hook_location`. -/
def managedHookLocation (root : Json) (target : ManagedHookKind) : Option (Option (Nat × Nat)) :=
  match places root target with
  | [] => some none
  | [(event, group, i, j)] =>
    if event = target.label ∧ ¬(target = .permissionRequest ∧ (group.get (text "matcher")).isSome)
    then some (some (i, j)) else none
  | _ => none

/-- `collect` and `validate_managed_layout`: of each kind there is one handler at
most, where it belongs. -/
def layoutAccepted (root : Json) : Bool :=
  root.asObject.isSome && wellShaped root && all.all fun k => (managedHookLocation root k).isSome

/-- `handlers.retain`. -/
def retain (keep : Json → Bool) (group : Json) : Json :=
  match (group.get hooksKey).bind asArray with
  | some handlers => group.insert hooksKey (array (handlers.filter keep))
  | none => group

/-- The loop over the groups of an event.  Those that `drops` names are removed. -/
def sweepGroups (keep drops : Json → Bool) : Json → Json
  | array groups => array ((groups.filter (!drops ·)).map (retain keep))
  | other => other

/-- A pass that removes handlers. -/
def sweep (keep drops : Json → Bool) (root : Json) : Option Json :=
  if !wellShaped root then none
  else if (root.get hooksKey).isNone then some root
  else some <| root.insert hooksKey <| object <|
    (hookEvents root).map fun e => (e.1, sweepGroups keep drops e.2)

/-- `remove_undesired_managed`: a group that is emptied stays. -/
def removeUndesiredManaged (desired : List ManagedHookKind) : Json → Option Json :=
  sweep (fun h => (hookKind h).all desired.contains) fun _ => false

/-- The group has handlers, and all of them are PromptDock's own. -/
def onlyManaged (group : Json) : Bool :=
  !(handlers group).isEmpty && (handlers group).all fun h => (hookKind h).isSome

/-- `remove_managed`: a group that is emptied is removed. -/
def removeManaged : Json → Option Json :=
  sweep (fun h => (hookKind h).isNone) onlyManaged

/-- `event_groups`. -/
def eventGroups (root : Json) (event : Text) : Option (List Json) :=
  if root.asObject.isSome && (root.get hooksKey).all (·.asObject.isSome) then
    (((hookEvents root).lookup event).getD (array [])).asArray
  else none

/-- The document with other groups under an event. -/
def setGroups (root : Json) (event : Text) (groups : List Json) : Json :=
  root.insert hooksKey (object ((event, array groups) :: hookEvents root))

/-- `desired_handler`. -/
def desiredHandler (s : ManagedHookSpec) : List (Text × Json) :=
  [(text "type", string (text "command")), (text "command", string s.command),
    (text "commandWindows", string s.commandWindows), (text "async", bool false),
    (text "timeout", number (text "8"))]

/-- `append`. -/
def append (s : ManagedHookSpec) (root : Json) : Option Json := do
  let groups ← eventGroups root s.kind.label
  return setGroups root s.kind.label
    (groups ++ [object [(hooksKey, array [object (desiredHandler s)])]])

/-- `update_handler`. -/
def updateHandler (s : ManagedHookSpec) (handler : Json) : Option Json := do
  let members ← handler.asObject
  return object (desiredHandler s ++ members.filter fun m =>
    m.1 != text "statusMessage" && m.1 != text "additionalContextLimit")

/-- The handler that was found is updated in its place. -/
def updateAt (s : ManagedHookSpec) (i j : Nat) (root : Json) : Option Json := do
  let groups ← eventGroups root s.kind.label
  let group ← groups[i]?
  let updated ← updateHandler s (← (handlers group)[j]?)
  return setGroups root s.kind.label
    (groups.set i (group.insert hooksKey (array ((handlers group).set j updated))))

/-- `reconcile_managed_in_place`. -/
def reconcileManagedInPlace (root : Json) (desired : List ManagedHookSpec) : Option Json := do
  if !layoutAccepted root then none
  let root ← removeUndesiredManaged (desired.map (·.kind)) root
  desired.foldlM (fun root s => do
    match ← managedHookLocation root s.kind with
    | some (i, j) => updateAt s i j root
    | none => append s root) root

inductive HookOp where
  | install (desired : List ManagedHookSpec)
  | reconcile (desired : List ManagedHookSpec)
  | uninstall

/-- The document after an operation.  One that fails writes nothing. -/
def HookOp.apply (root : Json) : HookOp → Json
  | install desired | reconcile desired => (reconcileManagedInPlace root desired).getD root
  | uninstall => (removeManaged root).getD root

/-! ## Lists of which some are dropped -/

section

variable {α β : Type} {f : α → List β} {keep : α → Bool} {xs : List α} {x y : α} {n : Nat}

/-- What there is at an index is still there. -/
def SlotsStay (xs ys : List (List β)) : Prop :=
  ∀ i, xs.getD i [] ≠ [] → ys.getD i [] = xs.getD i []

/-- Slots that stay twice stay. -/
theorem SlotsStay.trans {xs ys zs : List (List β)} (h : SlotsStay xs ys) (h' : SlotsStay ys zs) :
    SlotsStay xs zs := by
  intro i hi
  rw [h' i (by rwa [h i hi]), h i hi]

/-- New slots at the end move none. -/
theorem slotsStay_append (xs ys : List (List β)) : SlotsStay xs (xs ++ ys) := by
  intro i hi
  have hlt : i < xs.length := Nat.lt_of_not_le fun hle => hi (by simp [hle])
  simp [List.getElem?_append_left hlt]

theorem getD_map_nil (h : ∀ x ∈ xs, f x = []) (i : Nat) : (xs.map f).getD i [] = [] := by
  rw [List.getD_eq_getElem?_getD, List.getElem?_map]
  cases hx : xs[i]? with
  | none => rfl
  | some x => simp [h x (mem_of_getElem? hx)]

/-- If everything moves up and is at its index all the same, there is nothing. -/
theorem nothing_moves (hdrop : ∀ x, keep x = false → f x = []) (k : Nat)
    (h : ∀ i, (xs.map f).getD i [] ≠ [] →
      ((xs.filter keep).map f).getD (i + k + 1) [] = (xs.map f).getD i []) :
    ∀ x ∈ xs, f x = [] := by
  induction xs generalizing k with
  | nil => simp
  | cons a xs ih =>
    have hnext i : (xs.map f).getD i [] ≠ [] → _ := h (i + 1)
    cases hkeep : keep a with
    | true =>
      simp only [filter_cons_of_pos hkeep, map_cons, getD_cons_succ] at h hnext
      have hrest := ih k fun i hi => by simpa [Nat.add_right_comm] using hnext i hi
      refine forall_mem_cons.mpr ⟨?_, hrest⟩
      by_contra hne
      have hfst := h 0 hne
      rw [getD_map_nil fun x hx => hrest x (mem_of_mem_filter hx)] at hfst
      exact hne hfst.symm
    | false =>
      rw [filter_cons_of_neg (Bool.eq_false_iff.mp hkeep)] at hnext
      refine forall_mem_cons.mpr ⟨hdrop a hkeep, ih (k + 1) fun i hi => ?_⟩
      simpa [Nat.add_assoc, Nat.add_comm 1] using hnext i hi

/-- Everything is still at its index if and only if nothing is dropped before it. -/
theorem slotsStay_filter_iff (hdrop : ∀ x, keep x = false → f x = []) :
    SlotsStay (xs.map f) ((xs.filter keep).map f) ↔
      xs.Pairwise fun a b => keep a = false → f b = [] := by
  induction xs with
  | nil => simp [SlotsStay]
  | cons a xs ih =>
    rw [pairwise_cons, ← ih]
    cases hkeep : keep a with
    | true =>
      rw [filter_cons_of_pos hkeep]
      refine ⟨fun h => ⟨by simp, fun i => h (i + 1)⟩, fun h i => ?_⟩
      cases i with
      | zero => exact fun _ => rfl
      | succ i => exact h.2 i
    | false =>
      rw [filter_cons_of_neg (Bool.eq_false_iff.mp hkeep)]
      constructor
      · intro h
        have hnone := nothing_moves hdrop 0 fun i => h (i + 1)
        exact ⟨fun b hb _ => hnone b hb, fun i hi => absurd (getD_map_nil hnone i) hi⟩
      intro h i hi
      have hnone : ∀ x ∈ a :: xs, f x = [] :=
        forall_mem_cons.mpr ⟨hdrop a hkeep, fun b hb => h.1 b hb rfl⟩
      exact absurd (getD_map_nil hnone i) hi

/-- An element is replaced. -/
theorem exists_of_set (hx : xs[n]? = some x) (y : α) :
    ∃ before after, xs = before ++ x :: after ∧ xs.set n y = before ++ y :: after := by
  obtain ⟨hn, rfl⟩ := List.getElem?_eq_some_iff.mp hx
  obtain ⟨before, after, hxs, _, hset⟩ := exists_of_set hn
  exact ⟨before, after, hxs, hset⟩

end

/-! ## What the passes keep -/

/-- The handlers of a group that are not PromptDock's. -/
def foreign (group : Json) : List Json := (handlers group).filter fun h => (hookKind h).isNone

/-- Every group with a foreign handler has its index still: there are the same
foreign handlers. -/
def KeepsForeignGroups (root root' : Json) : Prop :=
  ∀ event, SlotsStay ((groups root event).map foreign) ((groups root' event).map foreign)

section

variable {root root' group : Json} {event : Text} {keep drops : Json → Bool} {s : ManagedHookSpec}
  {i j : Nat}

/-- The handlers of a group are replaced. -/
theorem handlers_insert (h : (group.get hooksKey).isSome = true) {hs : List Json} :
    handlers (group.insert hooksKey (array hs)) = hs := by
  cases group with
  | object => simp [handlers, Json.get, Json.insert, asArray]
  | _ => cases h

/-- Foreign handlers are retained. -/
theorem foreign_retain (hkeep : ∀ h, hookKind h = none → keep h = true) :
    foreign (retain keep group) = foreign group := by
  unfold retain
  split
  · rename_i hs hhooks
    obtain ⟨value, hvalue, _⟩ := Option.bind_eq_some_iff.mp hhooks
    rw [foreign, handlers_insert (by rw [hvalue]; rfl), filter_filter, foreign, handlers, hhooks]
    refine filter_congr fun h _ => ?_
    cases hkind : hookKind h with
    | none => simp [hkeep h hkind]
    | some => rfl
  · rfl

/-- A sweep works event by event. -/
theorem lookup_sweepGroups {events : List (Text × Json)} :
    (events.map fun e => (e.1, sweepGroups keep drops e.2)).lookup event =
      (events.lookup event).map (sweepGroups keep drops) := by
  induction events with
  | nil => rfl
  | cons e events ih =>
    obtain ⟨key, value⟩ := e
    cases hkey : event == key <;> simp [lookup_cons, hkey, ih]

/-- The events of a document are replaced. -/
theorem hookEvents_insert (h : root.asObject.isSome = true) {events : List (Text × Json)} :
    hookEvents (root.insert hooksKey (object events)) = events := by
  cases root with
  | object => simp [hookEvents, Json.get, Json.insert, asObject]
  | _ => cases h

/-- A sweep fails only on documents of another shape. -/
theorem sweep_isSome : (sweep keep drops root).isSome = wellShaped root := by
  unfold sweep
  cases wellShaped root
  · rfl
  · simp only [Bool.not_true, Bool.false_eq_true, if_false]
    split <;> rfl

/-- The groups a sweep leaves. -/
theorem groups_sweep (h : sweep keep drops root = some root') :
    groups root' event = ((groups root event).filter (!drops ·)).map (retain keep) := by
  unfold sweep at h
  split at h
  · cases h
  split at h
  · rename_i hnone
    cases h
    have hevs : hookEvents root = [] := by
      rw [hookEvents, Option.isNone_iff_eq_none.mp hnone]
      rfl
    simp [groups, hevs]
  · rename_i hsome
    cases h
    have hobj : root.asObject.isSome = true := by
      cases root with
      | object => rfl
      | _ => exact absurd rfl hsome
    rw [groups, hookEvents_insert hobj, lookup_sweepGroups, groups]
    cases (hookEvents root).lookup event with
    | none => rfl
    | some value => cases value <;> rfl

/-- A pass drops groups, and takes no foreign handler from the others. -/
theorem foreign_sweep (hkeep : ∀ h, hookKind h = none → keep h = true)
    (h : sweep keep drops root = some root') : (groups root' event).map foreign =
      ((groups root event).filter (!drops ·)).map foreign := by
  rw [groups_sweep h, map_map]
  exact map_congr_left fun group _ => foreign_retain hkeep

/-- Groups are read from an object. -/
theorem eventGroups_eq_some {old : List Json} (h : eventGroups root event = some old) :
    root.asObject.isSome = true ∧ old = groups root event := by
  unfold eventGroups at h
  split at h
  · rename_i hshape
    unfold groups
    generalize (hookEvents root).lookup event = value at h ⊢
    cases value <;> simp_all [asArray]
  · cases h

/-- The groups of one event are changed. -/
theorem setGroups_keeps {new : List Json} (hobj : root.asObject.isSome = true)
    (hnew : SlotsStay ((groups root event).map foreign) (new.map foreign)) :
    KeepsForeignGroups root (setGroups root event new) := by
  intro other
  have hevs : hookEvents (setGroups root event new) = _ := hookEvents_insert hobj
  by_cases hoth : other = event
  · subst hoth
    simpa [groups, hevs, asArray] using hnew
  · simp [groups, hevs, lookup_cons, beq_false_of_ne hoth, SlotsStay]

/-- A handler with a marked command is PromptDock's. -/
theorem hookKind_of_marked (members : List (Text × Json)) :
    hookKind (object (desiredHandler s ++ members)) ≠ none := by
  intro hnone
  have hfind := List.findSome?_eq_none_iff.mp hnone (text "command") (by simp)
  have hnot := List.find?_eq_none.mp hfind s.kind (by cases s.kind <;> decide)
  simp [s.marked.isInfix] at hnot

/-- Appending a hook keeps foreign groups in place. -/
theorem append_keeps (h : append s root = some root') : KeepsForeignGroups root root' := by
  obtain ⟨old, hold, hset⟩ := Option.bind_eq_some_iff.mp h
  cases hset
  obtain ⟨hobj, rfl⟩ := eventGroups_eq_some hold
  refine setGroups_keeps hobj ?_
  rw [map_append]
  exact slotsStay_append _ _

/-- A managed hook is where it was found. -/
theorem managedHookLocation_found {target : ManagedHookKind}
    (h : managedHookLocation root target = some (some (i, j))) :
    ∃ group handler, (groups root target.label)[i]? = some group ∧
      (handlers group)[j]? = some handler ∧ hookKind handler = some target := by
  unfold managedHookLocation at h
  split at h
  · cases h
  · rename_i event group _ _ hplaces
    split at h
    · rename_i hevent
      cases h
      have hmem : (event, group, i, j) ∈ places root target := by simp [hplaces]
      simp only [places, mem_flatMap, mem_filterMap, Prod.exists, mem_zipIdx_iff_getElem?] at hmem
      obtain ⟨_, _, _, _, hgroup, handler, _, hhandler, hfound⟩ := hmem
      split at hfound
      · rename_i hkind
        cases hfound
        exact ⟨group, handler, hevent.1 ▸ hgroup, hhandler, hkind⟩
      · cases hfound
    · cases h
  · cases h

/-- Rewriting a managed hook keeps foreign groups in place. -/
theorem updateAt_keeps (hplace : managedHookLocation root s.kind = some (some (i, j)))
    (h : updateAt s i j root = some root') : KeepsForeignGroups root root' := by
  obtain ⟨group, handler, hgroup, hhandler, hkind⟩ := managedHookLocation_found hplace
  obtain ⟨old, hold, h⟩ := Option.bind_eq_some_iff.mp h
  obtain ⟨hroot, rfl⟩ := eventGroups_eq_some hold
  simp only [Option.bind_eq_bind, hgroup, Option.bind_some, hhandler] at h
  obtain ⟨updated, hupdated, hset⟩ := Option.bind_eq_some_iff.mp h
  cases hset
  have hmanaged : hookKind updated ≠ none := by
    obtain ⟨members, _, hobj⟩ := Option.bind_eq_some_iff.mp hupdated
    cases hobj
    exact hookKind_of_marked _
  have hsome : (group.get hooksKey).isSome = true := by
    cases hget : group.get hooksKey with
    | none => simp [handlers, hget] at hhandler
    | some => rfl
  -- the group is replaced by one with the same foreign handlers
  obtain ⟨before, after, hgroups, hrepl⟩ := exists_of_set hgroup _
  obtain ⟨front, back, hhandlers, hset⟩ := exists_of_set hhandler updated
  have hforeign : foreign (group.insert hooksKey (array ((handlers group).set j updated))) =
      foreign group := by
    rw [foreign, handlers_insert hsome, hset, foreign, hhandlers]
    simp [hkind, hmanaged]
  refine setGroups_keeps hroot ?_
  rw [hrepl, hgroups]
  simp only [map_append, map_cons, hforeign]
  exact fun _ _ => rfl

/-- Reconciling leaves every foreign handler in its group, and the group where it is. -/
theorem reconcile_keeps {desired : List ManagedHookSpec}
    (h : reconcileManagedInPlace root desired = some root') : KeepsForeignGroups root root' := by
  unfold reconcileManagedInPlace at h
  split at h
  · cases h
  obtain ⟨swept, hswept, hplaced⟩ := Option.bind_eq_some_iff.mp h
  have hsame : KeepsForeignGroups root swept := by
    intro event
    rw [foreign_sweep (fun h hkind => by simp [hkind]) hswept]
    simp [SlotsStay]
  refine fun event => (hsame event).trans ?_
  clear h hswept hsame
  induction desired generalizing swept with
  | nil =>
    cases hplaced
    exact fun _ _ => rfl
  | cons s desired ih =>
    obtain ⟨next, hnext, hrest⟩ := Option.bind_eq_some_iff.mp hplaced
    refine SlotsStay.trans ?_ (ih next hrest)
    obtain ⟨location, hlocation, hplace⟩ := Option.bind_eq_some_iff.mp hnext
    cases location with
    | none => exact append_keeps hplace event
    | some => exact updateAt_keeps hlocation hplace event

end

/-- **No operation moves a group with a foreign handler**, unless it is an uninstall
with a group of PromptDock's handlers alone before it. -/
theorem foreign_groups_stay_iff (document : Json) (ops : List HookOp) (op : HookOp) :
    let root := ops.foldl HookOp.apply document
    KeepsForeignGroups root (op.apply root) ↔
      (op = .uninstall → wellShaped root = true → ∀ event,
        (groups root event).Pairwise fun a b => onlyManaged a = true → foreign b = []) := by
  intro root
  cases op with
  | install desired | reconcile desired =>
    refine iff_of_true ?_ nofun
    change KeepsForeignGroups root ((reconcileManagedInPlace root desired).getD root)
    cases hrun : reconcileManagedInPlace root desired with
    | none => exact fun _ _ _ => rfl
    | some => exact reconcile_keeps hrun
  | uninstall =>
    have hok : (removeManaged root).isSome = wellShaped root := sweep_isSome
    change KeepsForeignGroups root ((removeManaged root).getD root) ↔ _
    cases hrun : removeManaged root with
    | none => simp [KeepsForeignGroups, SlotsStay, ← hok, hrun]
    | some root' =>
      have hkept event : (groups root' event).map foreign = _ :=
        foreign_sweep (fun _ hkind => by simp [hkind]) hrun
      have hdrop (group : Json) (h : (!onlyManaged group) = false) : foreign group = [] := by
        simp only [onlyManaged, Bool.not_eq_false', Bool.and_eq_true, all_eq_true] at h
        refine filter_eq_nil_iff.mpr fun handler hmem => ?_
        simpa using Option.isSome_iff_ne_none.mp (h.2 handler hmem)
      simp only [KeepsForeignGroups, Option.getD_some, hkept, ← hok, hrun, Option.isSome_some,
        true_implies]
      exact forall_congr' fun event => by simpa using slotsStay_filter_iff hdrop

/-- PromptDock's group of stop hooks, and another tool's behind it. -/
def sampleHooks : Json :=
  object [(hooksKey, object [(text "Stop", array
    [object [(hooksKey, array [object [(text "command", string (marker .stop))]])],
      object [(hooksKey, array [object [(text "command", string (text "lint"))]])]])])]

/-- After the uninstall the group of the other tool is the first one. -/
theorem foreign_group_moves_up :
    ¬ KeepsForeignGroups sampleHooks (HookOp.uninstall.apply sampleHooks) := by
  intro h
  have hbefore : (((groups sampleHooks (text "Stop")).map foreign).getD 1 []).length = 1 := by
    decide +kernel
  have hafter : (((groups (HookOp.uninstall.apply sampleHooks) (text "Stop")).map foreign).getD 1
      []).length = 0 := by decide +kernel
  rw [h _ 1 (by intro hnil; rw [hnil] at hbefore; cases hbefore), hbefore] at hafter
  cases hafter

end PromptDock.Desktop.Hooks
