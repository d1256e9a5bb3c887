import Reroute.Proofs.Rule.Recording
import Reroute.Proofs.Table

/-!
# Groups behind a test

A test tries single conditions one after the other, each with the setting of tracking that holds at its place: that of
the scratch, or on below a list that turns it on.  The groups that the tries capture are a log of writes, and behind
the test the own groups of every key are those from before with the log replayed (`Condition.follows_test`).  A
regular expression logs the groups of a match that is not negated; a condition of the host logs what it stores.
-/

namespace Reroute

/-! ### Writes -/

/-- Groups that are stored under a key, behind the own groups of the key if they are tracked. -/
structure CaptureWrite where
  key : CaptureKey
  groups : List String
  tracked : Bool
deriving DecidableEq, Repr

namespace CaptureWrite

/-- The own groups of a key behind a write to it. -/
def onto : Option (List String) → CaptureWrite → Option (List String)
  | some groups, write => some (if write.tracked then groups ++ write.groups else write.groups)
  | none, write => some write.groups

/-- The own groups of a key behind a log of writes. -/
def replay (key : CaptureKey) (log : List CaptureWrite) (groups : Option (List String)) : Option (List String) :=
  (log.filter (·.key = key)).foldl onto groups

variable {key : CaptureKey} {groups : Option (List String)}

private theorem replay_append (front back : List CaptureWrite) :
    replay key (front ++ back) groups = replay key back (replay key front groups) := by
  rw [replay, List.filter_append, List.foldl_append]
  rfl

private theorem replay_cons (write : CaptureWrite) (log : List CaptureWrite) :
    replay key (write :: log) groups = replay key log (if write.key = key then onto groups write else groups) := by
  by_cases h : write.key = key
  · rw [replay, List.filter_cons_of_pos (by simpa using h), List.foldl_cons, if_pos h]
    rfl
  · rw [replay, List.filter_cons_of_neg (by simpa using h), if_neg h]
    rfl

end CaptureWrite

private theorem CaptureKey.name_inj {a b : CaptureKey} : a.name = b.name ↔ a = b := by
  cases a <;> cases b <;> decide

namespace Properties

private theorem find?_set (name other : String) (value : Property) (properties : Properties) :
    find? other (set name value properties) = if name = other then some value else find? other properties :=
  (writes_set name value).find? other properties

end Properties

/-! ### Replaying a log -/

/-- A scratch whose groups are those of an earlier one with a log replayed; tracking and the properties around are
the same. -/
structure Scratch.Follows (log : List CaptureWrite) (before after : Scratch) : Prop where
  own : ∀ key, after.ownCaptures? key = CaptureWrite.replay key log (before.ownCaptures? key)
  tracking : after.tracking = before.tracking
  outer : after.bag.outer = before.bag.outer

namespace Scratch

variable {before middle after : Scratch} {front back log : List CaptureWrite}

private theorem Follows.nil (scratch : Scratch) : Follows [] scratch scratch := ⟨fun _ => rfl, rfl, rfl⟩

private theorem Follows.append (hfront : Follows front before middle) (hback : Follows back middle after) :
    Follows (front ++ back) before after where
  own key := by rw [CaptureWrite.replay_append, ← hfront.own, hback.own]
  tracking := hback.tracking.trans hfront.tracking
  outer := hback.outer.trans hfront.outer

/-- What follows a scratch with tracking turned on follows the scratch itself once tracking is set back. -/
private theorem Follows.restored {track : Bool} (h : Follows log (before.pushTracking track) after) :
    Follows log before (after.restoreTracking before.tracking) where
  own := h.own
  tracking := rfl
  outer := h.outer

private theorem ownCaptures?_storeCaptures (scratch : Scratch) (key other : CaptureKey) (groups : List String) :
    (scratch.storeCaptures key groups).ownCaptures? other =
      if key = other then CaptureWrite.onto (scratch.ownCaptures? other) ⟨key, groups, scratch.tracking⟩
      else scratch.ownCaptures? other := by
  simp only [storeCaptures, Bag.set, ownCaptures?, Properties.find?_set, CaptureKey.name_inj]
  by_cases h : key = other
  · subst h
    rw [if_pos rfl, if_pos rfl]
    cases (scratch.bag.own.find? key.name).bind Property.groups? with
    | none => cases scratch.tracking <;> rfl
    | some own => cases scratch.tracking <;> rfl
  · rw [if_neg h, if_neg h]

private theorem follows_storeCaptures (scratch : Scratch) (key : CaptureKey) (groups : List String) :
    Follows [⟨key, groups, scratch.tracking⟩] scratch (scratch.storeCaptures key groups) where
  own other := by
    rw [ownCaptures?_storeCaptures, CaptureWrite.replay_cons]
    rfl
  tracking := rfl
  outer := rfl

end Scratch

/-! ### What a condition captures -/

/-- Stores groups in order, each under its key. -/
def Scratch.storeAll (scratch : Scratch) (stored : List (CaptureKey × List String)) : Scratch :=
  stored.foldl (fun scratch entry => scratch.storeCaptures entry.1 entry.2) scratch

private theorem Scratch.follows_storeAll (stored : List (CaptureKey × List String)) (scratch : Scratch) :
    Follows (stored.map fun entry => ⟨entry.1, entry.2, scratch.tracking⟩) scratch (scratch.storeAll stored) := by
  induction stored generalizing scratch with
  | nil => exact .nil scratch
  | cons entry stored ih =>
    have hfirst := follows_storeCaptures scratch entry.1 entry.2
    exact hfirst.append (ih (scratch.storeCaptures entry.1 entry.2))

/-- A condition of the host that stores groups and leaves all other groups, the setting of tracking and the properties
around as they are. -/
def CustomCondition.StoresOnly (c : CustomCondition) (stored : Request → Scratch → List (CaptureKey × List String)) :
    Prop :=
  ∀ request scratch,
    let after := (c.test request scratch).2
    let expected := scratch.storeAll (stored request scratch)
    (∀ key, after.ownCaptures? key = expected.ownCaptures? key) ∧ after.tracking = expected.tracking ∧
      after.bag.outer = expected.bag.outer

private theorem CustomCondition.StoresOnly.follows {c : CustomCondition}
    {stored : Request → Scratch → List (CaptureKey × List String)} (h : c.StoresOnly stored) (request : Request)
    (scratch : Scratch) :
    Scratch.Follows ((stored request scratch).map fun entry => ⟨entry.1, entry.2, scratch.tracking⟩) scratch
      (c.test request scratch).2 := by
  obtain ⟨hown, htracking, houter⟩ := h request scratch
  have hstored := Scratch.follows_storeAll (stored request scratch) scratch
  exact ⟨fun key => (hown key).trans (hstored.own key), htracking.trans hstored.tracking, houter.trans hstored.outer⟩

/-- The groups that a comparison captures: those of a regular expression that matches and is not negated. -/
def TextMatch.groups? (m : TextMatch) (request : Request) (scratch : Scratch) : Option (List String) :=
  match m.matcher with
  | .regex pattern =>
    if m.negate then none
    else (pattern.captures? (m.value.read request scratch)).map fun groups => groups.map (·.getD "")
  | _ => none

private theorem TextMatch.test_of_groups? (m : TextMatch) (request : Request) (scratch : Scratch) :
    (m.test request scratch).2 =
      match m.groups? request scratch with
      | some groups => scratch.storeCaptures m.key groups
      | none => scratch := by
  cases hmatcher : m.matcher with
  | regex pattern =>
    simp only [test, groups?, hmatcher, Matcher.test]
    cases pattern.captures? (m.value.read request scratch) with
    | none => cases m.negate <;> rfl
    | some groups => cases m.negate <;> rfl
  | _ => simp only [test, groups?, hmatcher, Matcher.test]

/-! ### Tries -/

/-- A single condition that is tried on a scratch, with the setting of tracking at its place. -/
structure Trial where
  condition : Condition
  scratch : Scratch
  tracked : Bool

mutual

/-- The tries of a test, where tracking is on if `tracked` says so or a list around turns it on. -/
def Condition.trials (env : Env) (request : Request) (tracked : Bool) : Condition → Scratch → List Trial
  | .list logic track items, scratch =>
    Condition.trialsUntil env request (tracked || track) logic.decisive items (scratch.pushTracking track)
  | condition, scratch => [⟨condition, scratch, tracked⟩]

/-- The tries of conditions in order, up to the first that has a given result. -/
def Condition.trialsUntil (env : Env) (request : Request) (tracked : Bool) (result : Bool) :
    List Condition → Scratch → List Trial
  | [], _ => []
  | condition :: conditions, scratch =>
    let tested := condition.test env request scratch
    condition.trials env request tracked scratch ++
      if tested.holds = result then []
      else Condition.trialsUntil env request tracked result conditions tested.scratch

end

namespace Trial

/-- The write of a regular expression that matches and is not negated. -/
def matched? (request : Request) (trial : Trial) : Option CaptureWrite :=
  match trial.condition with
  | .text m => (m.groups? request trial.scratch).map fun groups => ⟨m.key, groups, trial.tracked⟩
  | _ => none

/-- The writes of a try, where `stored` says what conditions of the host store. -/
def captured (stored : CustomCondition → Request → Scratch → List (CaptureKey × List String)) (request : Request)
    (trial : Trial) : List CaptureWrite :=
  match trial.condition with
  | .custom c _ => (stored c request trial.scratch).map fun entry => ⟨entry.1, entry.2, trial.tracked⟩
  | _ => (trial.matched? request).toList

/-- What is recorded of a try. -/
def event (env : Env) (request : Request) (trial : Trial) : Event :=
  .condition trial.condition.describe (trial.condition.test env request trial.scratch).holds

end Trial

/-- Whether an event says the result of a single condition. -/
def Event.isCondition : Event → Bool
  | condition .. => true
  | _ => false

namespace Condition

variable {stored : CustomCondition → Request → Scratch → List (CaptureKey × List String)}

private theorem trials_single (env : Env) (request : Request) (tracked : Bool) {condition : Condition}
    (h : condition.IsSingle)
    (scratch : Scratch) : condition.trials env request tracked scratch = [⟨condition, scratch, tracked⟩] := by
  cases condition with
  | list logic track items => exact h.elim
  | _ => rfl

/-- One try: a single condition stores what it captures and touches no other groups. -/
private theorem follows_test_single (env : Env) (request : Request) {condition : Condition} (h : condition.IsSingle)
    (scratch : Scratch) (hlaw : condition.Obeys fun c => c.StoresOnly (stored c)) :
    Scratch.Follows (Trial.captured stored request ⟨condition, scratch, scratch.tracking⟩) scratch
      (condition.test env request scratch).scratch := by
  cases condition with
  | text m =>
    have hafter : ((Condition.text m).test env request scratch).scratch = (m.test request scratch).2 := rfl
    rw [hafter, m.test_of_groups?]
    simp only [Trial.captured, Trial.matched?]
    cases m.groups? request scratch with
    | none => exact .nil scratch
    | some groups => exact Scratch.follows_storeCaptures scratch m.key groups
  | number m => exact .nil scratch
  | file m => exact .nil scratch
  | custom c negate =>
    have hstores : c.StoresOnly (stored c) := hlaw
    exact hstores.follows request scratch
  | list logic track items => exact h.elim

mutual

/-- A test leaves the groups from before with the writes of its tries replayed. -/
theorem follows_test (env : Env) (request : Request) : ∀ (condition : Condition) (scratch : Scratch),
    condition.Obeys (fun c => c.StoresOnly (stored c)) →
      Scratch.Follows ((condition.trials env request scratch.tracking scratch).flatMap (Trial.captured stored request))
        scratch (condition.test env request scratch).scratch
  | .list logic track items, scratch, h =>
    (follows_meets env request logic.decisive items (scratch.pushTracking track) h).restored
  | .text _, scratch, h | .number _, scratch, h | .file _, scratch, h | .custom _ _, scratch, h => by
    rw [trials_single env request scratch.tracking (by trivial), List.flatMap_singleton]
    exact follows_test_single env request (by trivial) scratch h

private theorem follows_meets (env : Env) (request : Request) (result : Bool) :
    ∀ (conditions : List Condition) (scratch : Scratch),
      AllObey (fun c => c.StoresOnly (stored c)) conditions →
        Scratch.Follows ((trialsUntil env request scratch.tracking result conditions scratch).flatMap
          (Trial.captured stored request)) scratch (meets env request result conditions scratch).scratch
  | [], scratch, _ => .nil scratch
  | condition :: conditions, scratch, h => by
    have hfirst := follows_test env request condition scratch h.1
    rw [trialsUntil, List.flatMap_append, meets]
    split
    · rw [List.flatMap_nil, List.append_nil]
      exact hfirst
    · have hrest := follows_meets env request result conditions (condition.test env request scratch).scratch h.2
      rw [hfirst.tracking] at hrest
      exact hfirst.append hrest

end

/-- One try is recorded by its result. -/
private theorem tried_test_single {env : Env} (henv : env.Records) (request : Request) (tracked : Bool)
    {condition : Condition} (h : condition.IsSingle) (scratch : Scratch) :
    Note.select Event.isCondition (condition.test env request scratch).notes =
      [Trial.event env request ⟨condition, scratch, tracked⟩] := by
  have hresult : ∀ (holds : Bool) (after : Scratch) {notes : List Note}, Note.events notes = [] →
      Note.select Event.isCondition (reportResult env condition holds after notes).notes =
        [.condition condition.describe holds] := by
    intro holds after notes hnotes
    rw [reportResult, Note.select_append, Note.select_of_events hnotes, Note.select_report henv rfl, List.nil_append]
  cases condition with
  | text m => exact hresult _ _ rfl
  | number m => exact hresult _ _ rfl
  | file m => exact hresult _ _ (m.events_test env request scratch)
  | custom c negate => exact hresult _ _ rfl
  | list logic track items => exact h.elim

mutual

/-- A recording test records its tries, in order and no others. -/
private theorem tried_test {env : Env} (henv : env.Records) (request : Request) (tracked : Bool) :
    ∀ (condition : Condition) (scratch : Scratch),
      Note.select Event.isCondition (condition.test env request scratch).notes =
        (condition.trials env request tracked scratch).map (Trial.event env request)
  | .list logic track items, scratch => by
    have hbegin := Note.select_report_other Event.isCondition env (.conditionListBegin logic.name) rfl
    have hitems := tried_meets henv request (tracked || track) logic.decisive items (scratch.pushTracking track)
    have hend := fun holds => Note.select_report_other Event.isCondition env (.conditionListEnd logic.name holds) rfl
    simp only [test, Note.select_append, hbegin, hitems, hend, List.nil_append, List.append_nil]
    rfl
  | .text _, scratch | .number _, scratch | .file _, scratch | .custom _ _, scratch => by
    rw [trials_single env request tracked (by trivial)]
    exact tried_test_single henv request tracked (by trivial) scratch

private theorem tried_meets {env : Env} (henv : env.Records) (request : Request) (tracked : Bool) (result : Bool) :
    ∀ (conditions : List Condition) (scratch : Scratch),
      Note.select Event.isCondition (meets env request result conditions scratch).notes =
        (trialsUntil env request tracked result conditions scratch).map (Trial.event env request)
  | [], _ => rfl
  | condition :: conditions, scratch => by
    have hfirst := tried_test henv request tracked condition scratch
    rw [trialsUntil, List.map_append, meets]
    split
    · rw [List.map_nil, List.append_nil]
      exact hfirst
    · rw [Note.select_append, hfirst, tried_meets henv request tracked result conditions]

end

end Condition

/-! ### Groups behind a test -/

/-- Own groups are seen before those of the rules around, of which the nearest count. -/
private theorem Scratch.captures?_eq (scratch : Scratch) (key : CaptureKey) :
    scratch.captures? key = (scratch.ownCaptures? key).or
      (scratch.bag.outer.findSome? fun properties => (Properties.find? key.name properties).bind Property.groups?) := by
  rw [captures?, Bag.get?, List.findSome?_cons, ownCaptures?]
  cases (Properties.find? key.name scratch.bag.own).bind Property.groups? <;> rfl

namespace Condition

/-- The groups behind a test.  The log holds the groups of every regular expression that was tried, matched and is not
negated, and what conditions of the host stored, in order; the tries are those that a recording test reports.  It is
replayed on the own groups of each key; tracking and the groups around are as before, and are seen where there are no
own groups. -/
theorem captures_follow_tries (stored : CustomCondition → Request → Scratch → List (CaptureKey × List String))
    (env : Env) (request : Request) (condition : Condition) (scratch : Scratch)
    (hstored : condition.Obeys fun c => c.StoresOnly (stored c)) :
    let tested := condition.test env request scratch
    let tries := condition.trials env request scratch.tracking scratch
    let log := tries.flatMap (Trial.captured stored request)
    (∀ key, tested.scratch.ownCaptures? key = CaptureWrite.replay key log (scratch.ownCaptures? key)) ∧
      tested.scratch.tracking = scratch.tracking ∧
      tested.scratch.bag.outer = scratch.bag.outer ∧
      (∀ key, tested.scratch.captures? key = (CaptureWrite.replay key log (scratch.ownCaptures? key)).or
        (scratch.bag.outer.findSome? fun properties => (Properties.find? key.name properties).bind Property.groups?)) ∧
      (env.Records → Note.select Event.isCondition tested.notes = tries.map (Trial.event env request)) := by
  intro tested tries log
  have hfollows := follows_test env request condition scratch hstored
  refine ⟨hfollows.own, hfollows.tracking, hfollows.outer, ?_, ?_⟩
  · intro key
    rw [Scratch.captures?_eq, hfollows.own, hfollows.outer]
  · intro hrecords
    exact tried_test hrecords request scratch.tracking condition scratch

/-- A condition of the host that stores two groups. -/
def grab : CustomCondition := ⟨"grab", fun _ scratch => (true, scratch.storeCaptures .fromConditions ["a", "b"])⟩

/-- Matches of regular expressions are not all that stores groups. -/
theorem captures_beyond_matches :
    let env : Env := ⟨.execute, "/www", .discard, fun _ => .ok .file⟩
    let request := Request.ofUrl "/"
    let log := ((custom grab false).trials env request Scratch.start.tracking .start).filterMap (Trial.matched? request)
    ((custom grab false).test env request .start).scratch.ownCaptures? .fromConditions ≠
      CaptureWrite.replay .fromConditions log (Scratch.start.ownCaptures? .fromConditions) := by
  decide

/-- A comparison of a value with a slash and a word, whose second group is the word. -/
def wordIn (value : Value) (key : CaptureKey) : Condition :=
  let word : Regex.Node := .group (some 1) (.repetition 1 none true (.char (.range 'a' 'z')))
  let pattern : Regex.Pattern := ⟨"/([a-z]+)", .ofNode (.concat [.char (.single '/'), word])⟩
  .text ⟨value, .regex, "/([a-z]+)", .regex pattern, false, false, key⟩

/-- Conditions of which one must hold, with all groups kept: a list that captures and still fails, a negated condition
of the host, a comparison of what has been captured, and one that is not looked at. -/
def capturing : Condition :=
  let path : Value := .getter ⟨.path, .nothing, []⟩
  .list .matchAny true [
    .list .matchAll false [wordIn path .fromConditions, .number ⟨.literal "1", .equals, 2, 0, false⟩],
    .custom grab true,
    wordIn (.getter (.capture .fromConditions 1)) .fromMatch,
    wordIn path .fromConditions]

theorem captures_follow_tries_capturing :
    let env : Env := ⟨.both, "/www", .record, fun _ => .ok .file⟩
    let before : Scratch :=
      ⟨false, false, false, false, false, ⟨[("C", .groups ["0"])], [[("R", .groups ["outer"])]]⟩⟩
    let after := (capturing.test env (.ofUrl "/old/new") before).scratch
    capturing.Obeys (fun c => c.StoresOnly fun _ _ => [(.fromConditions, ["a", "b"])]) ∧
      after.ownCaptures? .fromConditions = some ["0", "/old", "old", "a", "b"] ∧
      after.captures? .fromMatch = some ["/old", "old"] ∧ before.captures? .fromMatch = some ["outer"] ∧
      after.tracking = false := by
  intro env before after
  have hstored : capturing.Obeys fun c => c.StoresOnly fun _ _ => [(.fromConditions, ["a", "b"])] := by
    simp only [capturing, wordIn, Obeys, AllObey, and_true, true_and]
    exact fun _ _ => ⟨fun _ => rfl, rfl, rfl⟩
  obtain ⟨hown, htracking, -, hseen, -⟩ := captures_follow_tries (fun _ _ _ => [(.fromConditions, ["a", "b"])]) env
    (.ofUrl "/old/new") capturing before hstored
  refine ⟨hstored, ?_, ?_, rfl, htracking⟩
  · rw [hown]
    decide +kernel
  · rw [hseen]
    decide +kernel

end Condition

end Reroute
