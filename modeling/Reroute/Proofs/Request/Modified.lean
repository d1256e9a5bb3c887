import Reroute.Engine
import Reroute.Proofs.Request.Received

/-!
# The mark of a changed request

A request is marked as modified by whatever writes it.  A change either raises the mark or leaves everything but the
queue as it was, and none takes the mark back (`Change.marked`); so an engine that reports no modification left the
request as it arrived (`Engine.unmodified_process`).
-/

namespace Reroute

namespace Request

/-- The mark is never taken back, and without it only the queue differs. -/
structure Marked (a b : Request) : Prop where
  stays : a.modified = true → b.modified = true
  unmarked : b.modified = false → b = a.withQueue b.deferred

private theorem Marked.refl (a : Request) : a.Marked a := ⟨id, fun _ => rfl⟩

private theorem Marked.trans {a b c : Request} (h : a.Marked b) (h' : b.Marked c) : a.Marked c where
  stays := h'.stays ∘ h.stays
  unmarked hc := by
    have hcb : c = b.withQueue c.deferred := h'.unmarked hc
    have hb : b.modified = false := by
      rw [hcb] at hc
      exact hc
    calc c = b.withQueue c.deferred := hcb
      _ = (a.withQueue b.deferred).withQueue c.deferred := by rw [← h.unmarked hb]
      _ = a.withQueue c.deferred := rfl

/-- A change that raises the mark. -/
private theorem Marked.of_modified {a b : Request} (h : b.modified = true) : a.Marked b where
  stays _ := h
  unmarked hb := by simp [h] at hb

theorem Change.marked {a b : Request} (h : a.Change b) : a.Marked b := by
  cases h with
  | none => exact .refl a
  | queued queue => exact ⟨id, fun _ => rfl⟩
  | path | parameters | queryText | url | headers | serverVariables => exact .of_modified rfl

private theorem Reaches.marked {allowed : Action → Request → Scratch → Prop} {start reached : Request}
    (h : start.Reaches allowed reached) : start.Marked reached :=
  h.related Marked.refl Marked.trans Change.marked

end Request

namespace Engine

/-- A verdict without modification is true to the request, and wherever a request is modified it stays so. -/
theorem unmodified_process (engine : Engine) {request : Request} (hfresh : request.Fresh)
    (hactions : engine.rules.root.Obeys .ownActions) :
    ((engine.process request).verdict.modified = false →
        let left := (engine.process request).request
        left.path = request.path ∧ left.query = request.query ∧ left.pathText = request.pathText ∧
          left.queryText = request.queryText ∧ left.headers.live = request.headers.live ∧
          left.serverVariables.live = request.serverVariables.live ∧
          (engine.process request).verdict.newUrl = request.receivedUrl) ∧
      ∀ changed later : Request, changed.Reaches Request.anyAction later →
        changed.modified = true → later.modified = true := by
  refine ⟨?_, fun changed later hlater => hlater.marked.stays⟩
  intro hmodified left
  have hmarked := (RuleList.reaches_walk engine.env none engine.rules.root request hactions).marked
  have hwalked := hmarked.unmarked hmodified
  have hurl : (engine.process request).verdict.newUrl = request.url := by
    simp only [process]
    rw [hwalked, Request.url_withQueue]
  have hleft : left = request.withQueue [] := by
    simp only [left, process, Request.takeDeferred]
    rw [hwalked]
    rfl
  rw [hleft, hurl, hfresh.untouched.url_eq]
  exact ⟨rfl, rfl, rfl, rfl, rfl, rfl, rfl⟩

/-- An engine whose only rule performs much and writes nothing: what it deletes is not there, what it keeps is all
that is there, and the redirect waits in the queue. -/
def idle : Engine :=
  ⟨⟨⟨"root", false, [⟨"idle", false, false, some (.number ⟨.literal "1", .equals, 1, 0, false⟩),
      some (.sequence [
        .delete (.header "x-tag"),
        .replace (.pathElement 7) (.literal "c"),
        .keep (.parameters ["x"]),
        .truncate 2,
        .redirect (.make none .permanent)])⟩]⟩, []⟩,
    ⟨.execute, "/www", .discard, fun _ => .ok .file⟩⟩

theorem unmodified_process_idle :
    let arrived := Request.ofUrl "/a/b?X=1&&x=2"
    arrived.Fresh ∧ idle.rules.root.Obeys .ownActions ∧
      ((idle.process arrived).verdict.modified = false ∧ (idle.process arrived).verdict.matched = true) ∧
      (idle.process arrived).request.queryText = "X=1&&x=2" ∧
      (idle.process arrived).verdict.newUrl = "/a/b?X=1&&x=2" ∧
      ((arrived.setUrl "/c").delete (.parameter "x")).modified = true := by
  have hfresh : (Request.ofUrl "/a/b?X=1&&x=2").Fresh := .ofUrl _
  have hactions : idle.rules.root.Obeys .ownActions := by
    simp only [idle, RuleList.Obeys, Rule.AllObey, Rule.Obeys, Condition.Obeys, Action.Obeys, Action.AllObey, and_self]
  have h := unmodified_process idle hfresh hactions
  have hmodified : (idle.process (.ofUrl "/a/b?X=1&&x=2")).verdict.modified = false := by decide +kernel
  obtain ⟨-, -, -, hquery, -, -, hurl⟩ := h.1 hmodified
  refine ⟨hfresh, hactions, ⟨hmodified, by decide +kernel⟩, hquery.trans (by decide), hurl.trans (by decide), ?_⟩
  refine h.2 ((Request.ofUrl "/a/b?X=1&&x=2").setUrl "/c") _ ?_ rfl
  exact Action.reaches_perform_single idle.env (.delete (.parameter "x")) trivial _ .start

end Engine

end Reroute
