import RequestBook.Proofs.Execution

/-! What a session remembers. Whatever is done in a session, each exchange in its store is the one
that was captured last under its name since the store was emptied. Exchanges are captured directly or
by executions that succeed; nothing else changes the store. -/
namespace RequestBook.Session

/-- Something done in a session. The surroundings may be different each time. -/
inductive Operation where
  | prepare (outside : Surroundings) (d : Document) (index : Nat)
  | execute (world : World) (d : Document) (index : Nat)
  | run (world : World) (d : Document)
  | reset
  | capture (name : String) (exchange : Exchange)

inductive Event where
  | captured (name : String) (exchange : Exchange)
  | forgotten
  deriving DecidableEq

namespace Event

def ofPair (pair : String × Exchange) : Event := .captured pair.1 pair.2

def isCapture : Event → Bool
  | .captured _ _ => true
  | .forgotten => false

def under? (name : String) : Event → Option Exchange
  | .captured other exchange => if storeKey other = storeKey name then some exchange else none
  | .forgotten => none

def apply (store : Store) : Event → Store
  | .captured name exchange => store.capture name exchange
  | .forgotten => .empty

end Event

/-- The exchange of the most recent capture under a name since the exchanges were last forgotten. -/
def latest? (name : String) (events : List Event) : Option Exchange :=
  (events.reverse.takeWhile Event.isCapture).findSome? (Event.under? name)

section

variable (settings : Settings)

/-- The session after an operation. -/
def perform (s : Session) : Operation → Session
  | .prepare _ _ _ => s
  | .execute world d index => (execute settings world s d index).1
  | .run world d => (run settings world s d).1
  | .reset => s.reset
  | .capture name exchange => s.capture name exchange

def runExecutions (world : World) (s : Session) (d : Document) : List Execution :=
  match d.order with
  | .ok order => executions settings world d s order
  | .error _ => []

/-- What an operation captures and forgets. An execution captures if it succeeds and its request has
a name, whether alone or in a run. -/
def eventsOf (s : Session) : Operation → List Event
  | .prepare _ _ _ => []
  | .execute world d index => (((execution settings world d s index).captured? d).map Event.ofPair).toList
  | .run world d => ((runExecutions settings world s d).filterMap (Execution.captured? d)).map Event.ofPair
  | .reset => [.forgotten]
  | .capture name exchange => [.captured name exchange]

def history (s : Session) : List Operation → List Event
  | [] => []
  | op :: rest => eventsOf settings s op ++ history (perform settings s op) rest

end

theorem latest?_forgotten (name : String) (events : List Event) :
    latest? name (events ++ [.forgotten]) = none := by
  simp [latest?, Event.isCapture]

theorem latest?_captured (name other : String) (exchange : Exchange) (events : List Event) :
    latest? name (events ++ [.captured other exchange]) =
      if storeKey other = storeKey name then some exchange else latest? name events := by
  by_cases same : storeKey other = storeKey name <;>
    simp [latest?, List.takeWhile_cons, Event.isCapture, Event.under?, same]

theorem foldl_apply_ofPair (store : Store) (pairs : List (String × Exchange)) :
    (pairs.map Event.ofPair).foldl Event.apply store = store.insertAll pairs := by
  rw [List.foldl_map]
  rfl

/-- The store that events lead to holds the latest exchange of each name. -/
theorem get?_foldl_apply (events : List Event) (name : String) :
    (events.foldl Event.apply .empty).get? name = latest? name events := by
  induction events using List.reverseRecOn with
  | nil => rfl
  | append_singleton events event ih =>
    rw [List.foldl_append, List.foldl_cons, List.foldl_nil]
    cases event with
    | forgotten =>
      rw [latest?_forgotten]
      rfl
    | captured other exchange =>
      rw [latest?_captured, Event.apply, Store.capture, Roster.get?_insert, ih]

section Perform

variable {settings : Settings}

theorem store_run (world : World) (s : Session) (d : Document) :
    (run settings world s d).1.store =
      s.store.insertAll ((runExecutions settings world s d).filterMap (Execution.captured? d)) := by
  cases ordered : d.order with
  | error e => simp [run, runExecutions, ordered]
  | ok order =>
    have follows : Follows settings world d s (executions settings world d s order) :=
      follows_executions s order
    rw [run_leaves ordered, follows.store_left, runExecutions, ordered]

theorem store_perform (s : Session) (op : Operation) :
    (perform settings s op).store = (eventsOf settings s op).foldl Event.apply s.store := by
  cases op with
  | prepare outside d index => rfl
  | execute world d index =>
    refine (store_execution s index).trans ?_
    rw [← foldl_apply_ofPair]
    cases found : (execution settings world d s index).captured? d <;> simp [eventsOf, found]
  | run world d => exact (store_run world s d).trans (foldl_apply_ofPair _ _).symm
  | reset => rfl
  | capture name exchange => rfl

theorem store_foldl_perform (s : Session) (ops : List Operation) :
    (ops.foldl (perform settings) s).store = (history settings s ops).foldl Event.apply s.store := by
  induction ops generalizing s with
  | nil => rfl
  | cons op rest ih => rw [List.foldl_cons, ih, store_perform, history, List.foldl_append]

end Perform

/-- What an execution does to the store, and when it sends nothing. -/
structure Captures (settings : Settings) (world : World) (s : Session) (d : Document) (index : Nat) :
    Prop where
  failed : ∀ e, (execute settings world s d index).2 = .error e →
    (execute settings world s d index).1.store = s.store
  unnamed : (d.requests[index]?).bind Request.name = none →
    (execute settings world s d index).1.store = s.store
  /-- what was sent and what came back are captured under the name of the request -/
  named : ∀ name response, (d.requests[index]?).bind Request.name = some name →
    (execute settings world s d index).2 = .ok response →
    ∃ prepared, prepare settings (world s.sent) s.store d index = .ok prepared ∧
      (world s.sent).send prepared = .ok response ∧
      (execute settings world s d index).1.store = s.store.capture name
        { status := response.status
          responseBody := bodyText response.body
          responseHeaders := response.headers
          requestBody := prepared.body.map bodyText
          requestHeaders := prepared.headers }
  /-- a request that cannot be prepared is not sent -/
  unsent : ∀ e, prepare settings (world s.sent) s.store d index = .error e →
    execute settings world s d index = (s, .error e)

theorem captures_execute (settings : Settings) (world : World) (s : Session) (d : Document)
    (index : Nat) : Captures settings world s d index := by
  rcases execute_cases settings world s d index with
    ⟨e, unready, ends⟩ | ⟨prepared, e, ready, _, ends⟩ | ⟨prepared, response, ready, answer, ends⟩
  · refine ⟨by simp [ends], by simp [ends], by simp [ends], ?_⟩
    intro e' other
    rw [unready] at other
    cases other
    exact ends
  · exact ⟨by simp [ends], by simp [ends], by simp [ends], by simp [ready]⟩
  · refine ⟨by simp [ends], ?_, ?_, by simp [ready]⟩
    · intro unnamed
      simp [ends, unnamed]
    · intro name response' named same
      rw [ends] at same
      cases same
      refine ⟨prepared, ready, answer, ?_⟩
      rw [ends, named]
      rfl

/-- A run keeps what the executions captured that succeeded; if it fails, these are all but the
last. -/
theorem store_of_failed_run {settings : Settings} {world : World} {s : Session} {d : Document}
    {e : RequestError} (failed : (run settings world s d).2 = .error e) :
    ((∃ error, d.order = .error error) ∧ (run settings world s d).1 = s) ∨
    ∃ earlier x, runExecutions settings world s d = earlier ++ [x] ∧ x.result = .error e ∧
      (∀ y ∈ earlier, y.Succeeds) ∧
      (run settings world s d).1.store = s.store.insertAll (earlier.filterMap (Execution.captured? d)) := by
  cases ordered : d.order with
  | error error => exact .inl ⟨⟨error, rfl⟩, by simp [run, ordered]⟩
  | ok order =>
    obtain ⟨earlier, x, eq, ending⟩ := run_fails ordered failed
    have all : runExecutions settings world s d = earlier ++ [x] := by simp [runExecutions, ordered, eq]
    have nothing : x.captured? d = none := by simp [Execution.captured?, ending]
    refine .inr ⟨earlier, x, all, ending, (executions_split eq).1, ?_⟩
    rw [store_run, all]
    simp [nothing]

/-- After any operations the store holds the latest exchange of each name. Only executions that
succeed and direct captures add to it; a run that fails keeps what was captured before. -/
theorem get?_eq_latest (settings : Settings) :
    (∀ ops name, (ops.foldl (perform settings) start).store.get? name =
      latest? name (history settings start ops)) ∧
    (∀ world s d index, Captures settings world s d index) ∧
    ∀ world s d e, (run settings world s d).2 = .error e →
      ((∃ error, d.order = .error error) ∧ (run settings world s d).1 = s) ∨
      ∃ earlier x, runExecutions settings world s d = earlier ++ [x] ∧ x.result = .error e ∧
        (∀ y ∈ earlier, y.Succeeds) ∧
        (run settings world s d).1.store =
          s.store.insertAll (earlier.filterMap (Execution.captured? d)) := by
  refine ⟨fun ops name => ?_, captures_execute settings, fun _ _ _ _ => store_of_failed_run⟩
  rw [store_foldl_perform, start, get?_foldl_apply]

/-- Only so many requests are answered, each with the number of requests sent before it. -/
def answeringFirst (count : Nat) : World := fun sent =>
  { Surroundings.closed with
    send := fun _ =>
      if sent.length < count then .ok ⟨200, .empty, Text.encode (Text.natText sent.length)⟩
      else .error .timeout }

def threeNames : Document :=
  { Document.empty "book" with
    requests := [
      { Request.ofLine "POST" "https://[::1]/a" 1 with name := some "a", body := some (.inline "x") },
      { Request.ofLine "GET" "https://[::1]/b" 2 with name := some "B" },
      { Request.ofLine "GET" "https://[::1]/c" 3 with name := some "c" }] }

theorem order_threeNames : threeNames.order = .ok [0, 1, 2] := by cbv

/-- A direct capture and an execution before a reset, and two direct captures behind it. -/
def beforehand : List Operation :=
  [.capture "D" ⟨200, "old", .empty, none, .empty⟩, .execute (answeringFirst 3) threeNames 1, .reset,
    .capture "A" ⟨404, "old", .empty, none, .empty⟩, .capture "C" ⟨404, "kept", .empty, none, .empty⟩]

/-- Then a run whose last request is not answered, and operations that capture nothing. -/
def interrupted : List Operation :=
  beforehand ++ [.run (answeringFirst 3) threeNames, .prepare .closed threeNames 0,
    .execute (fun _ => .closed) threeNames 3]

theorem history_interrupted : history .standard start interrupted =
    [.captured "D" ⟨200, "old", .empty, none, .empty⟩, .captured "B" ⟨200, "0", .empty, none, .empty⟩,
      .forgotten, .captured "A" ⟨404, "old", .empty, none, .empty⟩,
      .captured "C" ⟨404, "kept", .empty, none, .empty⟩,
      .captured "a" ⟨200, "1", .empty, some "x", .empty⟩,
      .captured "B" ⟨200, "2", .empty, none, .empty⟩] := by
  simp only [interrupted, beforehand, List.cons_append, List.nil_append, history, eventsOf, perform,
    runExecutions, order_threeNames, run_eq order_threeNames]
  decide +kernel

/-- The run replaces what was captured directly, its request that fails does not, and what was captured
before the reset is gone. -/
theorem get?_interrupted :
    let world := answeringFirst 3
    let opened := beforehand.foldl (perform .standard) start
    let s := interrupted.foldl (perform .standard) start
    s.store.get? "A" = some ⟨200, "1", .empty, some "x", .empty⟩ ∧
    s.store.get? "b" = some ⟨200, "2", .empty, none, .empty⟩ ∧
    s.store.get? "c" = some ⟨404, "kept", .empty, none, .empty⟩ ∧ s.store.get? "d" = none ∧
    (execute .standard world start threeNames 0).2 = .ok ⟨200, .empty, [48]⟩ ∧
    (execute .standard world start threeNames 0).1.store =
      start.store.capture "a" ⟨200, "0", .empty, some "x", .empty⟩ ∧
    (run .standard world opened threeNames).2 = .error .timeout ∧
    ∃ earlier x, runExecutions .standard world opened threeNames = earlier ++ [x] ∧
      x.result = .error .timeout ∧ (∀ y ∈ earlier, y.Succeeds) ∧
      (run .standard world opened threeNames).1.store =
        opened.store.insertAll (earlier.filterMap (Execution.captured? threeNames)) := by
  intro world opened s
  obtain ⟨latest, captures, runs⟩ := get?_eq_latest .standard
  have succeeds : (execute .standard world start threeNames 0).2 = .ok ⟨200, .empty, [48]⟩ := by
    decide +kernel
  have failed : (run .standard world opened threeNames).2 = .error .timeout := by
    rw [run_eq order_threeNames]
    decide +kernel
  have found (name : String) : s.store.get? name = latest? name (history .standard start interrupted) :=
    latest interrupted name
  rw [history_interrupted] at found
  refine ⟨?_, ?_, ?_, ?_, succeeds, ?_, failed, ?_⟩
  · rw [found]
    decide
  · rw [found]
    decide
  · rw [found]
    decide
  · rw [found]
    decide
  · obtain ⟨prepared, ready, -, stored⟩ := (captures world start threeNames 0).named "a" _ rfl succeeds
    have shown : prepare .standard (world start.sent) start.store threeNames 0 =
        .ok ⟨"POST", "https://[::1]/a", .empty, some [120]⟩ := by decide +kernel
    rw [shown] at ready
    cases ready
    rw [stored]
    decide +kernel
  · refine (runs world opened threeNames _ failed).resolve_left ?_
    rintro ⟨⟨e, unordered⟩, -⟩
    rw [order_threeNames] at unordered
    cases unordered

end RequestBook.Session
