import RequestBook.Proofs.Independence
import RequestBook.Proofs.Lines
import RequestBook.Proofs.Schedule

/-! Executing requests one after the other. A run of a document is the list of its executions, each
of which meets the session that the one before it left. They follow the order of the document and
end at the first failure. When a request is prepared, all that it reads from has been executed and
captured before. -/
namespace RequestBook

theorem Roster.contains_insertAll {key : String → String} {α : Type} (roster : Roster key α)
    {pairs : List (String × α)} {name : String}
    (known : roster.contains name = true ∨ ∃ pair ∈ pairs, key pair.1 = key name) :
    (roster.insertAll pairs).contains name = true := by
  induction pairs generalizing roster with
  | nil =>
    rcases known with inside | ⟨pair, member, _⟩
    · exact inside
    · cases member
  | cons pair rest ih =>
    refine ih (roster.insert pair.1 pair.2) ?_
    by_cases same : key pair.1 = key name
    · exact .inl (by simp [contains, get?_insert, same])
    · rcases known with inside | ⟨other, member, found⟩
      · exact .inl (by simpa [contains, get?_insert, same] using inside)
      · rcases List.mem_cons.mp member with rfl | later
        · exact absurd found same
        · exact .inr ⟨other, later, found⟩

/-- The name that a line gives to a request is an identifier. -/
theorem Line.ascii_of_nameDirective {table : MethodTable} {line : List Char} {name : String}
    (kind : Line.classify table line = .nameDirective name) : Text.Ascii name.toList := by
  obtain ⟨_, _, read⟩ := readIdentifier_of_nameDirective kind
  exact Text.ascii_of_readIdentifier read

theorem Block.ascii_name {table : MethodTable} {b : Block} {own : Variables} {r : Request}
    {name : String} (read : b.request? table own = some r) (named : r.name = some name) :
    Text.Ascii name.toList := by
  obtain ⟨opening, _, rfl⟩ := Option.map_eq_some_iff.mp read
  obtain ⟨line, _, directive⟩ := List.mem_filterMap.mp (List.mem_of_getLast? named)
  exact Line.ascii_of_nameDirective (classify_of_directive? directive)

/-- The names of requests that were read are identifiers. -/
theorem Document.ascii_name_of_parse {table : MethodTable} {path content : String} {d : Document}
    (parsed : Document.parse table path content = .ok d) {r : Request} (member : r ∈ d.requests)
    {name : String} (named : r.name = some name) : Text.Ascii name.toList := by
  obtain ⟨b, own, file, bare, read, rfl⟩ := block_of_parse parsed member
  exact Block.ascii_name read named

/-- The names that a request reads from are those of references. -/
theorem Document.ascii_of_mem_dependsOn {table : MethodTable} {path content : String} {d : Document}
    (parsed : Document.parse table path content = .ok d) {r : Request} (member : r ∈ d.requests)
    {name : String} (inside : name ∈ r.dependsOn) : Text.Ascii name.toList := by
  obtain ⟨names, _⟩ := Document.dependsOn_of_parse parsed member
  rw [names] at inside
  exact ascii_of_refers (refers_of_mem_dependencies inside)

theorem Document.named_of_indexOf? {d : Document} {name : String} {index : Nat}
    (found : d.indexOf? name = some index) :
    ∃ r own, d.requests[index]? = some r ∧ r.name = some own ∧ sameName name own = true := by
  obtain ⟨inside, named, _⟩ := List.findIdx?_eq_some_iff_getElem.mp found
  cases has : d.requests[index].name with
  | none => simp [Request.isNamed, has] at named
  | some own => exact ⟨_, own, List.getElem?_eq_getElem inside, has, by simpa [Request.isNamed, has] using named⟩

namespace Session

/-- What an execution can do: it fails before anything is sent, or the request is sent and the
answer is a failure, or there is a response, which is captured if the request has a name. -/
theorem execute_cases (settings : Settings) (world : World) (s : Session) (d : Document) (index : Nat) :
    (∃ e, prepare settings (world s.sent) s.store d index = .error e ∧
      execute settings world s d index = (s, .error e)) ∨
    (∃ prepared e, prepare settings (world s.sent) s.store d index = .ok prepared ∧
      (world s.sent).send prepared = .error e ∧
      execute settings world s d index = ({ s with sent := s.sent ++ [prepared] }, .error e)) ∨
    ∃ prepared response, prepare settings (world s.sent) s.store d index = .ok prepared ∧
      (world s.sent).send prepared = .ok response ∧
      execute settings world s d index =
        (⟨s.store.insertAll (((d.requests[index]?).bind Request.name).map
          (·, exchangeOf prepared response)).toList, s.sent ++ [prepared]⟩, .ok response) := by
  cases ready : prepare settings (world s.sent) s.store d index with
  | error e => exact .inl ⟨e, rfl, by simp [execute, ready]⟩
  | ok prepared =>
    cases answer : (world s.sent).send prepared with
    | error e => exact .inr (.inl ⟨prepared, e, rfl, answer, by simp [execute, ready, answer]⟩)
    | ok response =>
      refine .inr (.inr ⟨prepared, response, rfl, answer, ?_⟩)
      cases named : (d.requests[index]?).bind Request.name with
      | none => simp [execute, ready, answer, named]
      | some name =>
        simp only [execute, ready, answer, named]
        rfl

/-- An execution: the request at an index, the session it met, what was ready to send, the session
it left and how it ended. -/
structure Execution where
  index : Nat
  before : Session
  prepared : Except RequestError Prepared
  after : Session
  result : Except RequestError Response

def execution (settings : Settings) (world : World) (d : Document) (s : Session) (index : Nat) :
    Execution where
  index := index
  before := s
  prepared := prepare settings (world s.sent) s.store d index
  after := (execute settings world s d index).1
  result := (execute settings world s d index).2

namespace Execution

def Succeeds (x : Execution) : Prop := ∃ response, x.result = .ok response

def captured? (d : Document) (x : Execution) : Option (String × Exchange) :=
  match (d.requests[x.index]?).bind Request.name, x.prepared, x.result with
  | some name, .ok prepared, .ok response => some (name, exchangeOf prepared response)
  | _, _, _ => none

end Execution

section

variable (settings : Settings) (world : World) (d : Document)

/-- The executions of requests one after the other, up to the first that fails. -/
def executions (s : Session) : List Nat → List Execution
  | [] => []
  | index :: rest =>
    let x := execution settings world d s index
    match x.result with
    | .ok _ => x :: executions x.after rest
    | .error _ => [x]

/-- Each execution meets the session that the one before it left. -/
def Follows : Session → List Execution → Prop
  | _, [] => True
  | s, x :: rest => x = execution settings world d s x.index ∧ Follows x.after rest

end

def left (s : Session) (trace : List Execution) : Session := (trace.getLast?.map Execution.after).getD s

@[simp] theorem left_nil (s : Session) : left s [] = s := rfl

@[simp] theorem left_cons (s : Session) (x : Execution) (rest : List Execution) :
    left s (x :: rest) = left x.after rest := by
  cases ends : rest.getLast? <;> simp [left, List.getLast?_cons, ends]

section Trace

variable {settings : Settings} {world : World} {d : Document}

theorem store_execution (s : Session) (index : Nat) :
    (execution settings world d s index).after.store =
      s.store.insertAll ((execution settings world d s index).captured? d).toList := by
  rcases execute_cases settings world s d index with
    ⟨e, unready, ends⟩ | ⟨prepared, e, ready, _, ends⟩ | ⟨prepared, response, ready, _, ends⟩
  · simp [execution, Execution.captured?, unready, ends]
  · simp [execution, Execution.captured?, ready, ends]
  · cases named : (d.requests[index]?).bind Request.name <;>
      simp [execution, Execution.captured?, ready, ends, named]

theorem sent_execution (s : Session) (index : Nat) :
    (execution settings world d s index).after.sent =
      s.sent ++ (execution settings world d s index).prepared.toOption.toList := by
  rcases execute_cases settings world s d index with
    ⟨e, unready, ends⟩ | ⟨prepared, e, ready, _, ends⟩ | ⟨prepared, response, ready, _, ends⟩
  · simp [execution, unready, ends, Except.toOption]
  · simp [execution, ready, ends, Except.toOption]
  · simp [execution, ready, ends, Except.toOption]

theorem captured?_of_succeeds {s : Session} {index : Nat} {name : String}
    (succeeds : (execution settings world d s index).Succeeds)
    (named : (d.requests[index]?).bind Request.name = some name) :
    ∃ exchange, (execution settings world d s index).captured? d = some (name, exchange) := by
  obtain ⟨response, result⟩ := succeeds
  rcases execute_cases settings world s d index with
    ⟨e, _, ends⟩ | ⟨_, e, _, _, ends⟩ | ⟨prepared, response, ready, _, ends⟩
  · simp [execution, ends] at result
  · simp [execution, ends] at result
  · exact ⟨exchangeOf prepared response, by
      simp [execution, Execution.captured?, ready, ends, named]⟩

theorem executions_cons (s : Session) (index : Nat) (rest : List Nat) :
    ((execution settings world d s index).Succeeds ∧
      executions settings world d s (index :: rest) = execution settings world d s index ::
        executions settings world d (execution settings world d s index).after rest) ∨
    ∃ e, (execution settings world d s index).result = .error e ∧
      executions settings world d s (index :: rest) = [execution settings world d s index] := by
  cases ends : (execution settings world d s index).result with
  | ok response => exact .inl ⟨⟨response, ends⟩, by simp [executions, ends]⟩
  | error e => exact .inr ⟨e, rfl, by simp [executions, ends]⟩

theorem follows_executions (s : Session) (indices : List Nat) :
    Follows settings world d s (executions settings world d s indices) := by
  induction indices generalizing s with
  | nil => trivial
  | cons index rest ih =>
    rcases executions_cons s index rest with ⟨_, eq⟩ | ⟨_, _, eq⟩
    · rw [eq]
      exact ⟨rfl, ih _⟩
    · rw [eq]
      exact ⟨rfl, trivial⟩

theorem follows_append {s : Session} {earlier later : List Execution} :
    Follows settings world d s (earlier ++ later) ↔
      Follows settings world d s earlier ∧ Follows settings world d (left s earlier) later := by
  induction earlier generalizing s with
  | nil => simp [Follows]
  | cons x rest ih => simp [Follows, ih, and_assoc]

/-- The store has grown by what the executions captured. -/
theorem Follows.store_left {s : Session} {trace : List Execution}
    (follows : Follows settings world d s trace) :
    (left s trace).store = s.store.insertAll (trace.filterMap (Execution.captured? d)) := by
  induction trace generalizing s with
  | nil => rfl
  | cons x rest ih =>
    have step : x.after.store = s.store.insertAll (x.captured? d).toList := by
      rw [follows.1]
      exact store_execution s x.index
    rw [left_cons, ih follows.2, step, ← Roster.insertAll_append]
    cases found : x.captured? d <;> simp [found]

/-- What was sent has grown by what the executions had ready. -/
theorem Follows.sent_left {s : Session} {trace : List Execution}
    (follows : Follows settings world d s trace) :
    (left s trace).sent = s.sent ++ trace.filterMap (·.prepared.toOption) := by
  induction trace generalizing s with
  | nil => simp
  | cons x rest ih =>
    have step : x.after.sent = s.sent ++ x.prepared.toOption.toList := by
      rw [follows.1]
      exact sent_execution s x.index
    rw [left_cons, ih follows.2, step]
    cases ready : x.prepared.toOption <;> simp [ready]

theorem index_executions (s : Session) (indices : List Nat) :
    (executions settings world d s indices).map Execution.index <+: indices := by
  induction indices generalizing s with
  | nil => exact List.prefix_rfl
  | cons index rest ih =>
    rcases executions_cons s index rest with ⟨_, eq⟩ | ⟨_, _, eq⟩
    · rw [eq, List.map_cons]
      exact List.cons_prefix_cons.mpr ⟨rfl, ih _⟩
    · rw [eq, List.map_singleton]
      exact ⟨rest, rfl⟩

/-- All executions succeed, and then they are all reported; or the last one fails, and the run fails
with it. -/
theorem executeAll_cases (s : Session) (indices : List Nat) :
    (∃ results, executeAll settings world d s indices =
        (left s (executions settings world d s indices), .ok results) ∧
      results.map Prod.fst = indices ∧
      (executions settings world d s indices).map (fun x => (x.index, x.result)) =
        results.map fun entry => (entry.1, .ok entry.2)) ∨
    ∃ earlier x e, executions settings world d s indices = earlier ++ [x] ∧ x.result = .error e ∧
      executeAll settings world d s indices = (x.after, .error e) := by
  induction indices generalizing s with
  | nil => exact .inl ⟨[], rfl, rfl, rfl⟩
  | cons index rest ih =>
    have parts : execute settings world s d index =
        ((execution settings world d s index).after, (execution settings world d s index).result) := rfl
    rcases executions_cons s index rest with ⟨⟨response, succeeds⟩, eq⟩ | ⟨e, fails, eq⟩
    · rw [eq]
      rcases ih (execution settings world d s index).after with
        ⟨results, ends, all, reported⟩ | ⟨earlier, x, e, split, fails, ends⟩
      · refine .inl ⟨(index, response) :: results, ?_, by simp [all], ?_⟩
        · simp [executeAll, parts, succeeds, ends]
        · rw [List.map_cons, List.map_cons, reported, succeeds]
          rfl
      · refine .inr ⟨execution settings world d s index :: earlier, x, e, by rw [split]; rfl, fails, ?_⟩
        simp [executeAll, parts, succeeds, ends]
    · refine .inr ⟨[], _, e, eq, fails, ?_⟩
      simp [executeAll, parts, fails]

/-- Only the last execution can fail. -/
theorem executions_split {s : Session} {indices : List Nat} {earlier later : List Execution}
    {x : Execution} (split : executions settings world d s indices = earlier ++ x :: later) :
    (∀ y ∈ earlier, y.Succeeds) ∧ (later = [] ∨ x.Succeeds) := by
  induction indices generalizing s earlier with
  | nil => simp [executions] at split
  | cons index rest ih =>
    rcases executions_cons s index rest with ⟨succeeds, eq⟩ | ⟨_, _, eq⟩
    · rw [eq] at split
      cases earlier with
      | nil =>
        cases split
        exact ⟨by simp, .inr succeeds⟩
      | cons y earlier =>
        obtain ⟨rfl, behind⟩ := List.cons.inj split
        obtain ⟨before, last⟩ := ih behind
        exact ⟨List.forall_mem_cons.mpr ⟨succeeds, before⟩, last⟩
    · rw [eq] at split
      cases earlier with
      | nil =>
        cases split
        exact ⟨by simp, .inl rfl⟩
      | cons y earlier => simp at split

end Trace

/-- How the requests of a document are executed in a given order, from a session on. -/
structure Orderly (settings : Settings) (world : World) (d : Document) (s : Session)
    (order : List Nat) : Prop where
  /-- each execution meets the session that the one before it left -/
  follows : Follows settings world d s (executions settings world d s order)
  /-- the executed requests are the first ones of the order -/
  inOrder : (executions settings world d s order).map Execution.index <+: order
  once : ((executions settings world d s order).map Execution.index).Nodup
  /-- the run leaves the session that the last execution leaves -/
  leaves : (run settings world s d).1 = left s (executions settings world d s order)
  /-- each request that could be prepared is sent, in the order of the executions -/
  sends : (run settings world s d).1.sent =
    s.sent ++ (executions settings world d s order).filterMap (·.prepared.toOption)
  /-- nothing is executed behind a failure, and the run fails with it -/
  stops : ∀ earlier x later, executions settings world d s order = earlier ++ x :: later →
    ∀ e, x.result = .error e → later = [] ∧ (run settings world s d).2 = .error e
  fails : ∀ e, (run settings world s d).2 = .error e →
    ∃ x ∈ executions settings world d s order, x.result = .error e
  /-- a run that succeeds has executed all requests and reports them in order -/
  reports : ∀ results, (run settings world s d).2 = .ok results → results.map Prod.fst = order ∧
    (executions settings world d s order).map (fun x => (x.index, x.result)) =
      results.map fun entry => (entry.1, .ok entry.2)
  /-- what a request reads from was executed and captured before the request is prepared -/
  ready : ∀ earlier x later, executions settings world d s order = earlier ++ x :: later →
    ∀ r, d.requests[x.index]? = some r → ∀ name ∈ r.dependsOn, ∀ j, d.indexOf? name = some j →
      (∃ y ∈ earlier, y.index = j ∧ y.Succeeds) ∧ x.before.store.contains name = true

section Order

variable {settings : Settings} {world : World} {d : Document} {s : Session} {order : List Nat}

theorem run_eq (ordered : d.order = .ok order) :
    run settings world s d = executeAll settings world d s order := by
  simp [run, ordered]

theorem run_leaves (ordered : d.order = .ok order) :
    (run settings world s d).1 = left s (executions settings world d s order) := by
  rw [run_eq ordered]
  rcases executeAll_cases s order with ⟨_, ends, _⟩ | ⟨earlier, x, e, eq, _, ends⟩
  · rw [ends]
  · rw [ends, eq]
    simp [left]

theorem run_fails (ordered : d.order = .ok order) {e : RequestError}
    (failed : (run settings world s d).2 = .error e) :
    ∃ earlier x, executions settings world d s order = earlier ++ [x] ∧ x.result = .error e := by
  rw [run_eq ordered] at failed
  rcases executeAll_cases s order with ⟨results, ends, _⟩ | ⟨earlier, x, e', eq, ending, ends⟩
  · rw [ends] at failed
    cases failed
  · rw [ends] at failed
    cases failed
    exact ⟨earlier, x, eq, ending⟩

/-- A request that was executed successfully and has a name is found in the store under every
spelling of it. -/
theorem contains_of_executed {earlier : List Execution}
    (follows : Follows settings world d s earlier) {y : Execution} (member : y ∈ earlier)
    (succeeds : y.Succeeds) {r : Request} (chosen : d.requests[y.index]? = some r) {own name : String}
    (named : r.name = some own) (same : storeKey own = storeKey name) :
    (left s earlier).store.contains name = true := by
  obtain ⟨before, after, rfl⟩ := List.append_of_mem member
  have made : y = execution settings world d (left s before) y.index :=
    (follows_append.mp follows).2.1
  have captured : ∃ exchange, y.captured? d = some (own, exchange) := by
    rw [made] at succeeds ⊢
    exact captured?_of_succeeds succeeds (by simp [chosen, named])
  obtain ⟨exchange, captured⟩ := captured
  rw [follows.store_left]
  refine Roster.contains_insertAll s.store (.inr ⟨(own, exchange), ?_, same⟩)
  exact List.mem_filterMap.mpr ⟨y, member, captured⟩

/-- Requests that were read are executed in the order that is found. -/
theorem orderly_of_parse {table : MethodTable} {path content : String}
    (parsed : Document.parse table path content = .ok d) (ordered : d.order = .ok order)
    (settings : Settings) (world : World) (s : Session) : Orderly settings world d s order where
  follows := follows_executions s order
  inOrder := index_executions s order
  once := by
    have distinct : order.Nodup := (Document.order_ok ordered).1.nodup_iff.mpr List.nodup_range
    exact distinct.sublist (index_executions s order).sublist
  leaves := run_leaves ordered
  sends := by
    rw [run_leaves ordered]
    exact (follows_executions s order).sent_left
  stops := by
    intro earlier x later split e fails
    have last : later = [] := by
      rcases (executions_split split).2 with last | ⟨response, succeeds⟩
      · exact last
      · rw [fails] at succeeds
        cases succeeds
    refine ⟨last, ?_⟩
    rw [run_eq ordered]
    rcases executeAll_cases s order with ⟨results, _, _, reported⟩ | ⟨before, y, e', eq, failed, ends⟩
    · have inside : (x.index, x.result) ∈ results.map fun entry => (entry.1, .ok entry.2) := by
        rw [← reported, split]
        simp
      obtain ⟨entry, _, same⟩ := List.mem_map.mp inside
      rw [fails] at same
      cases (Prod.mk.inj same).2
    · rw [split, last] at eq
      obtain ⟨_, same⟩ := List.append_inj' eq rfl
      cases same
      rw [fails] at failed
      cases failed
      rw [ends]
  fails := by
    intro e failed
    obtain ⟨earlier, x, eq, ending⟩ := run_fails ordered failed
    exact ⟨x, by simp [eq], ending⟩
  reports := by
    intro results succeeds
    rw [run_eq ordered] at succeeds
    rcases executeAll_cases s order with ⟨results', ends, all, reported⟩ | ⟨_, _, _, _, _, ends⟩
    · rw [ends] at succeeds
      cases succeeds
      exact ⟨all, reported⟩
    · rw [ends] at succeeds
      cases succeeds
  ready := by
    intro earlier x later split r chosen name member j found
    have reads : d.ReadsFrom x.index j := ⟨r, chosen, name, member, found⟩
    -- the order has `j` before the request, and everything before it was executed
    have executed : j ∈ earlier.map Execution.index := by
      have inOrder : (executions settings world d s order).map Execution.index <+: order :=
        index_executions s order
      obtain ⟨rest, whole⟩ := inOrder
      rw [split, List.map_append, List.map_cons, List.append_assoc, List.cons_append] at whole
      exact (Document.order_ok ordered).2 _ _ _ whole.symm j reads
    obtain ⟨y, before, rfl⟩ := List.mem_map.mp executed
    have succeeds := (executions_split split).1 y before
    refine ⟨⟨y, before, rfl, succeeds⟩, ?_⟩
    obtain ⟨target, own, atPlace, named, same⟩ := Document.named_of_indexOf? found
    have keys : storeKey own = storeKey name := by
      have left := Document.ascii_name_of_parse parsed (List.mem_of_getElem? atPlace) named
      have right := Document.ascii_of_mem_dependsOn parsed (List.mem_of_getElem? chosen) member
      rw [storeKey_eq_foldName left, storeKey_eq_foldName right, sameName_iff.mp same]
    have follows : Follows settings world d s (earlier ++ x :: later) := by
      rw [← split]
      exact follows_executions s order
    obtain ⟨front, made, _⟩ := follows_append.mp follows
    rw [made]
    exact contains_of_executed front before succeeds atPlace named keys

/-- A run of a document that was read: without an order it fails and leaves the session as it was,
and otherwise the requests are executed in that order. -/
theorem run_of_parse {table : MethodTable} {path content : String}
    (parsed : Document.parse table path content = .ok d) (settings : Settings) (world : World)
    (s : Session) :
    (∀ e, d.order = .error e → run settings world s d = (s, .error (.order e))) ∧
    ∀ order, d.order = .ok order → Orderly settings world d s order := by
  refine ⟨fun e failed => ?_, fun order ordered => orderly_of_parse parsed ordered settings world s⟩
  simp [run, failed]

end Order

def answering (response : Response) : World := fun _ =>
  { Surroundings.closed with send := fun _ => .ok response }

/-- A request that reads from the one behind it, under another spelling of its name. -/
def reversed : String :=
  "GET https://a/{{Login.response.body.*}}\n\n###\n# @name login\nPOST https://b"

def reversedBook : Document :=
  { Document.empty "book" with
    requests := [
      { Request.ofLine "GET" "https://a/{{Login.response.body.*}}" 1 with
        dependsOn := ["Login"], hasReferences := true },
      { Request.ofLine "POST" "https://b" 5 with name := some "login" }] }

theorem parse_reversed : Document.parse .standard "book" reversed = .ok reversedBook := by
  have read : Document.read .standard "book" reversed = reversedBook := by cbv
  exact congrArg Except.ok read

theorem order_reversed : reversedBook.order = .ok [1, 0] := by cbv

/-- The second request is executed first, and the first one sends what came back; without an answer the
second one is all that is executed. -/
theorem run_of_parse_reversed :
    let response : Response := ⟨200, .empty, [120]⟩
    Document.parse .standard "book" reversed = .ok reversedBook ∧ reversedBook.order = .ok [1, 0] ∧
    Orderly .standard (answering response) reversedBook .start [1, 0] ∧
    (run .standard (answering response) .start reversedBook).2 = .ok [(1, response), (0, response)] ∧
    (executions .standard (answering response) reversedBook .start [1, 0]).map Execution.index = [1, 0] ∧
    (run .standard (answering response) .start reversedBook).1.sent.map Prepared.url =
      ["https://b", "https://a/x"] ∧
    Orderly .standard (fun _ => .closed) reversedBook .start [1, 0] ∧
    (run .standard (fun _ => .closed) .start reversedBook).2 = .error .timeout ∧
    (executions .standard (fun _ => .closed) reversedBook .start [1, 0]).map Execution.index = [1] := by
  intro response
  have answered := (run_of_parse parse_reversed .standard (answering response) .start).2 _ order_reversed
  have unanswered := (run_of_parse parse_reversed .standard (fun _ => .closed) .start).2 _ order_reversed
  refine ⟨parse_reversed, order_reversed, answered, ?_, ?_, ?_, unanswered, ?_, ?_⟩
  · rw [run_eq order_reversed]
    decide +kernel
  · decide +kernel
  · rw [run_eq order_reversed]
    decide +kernel
  · rw [run_eq order_reversed]
    decide +kernel
  · decide +kernel

end Session

end RequestBook
