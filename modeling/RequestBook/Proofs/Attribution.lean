import RequestBook.Proofs.Execution

/-! Which request an exchange comes from. Several requests may have one name. The order of execution
goes by the first of them, the store by the one that was executed last. So a request that reads from a
name finds that the first request of the name was executed before, but what it reads is the exchange
of the last one, and the two are the same only as long as no other request of the name has come
between. -/
namespace RequestBook

theorem Request.name_of_isNamed {r : Request} {name : String} (named : r.isNamed name = true) :
    ∃ own, r.name = some own ∧ sameName name own = true := by
  cases has : r.name with
  | none => simp [isNamed, has] at named
  | some own => exact ⟨own, rfl, by simpa [isNamed, has] using named⟩

namespace Session

/-- The executed request has a name, in any case. -/
def Execution.Under (d : Document) (name : String) (x : Execution) : Prop :=
  ∃ r, d.requests[x.index]? = some r ∧ r.isNamed name = true

/-- The last of the executions whose requests have a name, and the exchange that it captured. -/
structure LastUnder (d : Document) (name : String) (trace : List Execution) (y : Execution)
    (exchange : Exchange) : Prop where
  last : ∃ before after, trace = before ++ y :: after ∧ ∀ z ∈ after, ¬ z.Under d name
  under : y.Under d name
  captured : ∃ own, y.captured? d = some (own, exchange)

section Last

variable {d : Document} {name : String} {trace : List Execution} {y : Execution} {exchange : Exchange}

theorem LastUnder.concat (last : LastUnder d name trace y exchange) {z : Execution}
    (other : ¬ z.Under d name) : LastUnder d name (trace ++ [z]) y exchange := by
  obtain ⟨before, after, rfl, apart⟩ := last.last
  refine ⟨⟨before, after ++ [z], by simp, ?_⟩, last.under, last.captured⟩
  intro x member
  rcases List.mem_append.mp member with inside | new
  · exact apart x inside
  · rw [List.mem_singleton.mp new]
    exact other

/-- An execution that captures something does so under the name of its request. -/
theorem Execution.name_of_captured? {x : Execution} {own : String}
    (captured : x.captured? d = some (own, exchange)) :
    ∃ r, d.requests[x.index]? = some r ∧ r.name = some own := by
  unfold Execution.captured? at captured
  split at captured
  next named _ _ =>
    cases captured
    exact Option.bind_eq_some_iff.mp named
  next => cases captured

end Last

/-- The store tells the names of requests from another name as the document does. -/
def NamedAlike (d : Document) (name : String) : Prop :=
  ∀ r ∈ d.requests, ∀ own, r.name = some own →
    (storeKey own = storeKey name ↔ r.isNamed name = true)

section Trace

variable {settings : Settings} {world : World} {d : Document} {s : Session} {name : String}

theorem left_concat (s : Session) (trace : List Execution) (x : Execution) :
    left s (trace ++ [x]) = x.after := by
  simp [left]

/-- One more execution: if its request has the name, its exchange is found under the name, and
otherwise what was found before. -/
theorem get?_execution (alike : NamedAlike d name) (s : Session) (index : Nat) :
    (∃ own exchange, (execution settings world d s index).captured? d = some (own, exchange) ∧
      (execution settings world d s index).Under d name ∧
      (execution settings world d s index).after.store.get? name = some exchange) ∨
    (((execution settings world d s index).Succeeds → ¬ (execution settings world d s index).Under d name) ∧
      (execution settings world d s index).after.store.get? name = s.store.get? name) := by
  rw [store_execution]
  cases captured : (execution settings world d s index).captured? d with
  | none =>
    refine .inr ⟨?_, rfl⟩
    rintro succeeds ⟨r, chosen, named⟩
    obtain ⟨own, has, _⟩ := Request.name_of_isNamed named
    have found : (d.requests[index]?).bind Request.name = some own := by
      rw [show d.requests[index]? = some r from chosen, Option.bind_some, has]
    obtain ⟨exchange, kept⟩ := captured?_of_succeeds succeeds found
    rw [captured] at kept
    cases kept
  | some pair =>
    obtain ⟨own, exchange⟩ := pair
    obtain ⟨r, chosen, has⟩ := Execution.name_of_captured? captured
    have same := alike r (List.mem_of_getElem? chosen) own has
    by_cases key : storeKey own = storeKey name
    · refine .inl ⟨own, exchange, rfl, ⟨r, chosen, same.mp key⟩, ?_⟩
      simp [Roster.get?_insert, key]
    · refine .inr ⟨?_, by simp [Roster.get?_insert, key]⟩
      rintro _ ⟨r', chosen', named⟩
      rw [chosen] at chosen'
      cases chosen'
      exact key (same.mpr named)

/-- After executions that all succeed, the exchange under a name is that of the last request of the
name, if there was one. The induction goes backwards, since the newest execution decides. -/
theorem Follows.lastUnder (alike : NamedAlike d name) {trace : List Execution}
    (follows : Follows settings world d s trace) (succeed : ∀ x ∈ trace, x.Succeeds)
    (executed : ∃ x ∈ trace, x.Under d name) :
    ∃ y exchange, LastUnder d name trace y exchange ∧
      (left s trace).store.get? name = some exchange := by
  induction trace using List.reverseRecOn with
  | nil =>
    obtain ⟨x, member, _⟩ := executed
    cases member
  | append_singleton earlier x ih =>
    obtain ⟨before, made, _⟩ := follows_append.mp follows
    have succeeds : x.Succeeds := succeed x (by simp)
    rw [left_concat]
    rcases @get?_execution settings world d name alike (left s earlier) x.index with
      ⟨own, exchange, captured, under, found⟩ | ⟨other, kept⟩
    · rw [← made] at captured under found
      exact ⟨x, exchange, ⟨⟨earlier, [], rfl, by simp⟩, under, own, captured⟩, found⟩
    · rw [← made] at other kept
      have inside : ∃ y ∈ earlier, y.Under d name := by
        obtain ⟨y, member, under⟩ := executed
        rcases List.mem_append.mp member with old | new
        · exact ⟨y, old, under⟩
        · rw [List.mem_singleton.mp new] at under
          exact absurd under (other succeeds)
      obtain ⟨y, exchange, last, found⟩ :=
        ih before (fun z member => succeed z (by simp [member])) inside
      exact ⟨y, exchange, last.concat (other succeeds), kept.trans found⟩

end Trace

/-- What a request of a document meets under a name that it reads from, after earlier executions. -/
structure ReadsLast (d : Document) (earlier : List Execution) (x : Execution) (name : String)
    (first : Nat) : Prop where
  /-- the first request of the name was executed before -/
  executed : ∃ y ∈ earlier, y.index = first ∧ y.Succeeds
  /-- what is found under the name was captured by the last execution of a request of the name -/
  reads : ∃ y exchange, LastUnder d name earlier y exchange ∧
    x.before.store.get? name = some exchange ∧
    ((∀ i r, d.requests[i]? = some r → r.isNamed name = true → i = first) → y.index = first)

/-- A trace of a run, in which every request meets the last exchange of each name that it reads
from. -/
structure Attributed (settings : Settings) (world : World) (d : Document)
    (results : List (Nat × Response)) (trace : List Execution) : Prop where
  /-- each execution meets the session that the one before it left -/
  follows : Follows settings world d start trace
  /-- the executions are those that the run reports -/
  reported : trace.map (fun x => (x.index, x.result)) =
    results.map (fun entry => (entry.1, .ok entry.2))
  reads : ∀ earlier x later, trace = earlier ++ x :: later → ∀ r, d.requests[x.index]? = some r →
    ∀ name ∈ r.dependsOn, ∀ first, d.indexOf? name = some first → ReadsLast d earlier x name first

section Parsed

variable {table : MethodTable} {path content : String} {d : Document}

theorem namedAlike_of_parse (parsed : Document.parse table path content = .ok d) {r : Request}
    (member : r ∈ d.requests) {name : String} (reads : name ∈ r.dependsOn) : NamedAlike d name := by
  intro other inside own has
  have left := Document.ascii_name_of_parse parsed inside has
  have right := Document.ascii_of_mem_dependsOn parsed member reads
  rw [storeKey_eq_foldName left, storeKey_eq_foldName right, Request.isNamed, has, Option.any_some,
    sameName_iff]
  exact eq_comm

/-- In a run that succeeds, a request meets the last exchange of each name that it reads from. -/
theorem run_attributed (parsed : Document.parse table path content = .ok d) {settings : Settings}
    {world : World} {results : List (Nat × Response)}
    (succeeds : (run settings world start d).2 = .ok results) :
    ∃ trace, Attributed settings world d results trace := by
  cases ordered : d.order with
  | error e => simp [run, ordered] at succeeds
  | ok order =>
    have orderly := orderly_of_parse parsed ordered settings world start
    refine ⟨_, orderly.follows, (orderly.reports results succeeds).2, ?_⟩
    intro earlier x later split r chosen name member first found
    obtain ⟨⟨y, before, atFirst, done⟩, _⟩ :=
      orderly.ready earlier x later split r chosen name member first found
    have follows := orderly.follows
    rw [split] at follows
    obtain ⟨front, made, _⟩ := follows_append.mp follows
    have under : y.Under d name := by
      obtain ⟨target, own, atPlace, has, same⟩ := Document.named_of_indexOf? found
      exact ⟨target, atFirst ▸ atPlace, by simpa [Request.isNamed, has] using same⟩
    have alike := namedAlike_of_parse parsed (List.mem_of_getElem? chosen) member
    obtain ⟨z, exchange, last, held⟩ :=
      front.lastUnder alike (executions_split split).1 ⟨y, before, under⟩
    refine ⟨⟨y, before, atFirst, done⟩, z, exchange, last, ?_, ?_⟩
    · rw [made]
      exact held
    · intro single
      obtain ⟨r', chosen', named⟩ := last.under
      exact single z.index r' chosen' named

end Parsed

def numbering : World := fun sent =>
  { Surroundings.closed with
    send := fun _ => .ok ⟨200, .empty, Text.encode (Text.natText sent.length)⟩ }

def twofold : String :=
  "# @name a\nGET https://[::1]/1\n\n###\n# @name A\nGET https://[::1]/2\n\n###\n" ++
    "GET https://[::1]/{{a.response.body.*}}"

def twofoldBook : Document :=
  { Document.empty "book" with
    requests := [
      { Request.ofLine "GET" "https://[::1]/1" 2 with name := some "a" },
      { Request.ofLine "GET" "https://[::1]/2" 6 with name := some "A" },
      { Request.ofLine "GET" "https://[::1]/{{a.response.body.*}}" 9 with
        dependsOn := ["a"], hasReferences := true }] }

theorem parse_twofold : Document.parse .standard "book" twofold = .ok twofoldBook := by
  have read : Document.read .standard "book" twofold = twofoldBook := by cbv
  exact congrArg Except.ok read

theorem run_twofold : (run .standard numbering start twofoldBook).2 =
    .ok [(0, ⟨200, .empty, [48]⟩), (1, ⟨200, .empty, [49]⟩), (2, ⟨200, .empty, [50]⟩)] := by
  have ordered : twofoldBook.order = .ok [0, 1, 2] := by cbv
  rw [run_eq ordered]
  decide +kernel

theorem run_attributed_twofold :
    Document.parse .standard "book" twofold = .ok twofoldBook ∧
    (run .standard numbering start twofoldBook).2 =
      .ok [(0, ⟨200, .empty, [48]⟩), (1, ⟨200, .empty, [49]⟩), (2, ⟨200, .empty, [50]⟩)] ∧
    ∃ trace, Attributed .standard numbering twofoldBook
      [(0, ⟨200, .empty, [48]⟩), (1, ⟨200, .empty, [49]⟩), (2, ⟨200, .empty, [50]⟩)] trace :=
  ⟨parse_twofold, run_twofold, run_attributed parse_twofold run_twofold⟩

/-- A request need not read the exchange of the first request of a name, although the order of
execution goes by that request: here it reads what the second one captured. -/
theorem not_reads_first : ¬ ∀ (table : MethodTable) (path content : String) (d : Document)
    (settings : Settings) (world : World) (results : List (Nat × Response)) (trace : List Execution),
    Document.parse table path content = .ok d → (run settings world start d).2 = .ok results →
    Follows settings world d start trace →
    trace.map (fun x => (x.index, x.result)) = results.map (fun entry => (entry.1, .ok entry.2)) →
    ∀ earlier x later, trace = earlier ++ x :: later → ∀ r, d.requests[x.index]? = some r →
      ∀ name ∈ r.dependsOn, ∀ first, d.indexOf? name = some first →
        ∃ y ∈ earlier, y.index = first ∧ ∃ own exchange, y.captured? d = some (own, exchange) ∧
          x.before.store.get? name = some exchange := by
  intro claim
  let one := execution .standard numbering twofoldBook start 0
  let two := execution .standard numbering twofoldBook one.after 1
  let three := execution .standard numbering twofoldBook two.after 2
  have reported : [one, two, three].map (fun x => (x.index, x.result)) =
      [(0, .ok ⟨200, .empty, [48]⟩), (1, .ok ⟨200, .empty, [49]⟩), (2, .ok ⟨200, .empty, [50]⟩)] := by
    decide +kernel
  obtain ⟨y, member, first, own, exchange, captured, found⟩ :=
    claim _ _ _ _ .standard numbering _ [one, two, three] parse_twofold run_twofold
      ⟨rfl, rfl, rfl, trivial⟩ reported [one, two] three [] rfl _ rfl "a" (by decide) 0 (by decide +kernel)
  have earlier : y = one := by
    rcases List.mem_cons.mp member with same | member
    · exact same
    · rw [List.mem_singleton.mp member] at first
      cases first
  rw [earlier] at captured
  have own : (one.captured? twofoldBook).map (·.2.responseBody) = some "0" := by decide +kernel
  have read : (three.before.store.get? "a").map (·.responseBody) = some "1" := by decide +kernel
  rw [captured, Option.map_some] at own
  rw [found, Option.map_some, own] at read
  exact absurd read (by decide)

end Session

end RequestBook
