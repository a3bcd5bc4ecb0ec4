import Mathlib.Data.List.Induction
import Mathlib.Data.List.Nodup
import RequestBook.Proofs.CaseFolding
import RequestBook.Proofs.Roster
import RequestBook.Session

/-! What becomes of headers. Whatever is done to a roster of texts, it has one entry for each key that was
inserted, in the order of the first insertions, and each entry is the most recent insertion with all text that
was appended since. A change of one name leaves the entries of all others as they are, where they are. -/
namespace RequestBook

namespace Roster

inductive Change where
  | insert (name value : String)
  | append (name text : String)
  deriving DecidableEq

/-- Something done to a roster of texts: one change, or everything collected anew from pairs. -/
inductive Operation where
  | change (c : Change)
  | collect (pairs : List (String × String))

namespace Change

def name : Change → String
  | .insert name _ => name
  | .append name _ => name

def inserted? : Change → Option (String × String)
  | .insert name value => some (name, value)
  | .append _ _ => none

def appended? (key : String → String) (name : String) : Change → Option String
  | .insert _ _ => none
  | .append other text => if key other = key name then some text else none

def apply {key : String → String} (roster : Roster key String) : Change → Roster key String
  | .insert name value => roster.insert name value
  | .append name text => roster.modify name (· ++ text)

end Change

/-- The changes since everything was last collected, beginning with those that collected it. -/
def Operation.record (changes : List Change) : Operation → List Change
  | .change c => changes ++ [c]
  | .collect pairs => pairs.map fun pair => .insert pair.1 pair.2

def changes (operations : List Operation) : List Change := operations.foldl Operation.record []

variable {key : String → String} {α : Type}

def Operation.apply (roster : Roster key String) : Operation → Roster key String
  | .change c => c.apply roster
  | .collect pairs => ofList pairs

def perform (operations : List Operation) : Roster key String := operations.foldl Operation.apply .empty

def keys (roster : Roster key α) : List String := roster.entries.map fun entry => key entry.1

/-- The place of the entry for a name. -/
def position? (roster : Roster key α) (name : String) : Option Nat := roster.keys.findIdx? (· == key name)

/-- The entry for a name by its history: the spelling and the value of the most recent insertion under a
spelling of the name, and behind the value all text that was appended under one since. -/
def IsLatest (key : String → String) (changes : List Change) (name spelling value : String) : Prop :=
  ∃ before first behind, changes = before ++ .insert spelling first :: behind ∧ key spelling = key name ∧
    (∀ pair ∈ behind.filterMap Change.inserted?, key pair.1 ≠ key name) ∧
    value = first ++ String.join (behind.filterMap (Change.appended? key name))

/-- The keys of all insertions, in order. -/
def insertedKeys (key : String → String) (changes : List Change) : List String :=
  (changes.filterMap Change.inserted?).map fun pair => key pair.1

/-- A roster that holds what changes have left. -/
structure Holds (changes : List Change) (roster : Roster key String) : Prop where
  /-- one entry for each key that was inserted, in the order of the first insertions -/
  keys : roster.keys = (insertedKeys key changes).eraseDups
  /-- every entry as it was inserted last, with what was appended since -/
  entries : ∀ entry ∈ roster.entries, IsLatest key changes entry.1 entry.1 entry.2
  /-- the same values under every spelling of their names -/
  values : ∀ name other value, key other = key name →
    (roster.get? other = some value ↔ ∃ spelling, IsLatest key changes name spelling value)

section Histories

variable {changes : List Change} {c : Change} {name other spelling value : String}

theorem not_isLatest_nil : ¬ IsLatest key [] name spelling value := by
  rintro ⟨before, first, behind, whole, -⟩
  simp at whole

/-- One more change either is the most recent insertion of the name, or comes behind it. -/
theorem isLatest_concat : IsLatest key (changes ++ [c]) name spelling value ↔
    (c.inserted? = some (spelling, value) ∧ key spelling = key name) ∨
    ((∀ pair ∈ c.inserted?, key pair.1 ≠ key name) ∧
      ∃ sofar, IsLatest key changes name spelling sofar ∧
        value = sofar ++ (c.appended? key name).getD "") := by
  constructor
  · rintro ⟨before, first, behind, whole, same, others, rfl⟩
    -- the last change is the insertion itself if nothing stands behind that, and else one of those behind it
    rcases List.eq_nil_or_concat behind with rfl | ⟨front, last, rfl⟩
    · obtain ⟨-, single⟩ := List.append_inj' whole rfl
      cases List.singleton_inj.mp single
      exact .inl ⟨by simp [Change.inserted?, String.join], same⟩
    · rw [List.concat_eq_append, ← List.cons_append, ← List.append_assoc] at whole
      obtain ⟨rfl, single⟩ := List.append_inj' whole rfl
      cases List.singleton_inj.mp single
      rw [List.concat_eq_append, List.filterMap_append, List.forall_mem_append] at others
      refine .inr ⟨fun pair inserted => others.2 pair ?_, _, ⟨before, first, front, rfl, same, others.1, rfl⟩, ?_⟩
      · simp [Option.mem_def.mp inserted]
      · cases more : c.appended? key name <;> simp [String.join, String.append_assoc, more]
  · rintro (⟨inserted, same⟩ | ⟨other, sofar, ⟨before, first, behind, rfl, same, others, rfl⟩, rfl⟩)
    · cases c with
      | append _ _ => cases inserted
      | insert name' value' =>
        cases inserted
        exact ⟨changes, value, [], rfl, same, by simp, by simp [String.join]⟩
    · refine ⟨before, first, behind ++ [c], by simp, same, ?_, ?_⟩
      · rw [List.filterMap_append, List.forall_mem_append]
        refine ⟨others, fun pair member => other pair ?_⟩
        cases inserted : c.inserted? <;> simp_all
      · cases more : c.appended? key name <;> simp [String.join, String.append_assoc, more]

end Histories

section Operations

variable {roster : Roster key α} {name other spelling value : String}

theorem keys_insert (roster : Roster key α) (name : String) (value : α) :
    (roster.insert name value).keys =
      if key name ∈ roster.keys then roster.keys else roster.keys ++ [key name] :=
  keys_place name value roster.entries

theorem keys_modify (roster : Roster key α) (name : String) (change : α → α) :
    (roster.modify name change).keys = roster.keys := by
  simp only [keys, modify, List.map_map]
  refine List.map_congr_left fun entry _ => ?_
  simp only [Function.comp]
  split <;> rfl

/-- An entry is found where its spelling is. -/
theorem find?_of_mem {entry : String × α} (member : entry ∈ roster.entries) :
    roster.find? entry.1 = some entry := by
  cases found : roster.find? entry.1 with
  | none => simpa using List.find?_eq_none.mp found entry member
  | some other =>
    have same : key other.1 = key entry.1 := by simpa using List.find?_some found
    have inside : other ∈ roster.entries := List.mem_of_find?_eq_some found
    rw [List.inj_on_of_nodup_map roster.distinct inside member same]

/-- A change leaves its own name with the change, and every other name with what it had. -/
theorem find?_apply (c : Change) (roster : Roster key String) :
    (c.apply roster).find? name = some (spelling, value) ↔
      (c.inserted? = some (spelling, value) ∧ key spelling = key name) ∨
      ((∀ pair ∈ c.inserted?, key pair.1 ≠ key name) ∧
        ∃ sofar, roster.find? name = some (spelling, sofar) ∧
          value = sofar ++ (c.appended? key name).getD "") := by
  cases c with
  | insert other text =>
    rw [Change.apply, find?_insert]
    by_cases same : key other = key name
    · simp only [if_pos same, Change.inserted?, Change.appended?]
      constructor
      · intro eq
        cases eq
        exact .inl ⟨rfl, same⟩
      · rintro (⟨eq, -⟩ | ⟨others, -⟩)
        · exact eq
        · exact absurd same (others _ rfl)
    · simp only [if_neg same, Change.inserted?, Change.appended?]
      constructor
      · intro found
        exact .inr ⟨by simpa using same, value, found, by simp⟩
      · rintro (⟨eq, own⟩ | ⟨-, sofar, found, rfl⟩)
        · cases eq
          exact absurd own same
        · simpa using found
  | append other text =>
    rw [Change.apply, find?_modify]
    by_cases same : key other = key name
    · simp only [if_pos same, Change.inserted?, Change.appended?]
      simp [eq_comm (b := value)]
    · simp [if_neg same, Change.inserted?, Change.appended?]

/-- What is found after changes is what their history says. -/
theorem find?_foldl_apply (changes : List Change) (name spelling value : String) :
    (changes.foldl Change.apply (.empty : Roster key String)).find? name = some (spelling, value) ↔
      IsLatest key changes name spelling value := by
  induction changes using List.reverseRecOn generalizing spelling value with
  | nil => exact iff_of_false (by simp [find?, empty]) not_isLatest_nil
  | append_singleton changes c ih => simp only [List.foldl_append, List.foldl_cons, List.foldl_nil,
      find?_apply, isLatest_concat, ih]

theorem eraseDups_concat (l : List String) (a : String) :
    (l ++ [a]).eraseDups = if a ∈ l.eraseDups then l.eraseDups else l.eraseDups ++ [a] := by
  rw [List.eraseDups_append]
  by_cases known : a ∈ l <;> simp [List.removeAll, List.eraseDups_cons, known]

theorem keys_foldl_apply (changes : List Change) :
    (changes.foldl Change.apply (.empty : Roster key String)).keys = (insertedKeys key changes).eraseDups := by
  induction changes using List.reverseRecOn with
  | nil => rfl
  | append_singleton changes c ih =>
    rw [List.foldl_append, List.foldl_cons, List.foldl_nil, insertedKeys, List.filterMap_append,
      List.map_append]
    cases c with
    | insert name value => exact (keys_insert _ _ _).trans (ih ▸ (eraseDups_concat _ _).symm)
    | append name text =>
      refine (keys_modify _ _ _).trans (ih.trans ?_)
      exact congrArg List.eraseDups (List.append_nil _).symm

/-- Only the changes since everything was last collected count. -/
theorem perform_eq (operations : List Operation) :
    (perform operations : Roster key String) = (changes operations).foldl Change.apply .empty := by
  induction operations using List.reverseRecOn with
  | nil => rfl
  | append_singleton operations operation ih =>
    have step : (perform (operations ++ [operation]) : Roster key String) =
        operation.apply (perform operations) := by simp [perform]
    have record : changes (operations ++ [operation]) = operation.record (changes operations) := by
      simp [changes]
    rw [step, record, ih]
    cases operation with
    | change c => simp [Operation.apply, Operation.record]
    | collect pairs => rw [Operation.record, List.foldl_map]; rfl

theorem holds_perform (operations : List Operation) :
    Holds (changes operations) (perform operations : Roster key String) := by
  rw [perform_eq]
  refine ⟨keys_foldl_apply _, fun entry member => ?_, fun name other value same => ?_⟩
  · exact (find?_foldl_apply _ _ _ _).mp (find?_of_mem member)
  · rw [get?, find?, same, ← find?]
    simp [find?_foldl_apply]

/-- A change of one name leaves the entry of every other name as it is. -/
theorem find?_apply_of_ne {c : Change} (apart : key c.name ≠ key other) (roster : Roster key String) :
    (c.apply roster).find? other = roster.find? other := by
  cases c with
  | insert name value => exact (find?_insert roster name other value).trans (if_neg apart)
  | append name text => exact (find?_modify roster name other _).trans (if_neg apart)

/-- A change of one name moves no other name. -/
theorem position?_apply_of_ne {c : Change} (apart : key c.name ≠ key other) (roster : Roster key String) :
    (c.apply roster).position? other = roster.position? other := by
  cases c with
  | insert name value =>
    have apart : key name ≠ key other := apart
    rw [position?, position?, Change.apply, keys_insert]
    by_cases known : key name ∈ roster.keys
    · rw [if_pos known]
    · rw [if_neg known, List.findIdx?_append]
      simp [List.findIdx?_cons, apart]
  | append name text => rw [position?, position?, Change.apply, keys_modify]

/-- Collecting what is left of the entries when their values are changed is changing the values in place. -/
theorem ofList_mapIdx (roster : Roster key String) (change : Nat → String → String) :
    ofList (roster.entries.mapIdx fun i entry => (entry.1, change i entry.2)) = roster.mapValues change :=
  ofList_entries (roster.mapValues change)

end Operations

end Roster

namespace Session

/-- A request that is ready to send has the headers of the request with their values resolved, each at a
place of its own. -/
theorem headers_of_prepare {settings : Settings} {outside : Surroundings} {store : Store} {d : Document}
    {index : Nat} {prepared : Prepared} (ready : prepare settings outside store d index = .ok prepared) :
    ∃ request, d.requests[index]? = some request ∧ prepared.headers =
      request.headers.mapValues fun i =>
        resolveText (d.scope request) store outside.generation settings.depth [i + 1] := by
  unfold prepare at ready
  split at ready
  next => cases ready
  next request chosen =>
    refine ⟨request, chosen, ?_⟩
    dsimp only at ready
    generalize shown : resolveRequest settings.depth outside.generation store d request = resolved at ready
    cases allowed : checkUrl resolved.url with
    | error e => rw [allowed] at ready; cases ready
    | ok =>
      cases filled : prepareBody settings outside.load d resolved.body with
      | error e => rw [allowed, filled] at ready; cases ready
      | ok body =>
        rw [allowed, filled] at ready
        cases ready
        rw [← shown]
        rfl

end Session

open Roster

/-- Whatever is done to headers, they hold what their history says, and a change of one name neither changes
nor moves the header of another. Headers are what their entries make up; so a request that is ready to send
has the names of the request in their order, each with its value resolved. -/
theorem Headers.holds_history (operations : List Operation) :
    Holds (changes operations) (perform operations : Headers) ∧
    (∀ (headers : Headers) (c : Change) (other : String), sameName c.name other = false →
      (c.apply headers).find? other = headers.find? other ∧
        (c.apply headers).position? other = headers.position? other) ∧
    (∀ headers : Headers, ofList headers.entries = headers) ∧
    ∀ settings outside store d index prepared,
      Session.prepare settings outside store d index = .ok prepared →
      ∃ request pairs, d.requests[index]? = some request ∧
        pairs = request.headers.entries.mapIdx (fun i entry =>
          (entry.1, resolveText (d.scope request) store outside.generation settings.depth [i + 1] entry.2)) ∧
        prepared.headers = ofList pairs ∧ prepared.headers.entries = pairs := by
  refine ⟨holds_perform operations, fun headers c other apart => ?_, ofList_entries, ?_⟩
  · have apart : foldName c.name ≠ foldName other := by simpa [sameName] using apart
    exact ⟨find?_apply_of_ne apart headers, position?_apply_of_ne apart headers⟩
  · intro settings outside store d index prepared ready
    obtain ⟨request, chosen, headers⟩ := Session.headers_of_prepare ready
    refine ⟨request, _, chosen, rfl, ?_, ?_⟩
    · rw [headers, ofList_mapIdx]
    · rw [headers]
      rfl

def respelling : List Operation :=
  [.collect [("Accept", "text/plain"), ("X-Trace", "1")], .change (.insert "accept" "application/json"),
    .change (.append "ACCEPT" "; q=1")]

example : (perform respelling : Headers).entries =
    [("accept", "application/json; q=1"), ("X-Trace", "1")] := by decide +kernel

/-- At every place the numbers that make it up are generated. -/
def Generation.numbering : Generation := ⟨fun place _ _ => some (String.ofList (place.flatMap Text.natText))⟩

def traced : Document :=
  { Document.empty "book" with
    bindings := .ofList [("t", "{{$guid}}")]
    requests := [{ Request.ofLine "GET" "https://[::1]/" 2 with
      headers := .ofList [("X-Trace", "{{t}}-{{$guid}}"), ("accept", "text/plain")] }] }

theorem Headers.holds_history_respelling :
    let outside : Surroundings := ⟨.numbering, fun _ => .error "closed", fun _ => .error .timeout⟩
    let prepared : Prepared :=
      ⟨"GET", "https://[::1]/", .ofList [("X-Trace", "001-21"), ("accept", "text/plain")], none⟩
    sameName "ACCEPT" "x-trace" = false ∧
    ((Change.append "ACCEPT" "; q=1").apply (perform respelling : Headers)).find? "x-trace" =
      (perform respelling : Headers).find? "x-trace" ∧
    Session.prepare .standard outside .empty traced 0 = .ok prepared ∧
    ∃ request pairs, traced.requests[0]? = some request ∧
      pairs = request.headers.entries.mapIdx (fun i entry =>
        (entry.1, resolveText (traced.scope request) .empty .numbering 10 [i + 1] entry.2)) ∧
      prepared.headers = ofList pairs ∧ prepared.headers.entries = pairs := by
  intro outside prepared
  obtain ⟨-, others, -, resolved⟩ := Headers.holds_history respelling
  have apart : sameName "ACCEPT" "x-trace" = false := by decide
  have ready : Session.prepare .standard outside .empty traced 0 = .ok prepared := by decide +kernel
  exact ⟨apart, (others _ (.append "ACCEPT" "; q=1") _ apart).1, ready, resolved _ _ _ _ _ _ ready⟩

end RequestBook
