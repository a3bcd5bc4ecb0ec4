import RequestBook.Proofs.Dependency
import RequestBook.Proofs.Tidy
import RequestBook.Session

/-! What a request reads from is all that it takes from a session. Two sessions that agree on the
exchanges it is said to read from prepare it in the same way: every reference that resolving its
texts can meet has a name among them. -/
namespace RequestBook

/-- A text that may be resolved for a request: one of its own or a value that they lead to. -/
def Document.Involves (d : Document) (r : Request) (text : String) : Prop :=
  text ∈ r.texts ∨ d.LeadsTo r text

section Involved

variable {d : Document} {r : Request} {text : String}

theorem Document.Involves.value (involved : d.Involves r text) {name value : String}
    (named : name ∈ variablesIn text.toList) (found : d.value? r name = some value) :
    d.Involves r value := by
  rcases involved with own | ⟨var, reached, known⟩
  · exact .inr ⟨name, .start (List.mem_flatMap.mpr ⟨text, own, named⟩), found⟩
  · exact .inr ⟨name, .through reached known named, found⟩

theorem Document.Involves.refers (involved : d.Involves r text) {ref : Reference}
    (member : ref ∈ Reference.allIn text.toList) :
    r.RefersTo ref.name ∨ d.RefersThrough r ref.name := by
  have named : ref.name ∈ Reference.namesIn text.toList := List.mem_map_of_mem member
  rcases involved with own | leads
  · exact .inl ⟨text, own, named⟩
  · exact .inr ⟨text, leads, named⟩

end Involved

theorem mem_variablesIn {text inner : List Char} {name : String} (member : .group inner ∈ pieces text)
    (named : variableName? inner = some name) : name ∈ variablesIn text :=
  List.mem_filterMap.mpr ⟨.group inner, member, named⟩

theorem Reference.ascii_of_mem_namesIn {text : List Char} {name : String}
    (member : name ∈ namesIn text) : Text.Ascii name.toList := by
  obtain ⟨r, inside, rfl⟩ := List.mem_map.mp member
  obtain ⟨inner, _, found⟩ := mem_allIn.mp inside
  exact ascii_name found

theorem Document.ascii_of_refers {d : Document} {r : Request} {name : String}
    (refers : r.RefersTo name ∨ d.RefersThrough r name) : Text.Ascii name.toList := by
  rcases refers with ⟨text, _, member⟩ | ⟨value, _, member⟩
  · exact Reference.ascii_of_mem_namesIn member
  · exact Reference.ascii_of_mem_namesIn member

/-- Stores that agree on what a request reads from agree on every reference that may be resolved
for it. -/
theorem Document.lookup?_congr {d : Document} {r : Request} {first second : Store}
    (agree : ∀ name ∈ d.dependencies r, first.get? name = second.get? name) {text : String}
    (involved : d.Involves r text) {ref : Reference} (member : ref ∈ Reference.allIn text.toList) :
    first.lookup? ref = second.lookup? ref := by
  have refers := involved.refers member
  obtain ⟨name, inside, same⟩ := known_dependencies refers
  have left : Text.Ascii name.toList := ascii_of_refers (refers_of_mem_dependencies inside)
  have right : Text.Ascii ref.name.toList := ascii_of_refers refers
  exact Store.lookup?_congr same left right (agree name inside)

namespace Context

/-- Contexts with the same variables put in the same for a group, if they resolve the values that it
may open alike. -/
theorem bound?_congr {first second : Context} (scopes : first.scope = second.scope) {deeper : Nat}
    {opened : List String} {inner : List Char}
    (inside : ∀ less name value, deeper = less + 1 → variableName? inner = some name →
      first.scope.get? name = some value →
      first.resolveWithin less (name :: opened) value.toList =
        second.resolveWithin less (name :: opened) value.toList) :
    first.bound? deeper opened inner = second.bound? deeper opened inner := by
  cases named : variableName? inner with
  | none => simp [bound?, named]
  | some name =>
    cases found : first.scope.get? name with
    | none => simp [bound?, named, found, ← scopes]
    | some value =>
      cases deeper with
      | zero => simp [bound?, named, found, ← scopes]
      | succ less => simp [bound?, named, found, ← scopes, inside less name value rfl named found]

end Context

section Agreement

variable {d : Document} {r : Request} {first second : Store}
variable {generate : String → Option String → Option String}

theorem Document.captured?_congr
    (agree : ∀ name ∈ d.dependencies r, first.get? name = second.get? name) {text : String}
    (involved : d.Involves r text) {inner : List Char} (member : .group inner ∈ pieces text.toList) :
    Context.captured? ⟨d.scope r, first, generate⟩ inner =
      Context.captured? ⟨d.scope r, second, generate⟩ inner := by
  cases found : Reference.ofInner? inner with
  | none => simp [Context.captured?, found]
  | some ref =>
    have inside : ref ∈ Reference.allIn text.toList := Reference.mem_allIn.mpr ⟨inner, member, found⟩
    simpa [Context.captured?, found] using lookup?_congr agree involved inside

theorem Context.plain_of_braceless {ctx : Context} {text : List Char}
    (generated : ∀ name arguments value, ctx.generate name arguments = some value →
      Braceless value.toList)
    (extracted : ∀ ref ∈ Reference.allIn text, ∀ value, ctx.store.lookup? ref = some value →
      Braceless value) : ctx.Plain text := by
  intro inner member new found
  rcases Option.or_eq_some_iff.mp found with found | ⟨_, found⟩
  · obtain ⟨ref, referred, value⟩ := Option.bind_eq_some_iff.mp found
    exact extracted ref (Reference.mem_allIn.mpr ⟨inner, member, referred⟩) new value
  · obtain ⟨⟨name, arguments⟩, _, made⟩ := Option.bind_eq_some_iff.mp found
    obtain ⟨value, given, rfl⟩ := Option.map_eq_some_iff.mp made
    exact generated name arguments value given

/-- The induction is on how much deeper values may be opened; every value that is opened is again
one that the texts lead to. -/
theorem Document.resolveWithin_congr
    (tidy : ∀ text, d.Involves r text → Tidy text.toList)
    (generated : ∀ name arguments value, generate name arguments = some value →
      Braceless value.toList)
    (extracted : ∀ text, d.Involves r text → ∀ ref ∈ Reference.allIn text.toList,
      ∀ value, first.lookup? ref = some value → Braceless value)
    (agree : ∀ name ∈ d.dependencies r, first.get? name = second.get? name)
    (deeper : Nat) (opened : List String) {text : String} (involved : d.Involves r text) :
    Context.resolveWithin ⟨d.scope r, first, generate⟩ deeper opened text.toList =
      Context.resolveWithin ⟨d.scope r, second, generate⟩ deeper opened text.toList := by
  induction deeper using Nat.strong_induction_on generalizing opened text with
  | _ deeper ih =>
    have plain : Context.Plain ⟨d.scope r, first, generate⟩ text.toList :=
      Context.plain_of_braceless generated (extracted text involved)
    have plain' : Context.Plain ⟨d.scope r, second, generate⟩ text.toList := by
      intro inner member
      rw [← captured?_congr agree involved member]
      exact plain inner member
    rw [Context.resolveWithin_tidy (tidy text involved) plain,
      Context.resolveWithin_tidy (tidy text involved) plain']
    refine replaceGroups_congr fun inner member => ?_
    have opens : Context.bound? ⟨d.scope r, first, generate⟩ deeper opened inner =
        Context.bound? ⟨d.scope r, second, generate⟩ deeper opened inner := by
      refine Context.bound?_congr (by rfl) fun less name value eq named found => ?_
      have known : d.value? r name = some value := by
        rw [← found]
        exact (Roster.get?_overlay d.bindings r.bindings name).symm
      exact ih less (by omega) _ (involved.value (mem_variablesIn member named) known)
    rw [Context.placed?, Context.placed?, captured?_congr agree involved member, opens]
    rfl

theorem Request.mapTexts_congr {change change' : Nat → String → String}
    (same : ∀ i, ∀ text ∈ r.texts, change i text = change' i text) :
    r.mapTexts change = r.mapTexts change' := by
  have url : change 0 r.url = change' 0 r.url := same 0 r.url (by simp [texts])
  have headers : r.headers.mapValues (fun i => change (i + 1)) =
      r.headers.mapValues fun i => change' (i + 1) := by
    refine Roster.ext (List.mapIdx_eq_mapIdx_iff.mpr fun i inside => ?_)
    have value : r.headers.entries[i].2 ∈ r.headers.entries.map Prod.snd :=
      List.mem_map_of_mem (List.getElem_mem inside)
    exact congrArg (Prod.mk _) (same (i + 1) _ (by simp [texts, value]))
  have body (i : Nat) : r.body.map (Body.map (change i)) = r.body.map (Body.map (change' i)) := by
    cases eq : r.body with
    | none => rfl
    | some body =>
      have text : change i body.text = change' i body.text := same i body.text (by simp [texts, eq])
      cases body <;> simpa [Body.map, Body.text] using text
  simp only [mapTexts, url, headers, body]

/-- Two sessions that agree on the exchanges a request is said to read from prepare it alike. The
texts involved are tidy, and nothing that is put into them holds braces. -/
theorem Session.prepare_eq_of_agree {table : MethodTable} {path content : String}
    (parsed : Document.parse table path content = .ok d) {index : Nat}
    (chosen : d.requests[index]? = some r)
    (tidy : ∀ text, d.Involves r text → Tidy text.toList)
    (generate : String → Option String → Option String)
    (generated : ∀ name arguments value, generate name arguments = some value → Braceless value.toList)
    (load : String → Except String Text.Bytes) (send : Prepared → Except RequestError Response)
    (extracted : ∀ text, d.Involves r text → ∀ ref ∈ Reference.allIn text.toList,
      ∀ value, first.lookup? ref = some value → Braceless value)
    (agree : ∀ name ∈ r.dependsOn, first.get? name = second.get? name) (settings : Settings) :
    Session.prepare settings ⟨generate, load, send⟩ first d index =
      Session.prepare settings ⟨generate, load, send⟩ second d index := by
  obtain ⟨names, _⟩ := Document.dependsOn_of_parse parsed (List.mem_of_getElem? chosen)
  rw [names] at agree
  have resolved : resolveRequest settings.depth generate first d r =
      resolveRequest settings.depth generate second d r := by
    refine Request.mapTexts_congr fun i text own => ?_
    rw [Context.resolveText_fixed ⟨d.scope r, first, generate⟩,
      Context.resolveText_fixed ⟨d.scope r, second, generate⟩, Context.resolve, Context.resolve,
      Document.resolveWithin_congr tidy generated extracted agree _ _ (.inl own)]
  rw [prepare, prepare, chosen]
  simp only [resolved]

end Agreement

def Store.threefold (body : String) : Store :=
  .ofList [("a", ⟨200, "1", .empty, none, .empty⟩), ("b", ⟨200, "2", .empty, none, .empty⟩),
    ("c", ⟨200, body, .empty, none, .empty⟩)]

def Surroundings.closed : Surroundings where
  generation := .fixed fun _ _ => none
  load _ := .error "closed"
  send _ := .error .timeout

theorem Document.bindings_indirect : (Document.read .standard "book" indirect).bindings.entries =
    [("t", "{{t}}{{a.response.body.*}}")] := by cbv

theorem Document.involves_indirect {text : String}
    (involved : (Document.read .standard "book" indirect).Involves indirectRequest text) :
    text = "{{t}}{{b.response.body.*}}" ∨ text = "{{t}}{{a.response.body.*}}" := by
  rcases involved with own | ⟨name, _, known⟩
  · left
    simpa [indirectRequest, Request.texts, Request.ofLine, Roster.empty] using own
  · right
    have own : indirectRequest.bindings.get? name = none := rfl
    rw [value?, own, Option.none_or] at known
    obtain ⟨entry, found, rfl⟩ := Option.map_eq_some_iff.mp known
    have member := List.mem_of_find?_eq_some found
    rw [bindings_indirect, List.mem_singleton] at member
    rw [member]

theorem Store.braceless_of_single {store : Store} {text : List Char} {ref : Reference}
    {value : List Char} (single : Reference.allIn text = [ref]) (given : store.lookup? ref = some value)
    (braceless : Braceless value) :
    ∀ other ∈ Reference.allIn text, ∀ found, store.lookup? other = some found → Braceless found := by
  intro other member found looked
  rw [single, List.mem_singleton] at member
  rw [member, given] at looked
  cases looked
  exact braceless

theorem Session.prepare_indirect : ∃ d, Document.parse .standard "book" Document.indirect = .ok d ∧
    (Store.threefold "3").get? "c" ≠ (Store.threefold "4").get? "c" ∧
    Session.prepare .standard .closed (.threefold "3") d 0 =
      Session.prepare .standard .closed (.threefold "4") d 0 := by
  have parsed : Document.parse .standard "book" Document.indirect =
      .ok (.read .standard "book" Document.indirect) := rfl
  have chosen : (Document.read .standard "book" Document.indirect).requests[0]? =
      some Document.indirectRequest := by rw [Document.requests_indirect]; rfl
  refine ⟨_, parsed, by decide +kernel, ?_⟩
  refine Session.prepare_eq_of_agree parsed chosen ?_ (fun _ _ => none) ?_ _ _ ?_ ?_ .standard
  · intro text inside
    rcases Document.involves_indirect inside with rfl | rfl
    · decide +kernel
    · decide +kernel
  · intro name arguments value generated
    cases generated
  · intro text inside
    rcases Document.involves_indirect inside with rfl | rfl
    · exact @Store.braceless_of_single _ _ ⟨"b", .response, .body, "*"⟩ ['2'] (by cbv) (by cbv) (by decide)
    · exact @Store.braceless_of_single _ _ ⟨"a", .response, .body, "*"⟩ ['1'] (by cbv) (by cbv) (by decide)
  · decide +kernel

end RequestBook
