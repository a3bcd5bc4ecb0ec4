import RequestBook.Placeholder.Generator
import RequestBook.Proofs.Independence

/-! Where values of the environment come in. They are generated like other values, after captured
values were put in and before variables are. So the environment matters only where a text asks for it
once its references are replaced: what a response holds is searched for placeholders like what stands
in the document. If no such text asks for it, every environment gives the same request. -/
namespace RequestBook

def Generator.environmentNames : List String := ["processEnv", "dotEnv", "dotenv"]

/-- A text asks for the environment if one of the names stands in it behind a dollar sign. -/
def AsksEnvironment (text : List Char) : Prop :=
  ∃ name ∈ Generator.environmentNames, '$' :: name.toList <:+: text

instance : DecidablePred AsksEnvironment := fun text =>
  inferInstanceAs (Decidable (∃ name ∈ Generator.environmentNames, '$' :: name.toList <:+: text))

/-- All texts of a document in which placeholders are resolved. -/
def Document.templates (d : Document) : List String :=
  d.bindings.entries.map Prod.snd ++
    d.requests.flatMap fun r => r.texts ++ r.bindings.entries.map Prod.snd

theorem Generator.evaluate?_congr {name : String} (other : name ∉ environmentNames)
    (clock : Calendar.Clock) (entropy : Nat) (first second : String → Option String)
    (arguments : Option String) :
    evaluate? ⟨clock, first, entropy⟩ name arguments = evaluate? ⟨clock, second, entropy⟩ name arguments := by
  simp only [environmentNames, List.mem_cons, List.not_mem_nil, or_false, not_or] at other
  unfold evaluate?
  split <;> simp_all [Sources.now]

theorem Text.prefix_of_readIdentifier {marks text name rest : List Char}
    (read : readIdentifier marks text = some (name, rest)) : name <+: text := by
  cases text with
  | nil => cases read
  | cons c more =>
    rw [readIdentifier] at read
    split at read
    next =>
      cases read
      exact List.cons_prefix_cons.mpr ⟨rfl, List.takeWhile_prefix _⟩
    next => cases read

/-- The name of a generated value stands in the group that asks for it, behind a dollar sign. -/
theorem infix_of_generatorCall? {inner : List Char} {name : String} {arguments : Option String}
    (call : generatorCall? inner = some (name, arguments)) : '$' :: name.toList <:+: inner := by
  have named : ∃ rest, Text.trimStart inner = '$' :: rest ∧ name.toList <+: rest := by
    unfold generatorCall? at call
    split at call
    next rest start =>
      refine ⟨rest, start, ?_⟩
      split at call
      next read =>
        cases call
        rw [String.toList_ofList]
        exact Text.prefix_of_readIdentifier read
      next read =>
        split at call
        · cases call
          rw [String.toList_ofList]
          exact Text.prefix_of_readIdentifier read
        · cases call
      next => cases call
    next => cases call
  obtain ⟨rest, start, front⟩ := named
  have behind : '$' :: rest <:+ inner := by
    rw [← start]
    exact List.dropWhile_suffix _
  exact (List.cons_prefix_cons.mpr ⟨rfl, front⟩).isInfix.trans behind.isInfix

theorem infix_of_mem_pieces {text inner : List Char} (member : .group inner ∈ pieces text) :
    inner <:+: text := by
  obtain ⟨before, after, split⟩ := List.append_of_mem member
  have whole := text_pieces text
  rw [split, List.flatMap_append, List.flatMap_cons] at whole
  refine ⟨before.flatMap Piece.text ++ ['{', '{'], ['}', '}'] ++ after.flatMap Piece.text, ?_⟩
  rw [← whole]
  simp [Piece.text, groupText]

/-- Values generated at one time from one environment, with random bits for every place. -/
def Generation.inEnvironment (clock : Calendar.Clock) (entropy : Place → Nat)
    (environment : String → Option String) : Generation :=
  .ofSources fun place => ⟨clock, environment, entropy place⟩

/-- In a text that does not ask for the environment, every group generates the same value. -/
theorem Generation.asked?_congr {text : List Char} (silent : ¬ AsksEnvironment text) {inner : List Char}
    (member : .group inner ∈ pieces text) (clock : Calendar.Clock) (entropy : Place → Nat)
    (first second : String → Option String) (place : Place) :
    (inEnvironment clock entropy first).asked? place inner =
      (inEnvironment clock entropy second).asked? place inner := by
  cases call : generatorCall? inner with
  | none => simp [asked?, call]
  | some asked =>
    obtain ⟨name, arguments⟩ := asked
    have other : name ∉ Generator.environmentNames := fun known =>
      silent ⟨name, known, (infix_of_generatorCall? call).trans (infix_of_mem_pieces member)⟩
    simp [asked?, call, inEnvironment, ofSources,
      Generator.evaluate?_congr other clock (entropy place) first second]

theorem Roster.mem_values_of_get? {key : String → String} {α : Type} {roster : Roster key α}
    {name : String} {value : α} (found : roster.get? name = some value) :
    value ∈ roster.entries.map Prod.snd := by
  obtain ⟨entry, inside, _, rfl⟩ := mem_of_get? found
  exact List.mem_map_of_mem inside

/-- A variable that a request sees has a value of the file or of the request. -/
theorem Document.mem_templates_of_scope {d : Document} {r : Request} (member : r ∈ d.requests)
    {name value : String} (found : (d.scope r).get? name = some value) : value ∈ d.templates := by
  rw [scope, Roster.get?_overlay] at found
  rcases Option.or_eq_some_iff.mp found with own | ⟨_, file⟩
  · have inside := Roster.mem_values_of_get? own
    exact List.mem_append_right _ (List.mem_flatMap.mpr ⟨r, member, List.mem_append_right _ inside⟩)
  · exact List.mem_append_left _ (Roster.mem_values_of_get? file)

/-- If no text of a document asks for the environment once its references are replaced, every
environment prepares the same request. Captured values are put in without regard to the environment, so
only the texts that they leave have to be looked at. -/
theorem Session.prepare_environment {d : Document} {store : Store}
    (silent : ∀ text ∈ d.templates, ¬ AsksEnvironment (store.resolveAll text.toList))
    (settings : Settings) (clock : Calendar.Clock) (entropy : Place → Nat)
    (first second : String → Option String) (load : String → Except String Text.Bytes)
    (send : Prepared → Except RequestError Response) (index : Nat) :
    prepare settings ⟨.inEnvironment clock entropy first, load, send⟩ store d index =
      prepare settings ⟨.inEnvironment clock entropy second, load, send⟩ store d index := by
  cases chosen : d.requests[index]? with
  | none => simp [prepare, chosen]
  | some r =>
    have member : r ∈ d.requests := List.mem_of_getElem? chosen
    have values : ∀ name value, (d.scope r).get? name = some value →
        ¬ AsksEnvironment (store.resolveAll value.toList) := fun name value found =>
      silent value (Document.mem_templates_of_scope member found)
    have resolved : resolveRequest settings.depth (.inEnvironment clock entropy first) store d r =
        resolveRequest settings.depth (.inEnvironment clock entropy second) store d r := by
      refine Request.mapTexts_congr fun i text own => congrArg String.ofList ?_
      have inside : text ∈ d.templates :=
        List.mem_append_right _ (List.mem_flatMap.mpr ⟨r, member, List.mem_append_left _ own⟩)
      refine resolveAt_congr (fun text => ¬ AsksEnvironment (store.resolveAll text)) ?_ values _ _ _
        (silent text inside)
      exact fun text quiet inner asked => Generation.asked?_congr quiet asked clock entropy first second
    simp only [prepare, chosen, resolved]

namespace Session

def answered (body : String) : Store := .ofList [("a", ⟨200, body, .empty, none, .empty⟩)]

/-- A request that sends on what `a` answered, through a variable. -/
def forwarding : Document :=
  { Document.empty "book" with
    bindings := .ofList [("t", "{{a.response.body.*}}")]
    requests := [{ Request.ofLine "GET" "https://[::1]/{{t}}" 2 with
      dependsOn := ["a"], hasReferences := true }] }

def supplied (environment : String → Option String) : Surroundings where
  generation := .inEnvironment ⟨⟨0, 0⟩, .universal⟩ (·.headD 0) environment
  load _ := .error "closed"
  send _ := .error .timeout

/-- A response may hold placeholders, as long as they do not ask for the environment. -/
theorem prepare_environment_forwarding :
    (∀ text ∈ forwarding.templates,
      ¬ AsksEnvironment ((answered "{{$guid}}{{$processenv X}}").resolveAll text.toList)) ∧
    prepare .standard (supplied fun _ => some "1") (answered "{{$guid}}{{$processenv X}}") forwarding 0 =
      prepare .standard (supplied fun _ => none) (answered "{{$guid}}{{$processenv X}}") forwarding 0 := by
  have silent : ∀ text ∈ forwarding.templates,
      ¬ AsksEnvironment ((answered "{{$guid}}{{$processenv X}}").resolveAll text.toList) := by
    decide +kernel
  exact ⟨silent, prepare_environment silent _ _ _ _ _ _ _ _⟩

def reading : String := "GET https://[::1]/{{a.response.body.*}}"

def readingBook : Document :=
  { Document.empty "book" with
    requests := [{ Request.ofLine "GET" "https://[::1]/{{a.response.body.*}}" 1 with
      dependsOn := ["a"], hasReferences := true }] }

theorem parse_reading : Document.parse .standard "book" reading = .ok readingBook := by
  have read : Document.read .standard "book" reading = readingBook := by cbv
  exact congrArg Except.ok read

/-- That the document does not ask for the environment is not enough: a response may. -/
theorem not_prepare_environment : ¬ ∀ (table : MethodTable) (path content : String) (d : Document)
    (settings : Settings) (clock : Calendar.Clock) (entropy : Place → Nat)
    (first second : String → Option String) (load : String → Except String Text.Bytes)
    (send : Prepared → Except RequestError Response) (store : Store) (index : Nat),
    Document.parse table path content = .ok d → (∀ text ∈ d.templates, ¬ AsksEnvironment text.toList) →
    prepare settings ⟨.inEnvironment clock entropy first, load, send⟩ store d index =
      prepare settings ⟨.inEnvironment clock entropy second, load, send⟩ store d index := by
  intro claim
  have same := claim _ _ _ _ .standard ⟨⟨0, 0⟩, .universal⟩ (fun _ => 0) (fun _ => some "1") (fun _ => some "2")
    (fun _ => .error "") (fun _ => .error .timeout) (answered "{{$processEnv X}}") 0 parse_reading
    (by decide +kernel)
  revert same
  decide +kernel

end Session

end RequestBook
