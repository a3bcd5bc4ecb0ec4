import Mathlib
import RequestBook.Proofs.BlockReading
import RequestBook.Proofs.CaseFolding

/-! What a request reads from, against what its texts lead to. A text leads to the variables that
its placeholders name, and to whatever their values lead to. The search for names enters the value of
each variable once; the names it collects are those of the request's own texts and those of the
values that the texts lead to, each once up to case. -/
namespace RequestBook

def Reference.allIn (text : List Char) : List Reference := (Reference.findAll text).map Prod.snd

def Reference.namesIn (text : List Char) : List String := (allIn text).map Reference.name

/-- A variable that is led to from variables named at the start, where `value` gives the values. -/
inductive Reached (value : String → Option String) (start : List String) : String → Prop where
  | start {name : String} : name ∈ start → Reached value start name
  | through {name text next : String} : Reached value start name → value name = some text →
      next ∈ variablesIn text.toList → Reached value start next

def Document.value? (d : Document) (r : Request) (name : String) : Option String :=
  (r.bindings.get? name).or (d.bindings.get? name)

/-- The texts of a request lead to a variable. -/
def Document.Reaches (d : Document) (r : Request) : String → Prop :=
  Reached (d.value? r) (r.texts.flatMap fun text => variablesIn text.toList)

def Request.RefersTo (r : Request) (name : String) : Prop :=
  ∃ text ∈ r.texts, name ∈ Reference.namesIn text.toList

def Document.LeadsTo (d : Document) (r : Request) (value : String) : Prop :=
  ∃ name, d.Reaches r name ∧ d.value? r name = some value

/-- A value that the texts of a request lead to refers to the name. -/
def Document.RefersThrough (d : Document) (r : Request) (name : String) : Prop :=
  ∃ value, d.LeadsTo r value ∧ name ∈ Reference.namesIn value.toList

namespace Reached

variable {value value' : String → Option String} {start start' rest : List String}
variable {head name : String}

theorem not_nil : ¬ Reached value [] name := by
  intro reached
  induction reached with
  | start member => cases member
  | through _ _ _ ih => exact ih

/-- Fewer values, from variables that are reached anyhow, lead to nothing new. -/
theorem mono (fewer : ∀ n text, value n = some text → value' n = some text)
    (before : ∀ n ∈ start, Reached value' start' n) (reached : Reached value start name) :
    Reached value' start' name := by
  induction reached with
  | start member => exact before _ member
  | through _ known next ih => exact .through ih (fewer _ _ known) next

/-- Once the variables in the value of `head` are among those to start from, `head` itself and its
value are no longer needed. -/
theorem apart (others : ∀ n, n ≠ head → value' n = value n) (kept : ∀ n ∈ rest, n ∈ start')
    (opened : ∀ text, value head = some text → ∀ n ∈ variablesIn text.toList, n ∈ start')
    (reached : Reached value (head :: rest) name) : name = head ∨ Reached value' start' name := by
  induction reached with
  | start member =>
    rcases List.mem_cons.mp member with same | member
    · exact .inl same
    · exact .inr (.start (kept _ member))
  | @through name text next _ known inside ih =>
    by_cases same : name = head
    · exact .inr (.start (opened text (same ▸ known) next inside))
    · exact .inr (.through (ih.resolve_left same) ((others name same).trans known) inside)

/-- A variable without a value leads nowhere. -/
theorem skip {text : String} (missing : value head = none) :
    (∃ name, Reached value (head :: rest) name ∧ value name = some text) ↔
      ∃ name, Reached value rest name ∧ value name = some text := by
  constructor
  · rintro ⟨name, reached, known⟩
    refine ⟨name, (reached.apart (fun _ _ => rfl) (fun _ => id) ?_).resolve_left ?_, known⟩
    · simp [missing]
    · rintro rfl
      simp [missing] at known
  · rintro ⟨name, reached, known⟩
    refine ⟨name, reached.mono (fun _ _ => id) fun n member => ?_, known⟩
    exact .start (List.mem_cons_of_mem _ member)

end Reached

namespace Reference

theorem collectNames_eq (names : List String) (text : List Char) :
    collectNames names text = (namesIn text).foldl addName names := by
  rw [collectNames, namesIn, allIn, List.map_map]
  rfl

theorem map_snd_locate (offset : Nat) (ps : List Piece) :
    (locate offset ps).map Prod.snd = ps.filterMap fun
      | .group inner => ofInner? inner
      | .char _ => none := by
  induction ps generalizing offset with
  | nil => rfl
  | cons piece rest ih =>
    cases piece with
    | char c => simpa [locate] using ih _
    | group inner => cases found : ofInner? inner <;> simpa [locate, found] using ih _

theorem mem_allIn {text : List Char} {r : Reference} :
    r ∈ allIn text ↔ ∃ inner, .group inner ∈ pieces text ∧ ofInner? inner = some r := by
  rw [allIn, findAll, map_snd_locate, List.mem_filterMap]
  constructor
  · rintro ⟨piece, member, found⟩
    cases piece with
    | char c => cases found
    | group inner => exact ⟨inner, member, found⟩
  · rintro ⟨inner, member, found⟩
    exact ⟨.group inner, member, found⟩

theorem addName_cases (names : List String) (name : String) :
    (addName names name = names ∧ ∃ n ∈ names, sameName n name = true) ∨
    (addName names name = names ++ [name] ∧ ∀ n ∈ names, sameName n name = false) := by
  unfold addName
  split
  next known =>
    obtain ⟨n, member, same⟩ := List.any_eq_true.mp known
    exact .inl ⟨rfl, n, member, sameName_iff.mpr (sameName_iff.mp same).symm⟩
  next unknown =>
    refine .inr ⟨rfl, fun n member => ?_⟩
    rw [Bool.eq_false_iff]
    exact fun same => unknown (List.any_eq_true.mpr
      ⟨n, member, sameName_iff.mpr (sameName_iff.mp same).symm⟩)

/-- Names that are added one after the other are appended to those there were. -/
theorem foldl_addName_append (new names : List String) :
    ∃ added, new.foldl addName names = names ++ added ∧ ∀ name ∈ added, name ∈ new := by
  induction new generalizing names with
  | nil => exact ⟨[], by simp⟩
  | cons name rest ih =>
    obtain ⟨added, eq, inside⟩ := ih (addName names name)
    rcases addName_cases names name with ⟨kept, _⟩ | ⟨grown, _⟩
    · refine ⟨added, by rw [List.foldl_cons, eq, kept], ?_⟩
      exact fun n member => List.mem_cons_of_mem _ (inside n member)
    · refine ⟨name :: added, by rw [List.foldl_cons, eq, grown, List.append_assoc]; rfl, ?_⟩
      intro n member
      rcases List.mem_cons.mp member with rfl | member
      · exact List.mem_cons_self
      · exact List.mem_cons_of_mem _ (inside n member)

/-- Every name that is added is found afterwards, up to case. -/
theorem known_foldl_addName {new : List String} {name : String} (member : name ∈ new)
    (names : List String) : ∃ n ∈ new.foldl addName names, sameName n name = true := by
  induction new generalizing names with
  | nil => simp at member
  | cons head rest ih =>
    rcases List.mem_cons.mp member with rfl | member
    · have known : ∃ n ∈ addName names name, sameName n name = true := by
        rcases addName_cases names name with ⟨kept, found⟩ | ⟨grown, _⟩
        · rw [kept]
          exact found
        · exact ⟨name, by rw [grown]; simp, sameName_iff.mpr rfl⟩
      obtain ⟨n, inside, same⟩ := known
      obtain ⟨added, eq, _⟩ := foldl_addName_append rest (addName names name)
      exact ⟨n, by rw [List.foldl_cons, eq]; exact List.mem_append_left _ inside, same⟩
    · exact ih member _

theorem distinct_foldl_addName (new : List String) {names : List String}
    (distinct : names.Pairwise fun a b => sameName a b = false) :
    (new.foldl addName names).Pairwise fun a b => sameName a b = false := by
  induction new generalizing names with
  | nil => exact distinct
  | cons name rest ih =>
    refine ih ?_
    rcases addName_cases names name with ⟨kept, _⟩ | ⟨grown, apart⟩
    · rw [kept]
      exact distinct
    · rw [grown, List.pairwise_append]
      refine ⟨distinct, List.pairwise_singleton _ _, fun a inside b last => ?_⟩
      rw [List.mem_singleton.mp last]
      exact apart a inside

end Reference

namespace Document

def valueIn (entries : List (String × String)) (name : String) : Option String :=
  (entries.find? fun entry => entry.1 == name).map Prod.snd

theorem valueIn_apartFrom {name other : String} (apart : other ≠ name)
    (entries : List (String × String)) : valueIn (apartFrom name entries) other = valueIn entries other := by
  unfold valueIn apartFrom
  rw [List.find?_filter]
  refine congrArg _ (congrArg (List.find? · entries) (funext fun entry => ?_))
  by_cases same : entry.1 = other
  · simp [same, apart]
  · simp [same]

theorem valueIn_of_apartFrom {name other value : String} {entries : List (String × String)}
    (found : valueIn (apartFrom name entries) other = some value) :
    valueIn entries other = some value := by
  by_cases same : other = name
  · have none : valueIn (apartFrom name entries) name = none := by simp [valueIn, apartFrom]
    rw [same, none] at found
    cases found
  · rw [← valueIn_apartFrom same, found]

/-- The values that are led to from a variable and others are its own value, and those led to from
the variables in it and the others once it is put aside. -/
theorem reached_open {unread : List (String × String)} {name text value : String} {rest : List String}
    (known : valueIn unread name = some text) :
    (∃ var, Reached (valueIn unread) (name :: rest) var ∧ valueIn unread var = some value) ↔
      value = text ∨ ∃ var, Reached (valueIn (apartFrom name unread))
        (variablesIn text.toList ++ rest) var ∧ valueIn (apartFrom name unread) var = some value := by
  constructor
  · rintro ⟨var, reached, seen⟩
    by_cases same : var = name
    · rw [same, known] at seen
      exact .inl (Option.some_inj.mp seen).symm
    · refine .inr ⟨var, (reached.apart (fun n other => valueIn_apartFrom other unread)
        (fun n => List.mem_append_right _) ?_).resolve_left same, ?_⟩
      · intro opened entered n inside
        rw [known] at entered
        cases entered
        exact List.mem_append_left _ inside
      · rw [valueIn_apartFrom same, seen]
  · rintro (rfl | ⟨var, reached, seen⟩)
    · exact ⟨name, .start List.mem_cons_self, known⟩
    · refine ⟨var, reached.mono (fun _ _ => valueIn_of_apartFrom) fun n member => ?_,
        valueIn_of_apartFrom seen⟩
      rcases List.mem_append.mp member with inside | member
      · exact .through (.start List.mem_cons_self) known inside
      · exact .start (List.mem_cons_of_mem _ member)

/-- The search enters exactly the values that the variables lead to, and adds the names that these
refer to. -/
theorem collectThrough_eq (unread : List (String × String)) (todo names : List String) :
    ∃ values : List String, collectThrough unread todo names =
        (values.flatMap fun value => Reference.namesIn value.toList).foldl Reference.addName names ∧
      ∀ value, value ∈ values ↔
        ∃ name, Reached (valueIn unread) todo name ∧ valueIn unread name = some value := by
  fun_induction collectThrough unread todo names with
  | case1 unread names =>
    refine ⟨[], rfl, fun value => ?_⟩
    simp [Reached.not_nil]
  | case2 unread names name rest found ih =>
    obtain ⟨values, eq, led⟩ := ih
    have missing : valueIn unread name = none := by simp [valueIn, found]
    exact ⟨values, eq, fun value => (led value).trans (Reached.skip missing).symm⟩
  | case3 unread names name rest key text found shorter ih =>
    obtain ⟨values, eq, led⟩ := ih
    have known : valueIn unread name = some text := by simp [valueIn, found]
    refine ⟨text :: values, ?_, fun value => ?_⟩
    · rw [eq, Reference.collectNames_eq, List.flatMap_cons, List.foldl_append]
    · rw [List.mem_cons, led value, reached_open known]

variable {table : MethodTable} {path content : String} {d : Document} {r : Request}

theorem valueIn_scope (d : Document) (r : Request) :
    valueIn (d.scope r).entries = d.value? r := by
  funext name
  exact Roster.get?_overlay d.bindings r.bindings name

/-- What a request reads from are the names in its texts and then those in the values that they
lead to, each added unless it is there. -/
theorem dependencies_eq (d : Document) (r : Request) :
    ∃ values : List String, (∀ value, value ∈ values ↔ d.LeadsTo r value) ∧
      d.dependencies r =
        (values.flatMap fun value => Reference.namesIn value.toList).foldl Reference.addName
          ((r.texts.flatMap fun text => Reference.namesIn text.toList).foldl Reference.addName []) := by
  obtain ⟨values, eq, led⟩ := collectThrough_eq (d.scope r).entries
    ((r.texts.map String.toList).flatMap variablesIn)
    ((r.texts.map String.toList).foldl Reference.collectNames [])
  rw [valueIn_scope, List.flatMap_map] at led
  have direct : (r.texts.map String.toList).foldl Reference.collectNames [] =
      (r.texts.flatMap fun text => Reference.namesIn text.toList).foldl Reference.addName [] := by
    simp only [List.foldl_map, List.foldl_flatMap, Reference.collectNames_eq]
  exact ⟨values, led, by rw [dependencies, eq, direct]⟩

theorem distinct_dependencies (d : Document) (r : Request) :
    (d.dependencies r).Pairwise fun a b => sameName a b = false := by
  obtain ⟨values, _, eq⟩ := dependencies_eq d r
  rw [eq]
  exact Reference.distinct_foldl_addName _ (Reference.distinct_foldl_addName _ List.Pairwise.nil)

/-- The names in the texts of a request come first, and then those that only values refer to. -/
theorem dependencies_parts (d : Document) (r : Request) :
    ∃ direct through, d.dependencies r = direct ++ through ∧
      (∀ name ∈ direct, r.RefersTo name) ∧ (∀ name ∈ through, d.RefersThrough r name) ∧
      ∀ name ∈ through, ∀ other, r.RefersTo other → sameName other name = false := by
  obtain ⟨values, led, eq⟩ := dependencies_eq d r
  obtain ⟨direct, directEq, inTexts⟩ := Reference.foldl_addName_append
    (r.texts.flatMap fun text => Reference.namesIn text.toList) []
  rw [List.nil_append] at directEq
  rw [directEq] at eq
  obtain ⟨through, throughEq, inValues⟩ := Reference.foldl_addName_append
    (values.flatMap fun value => Reference.namesIn value.toList) direct
  refine ⟨direct, through, eq.trans throughEq, ?_, ?_, ?_⟩
  · intro name member
    exact List.mem_flatMap.mp (inTexts name member)
  · intro name member
    obtain ⟨value, inside, named⟩ := List.mem_flatMap.mp (inValues name member)
    exact ⟨value, (led value).mp inside, named⟩
  · intro name member other refers
    obtain ⟨n, inside, same⟩ := Reference.known_foldl_addName (List.mem_flatMap.mpr refers) []
    rw [directEq] at inside
    have distinct := distinct_dependencies d r
    rw [eq, throughEq] at distinct
    have apart := (List.pairwise_append.mp distinct).2.2 n inside name member
    rw [sameName, sameName_iff.mp same] at apart
    exact apart

theorem refers_of_mem_dependencies {name : String} (member : name ∈ d.dependencies r) :
    r.RefersTo name ∨ d.RefersThrough r name := by
  obtain ⟨direct, through, eq, refers, leads, _⟩ := dependencies_parts d r
  rw [eq, List.mem_append] at member
  exact member.imp (refers name) (leads name)

theorem known_dependencies {name : String} (refers : r.RefersTo name ∨ d.RefersThrough r name) :
    ∃ n ∈ d.dependencies r, sameName n name = true := by
  obtain ⟨values, led, eq⟩ := dependencies_eq d r
  rw [eq, ← List.foldl_append]
  refine Reference.known_foldl_addName ?_ []
  rw [List.mem_append]
  rcases refers with refers | ⟨value, leads, named⟩
  · exact .inl (List.mem_flatMap.mpr refers)
  · exact .inr (List.mem_flatMap.mpr ⟨value, (led value).mpr leads, named⟩)

theorem link_link {e : Document} (same : d.bindings = e.bindings) (r : Request) :
    d.link (e.link r) = e.link r := by
  simp only [link, dependencies, scope, same]
  rfl

theorem requests_ofBlocks (table : MethodTable) (path : String) (blocks : List Block) :
    ∃ (file : Document) (bare : List Request),
      (Document.ofBlocks table path blocks).bindings = file.bindings ∧
      (Document.ofBlocks table path blocks).requests = bare.map file.link :=
  ⟨_, _, rfl, rfl⟩

/-- The requests of a text that was read have what they read from filled in. -/
theorem link_of_mem_read (member : r ∈ (Document.read table path content).requests) :
    (Document.read table path content).link r = r := by
  rw [read_eq_ofBlocks] at member ⊢
  obtain ⟨file, bare, bindings, requests⟩ := requests_ofBlocks table path
    (Block.split none (numberLines (Text.lines content.toList)))
  rw [requests] at member
  obtain ⟨request, _, rfl⟩ := List.mem_map.mp member
  exact link_link bindings request

theorem dependsOn_of_parse (parsed : Document.parse table path content = .ok d)
    (member : r ∈ d.requests) :
    r.dependsOn = d.dependencies r ∧ r.hasReferences = !(d.dependencies r).isEmpty := by
  unfold Document.parse at parsed
  split at parsed
  · cases parsed
  · cases parsed
    have linked := link_of_mem_read member
    exact ⟨congrArg Request.dependsOn linked.symm, congrArg Request.hasReferences linked.symm⟩

/-- A request is said to read from exactly what it refers to. -/
structure DependsExactly (d : Document) (r : Request) : Prop where
  /-- every name is that of a reference in its texts or in a value that they lead to -/
  sound : ∀ name ∈ r.dependsOn, r.RefersTo name ∨ d.RefersThrough r name
  /-- every such reference has its name among them, up to case -/
  complete : ∀ name, r.RefersTo name ∨ d.RefersThrough r name →
    ∃ n ∈ r.dependsOn, sameName n name = true
  distinct : r.dependsOn.Pairwise fun a b => sameName a b = false
  /-- the names in its own texts come before those that only values refer to -/
  directFirst : ∃ direct through, r.dependsOn = direct ++ through ∧
    (∀ name ∈ direct, r.RefersTo name) ∧
    ∀ name ∈ through, ∀ other, r.RefersTo other → sameName other name = false
  flagged : r.hasReferences = true ↔ r.dependsOn ≠ []

/-- Every request of a text that was read is said to read from exactly what it refers to. -/
theorem dependsExactly_of_parse (parsed : Document.parse table path content = .ok d)
    (member : r ∈ d.requests) : d.DependsExactly r := by
  obtain ⟨names, references⟩ := dependsOn_of_parse parsed member
  obtain ⟨direct, through, eq, refers, _, apart⟩ := dependencies_parts d r
  rw [← names] at eq
  refine ⟨?_, ?_, ?_, ⟨direct, through, eq, refers, apart⟩, ?_⟩
  · rw [names]
    exact fun name => refers_of_mem_dependencies
  · rw [names]
    exact fun name => known_dependencies
  · rw [names]
    exact distinct_dependencies d r
  · rw [references, names, Bool.not_eq_true', List.isEmpty_eq_false_iff]

/-- A request that refers to one exchange itself and to another in the value of a variable, which
names the variable again. -/
def indirect : String := "@t = {{t}}{{a.response.body.*}}\nGET {{t}}{{b.response.body.*}}"

def indirectRequest : Request :=
  { Request.ofLine "GET" "{{t}}{{b.response.body.*}}" 2 with
    dependsOn := ["b", "a"], hasReferences := true }

theorem requests_indirect :
    (Document.read .standard "book" indirect).requests = [indirectRequest] := by cbv

theorem dependsExactly_indirect : ∃ d r, Document.parse .standard "book" indirect = .ok d ∧
    r ∈ d.requests ∧ r.dependsOn = ["b", "a"] ∧ d.DependsExactly r := by
  have parsed : Document.parse .standard "book" indirect = .ok (.read .standard "book" indirect) := rfl
  have member : indirectRequest ∈ (Document.read .standard "book" indirect).requests := by
    simp [requests_indirect]
  exact ⟨_, _, parsed, member, rfl, dependsExactly_of_parse parsed member⟩

end Document

end RequestBook
