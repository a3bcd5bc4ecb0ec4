import RequestBook.Proofs.Tidy

/-! Tidy texts are resolved group by group. What a group becomes depends on the group alone, not on
the text around it, so a text may be resolved in parts wherever no group lies across a joint. -/
namespace RequestBook

theorem Tidy.behind {before text : List Char} (unopened : ∀ c ∈ before, c ≠ '{') (tidy : Tidy text) :
    Tidy (before ++ text) := by
  induction before with
  | nil => exact tidy
  | cons c before ih =>
    obtain ⟨first, others⟩ := List.forall_mem_cons.mp unopened
    exact tidy_cons.mpr ⟨fun _ opening => absurd opening first, ih others⟩

theorem Braceless.ne_opening {text : List Char} (braceless : Braceless text) {c : Char}
    (member : c ∈ text) : c ≠ '{' := by
  rintro rfl
  have plain := braceless '{' member
  simp [isBrace] at plain

theorem Tidy.behind_group {inner text : List Char} (braceless : Braceless inner) (tidy : Tidy text) :
    Tidy (groupText inner ++ text) := by
  have closing : Tidy (['}', '}'] ++ text) := tidy.behind (by simp)
  have whole : groupText inner ++ text = '{' :: '{' :: (inner ++ '}' :: '}' :: text) := by
    simp [groupText]
  rw [whole]
  refine tidy_cons.mpr ⟨?_, tidy_cons.mpr ⟨?_, ?_⟩⟩
  · intro after _ eq
    cases eq
    rw [groupInner?_eq_some.mpr ⟨rfl, braceless⟩]
    rfl
  · intro after _ eq
    -- the character behind the opening braces is that of a text without braces, or a closing one
    cases inner with
    | nil => cases eq
    | cons c inner =>
      cases eq
      exact absurd rfl (braceless.ne_opening List.mem_cons_self)
  · exact closing.behind fun c member => braceless.ne_opening member

theorem tidy_groupText {inner : List Char} (braceless : Braceless inner) : Tidy (groupText inner) := by
  have empty : Tidy [] := isTidy_iff.mp rfl
  simpa using empty.behind_group braceless

theorem pieces_groupText {inner : List Char} (braceless : Braceless inner) :
    pieces (groupText inner) = [.group inner] := by
  have single := pieces_group braceless []
  rw [List.append_nil] at single
  rw [single, pieces]

theorem braceless_of_mem_pieces {text inner : List Char} (member : .group inner ∈ pieces text) :
    Braceless inner := by
  fun_induction pieces text with
  | case1 => cases member
  | case2 rest inside after found shorter ih =>
    rcases List.mem_cons.mp member with same | later
    · cases same
      exact (groupInner?_eq_some.mp found).2
    · exact ih later
  | case3 rest none ih =>
    rcases List.mem_cons.mp member with same | later
    · cases same
    · exact ih later
  | case4 c rest single ih =>
    rcases List.mem_cons.mp member with same | later
    · cases same
    · exact ih later

/-- No group of the joined text lies across the joint: each ends before it or begins behind it. -/
def WholeGroups (first second : List Char) : Prop :=
  ∀ before inner after, first ++ second = before ++ groupText inner ++ after → Braceless inner →
    (before ++ groupText inner).length ≤ first.length ∨ first.length ≤ before.length

theorem WholeGroups.right {start first second : List Char}
    (whole : WholeGroups (start ++ first) second) : WholeGroups first second := by
  intro before inner after eq braceless
  have joined : start ++ first ++ second = (start ++ before) ++ groupText inner ++ after := by
    simp [eq]
  have placed := whole _ inner after joined braceless
  simp only [List.length_append] at placed ⊢
  omega

theorem WholeGroups.tail {c : Char} {first second : List Char}
    (whole : WholeGroups (c :: first) second) : WholeGroups first second := by
  rw [← List.singleton_append] at whole
  exact whole.right

/-- A group at the beginning of the joined text stands in the first part, unless that is empty. -/
theorem WholeGroups.inFirst {first second inner after : List Char} (whole : WholeGroups first second)
    (inked : first ≠ []) (braceless : Braceless inner)
    (eq : first ++ second = groupText inner ++ after) : ∃ rest, first = groupText inner ++ rest := by
  have some : 0 < first.length := List.length_pos_iff.mpr inked
  have short : (groupText inner).length ≤ first.length := by
    have placed := whole [] inner after eq braceless
    simp only [List.nil_append, List.length_nil] at placed
    omega
  have start : groupText inner <+: first ++ second := ⟨after, eq.symm⟩
  obtain ⟨rest, eq⟩ := List.prefix_of_prefix_length_le start (List.prefix_append first second) short
  exact ⟨rest, eq.symm⟩

theorem WholeGroups.tidy_first {first second : List Char} (whole : WholeGroups first second)
    (tidy : Tidy (first ++ second)) : Tidy first := by
  rintro before after rfl
  have joined : before ++ '{' :: '{' :: after ++ second = before ++ '{' :: '{' :: (after ++ second) := by
    simp
  obtain ⟨inner, behind, eq, braceless⟩ := tidy before (after ++ second) joined
  obtain ⟨rest, inside⟩ := whole.right.inFirst (by simp) braceless
    (show '{' :: '{' :: after ++ second = groupText inner ++ behind by simp [groupText, eq])
  exact ⟨inner, rest, by simpa [groupText] using inside, braceless⟩

/-- The pieces of a tidy text are those of its parts, if no group lies across the joint. -/
theorem pieces_append {first second : List Char} (tidy : Tidy (first ++ second))
    (whole : WholeGroups first second) : pieces (first ++ second) = pieces first ++ pieces second := by
  fun_induction pieces first with
  | case1 => rfl
  | case2 rest inner after found shorter ih =>
    obtain ⟨rfl, braceless⟩ := groupInner?_eq_some.mp found
    have text : '{' :: '{' :: (inner ++ '}' :: '}' :: after) = groupText inner ++ after := by
      simp [groupText]
    rw [text] at tidy whole ⊢
    rw [List.append_assoc] at tidy ⊢
    rw [pieces_group braceless, ih tidy.right whole.right, List.cons_append]
  | case3 rest none ih =>
    -- the group that the braces open would lie across the joint
    obtain ⟨inner, after, eq, braceless⟩ := tidy [] (rest ++ second) rfl
    obtain ⟨more, inside⟩ := whole.inFirst (by simp) braceless
      (show '{' :: '{' :: rest ++ second = groupText inner ++ after by simp [groupText, eq])
    have shape : rest = inner ++ '}' :: '}' :: more := by simpa [groupText] using inside
    rw [groupInner?_eq_some.mpr ⟨shape, braceless⟩] at none
    cases none
  | case4 c rest single ih =>
    rw [List.cons_append, pieces_char, ih tidy.tail (WholeGroups.tail whole), List.cons_append]
    rintro rfl opening
    obtain ⟨after, eq⟩ := List.head?_eq_some_iff.mp opening
    obtain ⟨inner, behind, rfl, braceless⟩ := tidy [] after (by rw [List.cons_append, eq]; rfl)
    obtain ⟨more, inside⟩ := whole.inFirst (by simp) braceless
      (show '{' :: rest ++ second = groupText inner ++ behind by
        rw [List.cons_append, eq]; simp [groupText])
    obtain ⟨_, shape⟩ := List.cons.inj inside
    exact single _ rfl shape

namespace Context

variable {ctx : Context} {text : List Char}

theorem Plain.group (plain : ctx.Plain text) {inner : List Char} (member : .group inner ∈ pieces text) :
    ctx.Plain (groupText inner) := by
  intro other inside
  rw [pieces_groupText (braceless_of_mem_pieces member), List.mem_singleton] at inside
  cases inside
  exact plain inner member

/-- What a group of a tidy text becomes when it is resolved by itself. -/
theorem resolveWithin_group (plain : ctx.Plain text) {inner : List Char}
    (member : .group inner ∈ pieces text) (deeper : Nat) (opened : List String) :
    ctx.resolveWithin deeper opened (groupText inner) =
      (ctx.placed? deeper opened inner).getD (groupText inner) := by
  have braceless := braceless_of_mem_pieces member
  rw [resolveWithin_tidy (tidy_groupText braceless) (plain.group member), replaceGroups,
    pieces_groupText braceless]
  simp [Piece.replace]

/-- The text with every group replaced by what it becomes by itself. -/
def resolveEach (ctx : Context) (depth : Nat) (text : String) : String :=
  String.ofList (replaceGroups
    (fun inner => some (ctx.resolve depth (String.ofList (groupText inner))).toList) text.toList)

theorem resolve_eq_resolveEach {text : String} (tidy : Tidy text.toList) (plain : ctx.Plain text.toList)
    (depth : Nat) : ctx.resolve depth text = ctx.resolveEach depth text := by
  rw [resolve, resolveEach, resolveWithin_tidy tidy plain]
  refine congrArg String.ofList (List.flatMap_congr fun piece member => ?_)
  cases piece with
  | char c => rfl
  | group inner =>
    have alone := resolveWithin_group plain member (depth - 1) []
    simp [Piece.replace, resolve, alone]

theorem resolve_append {first second : String} (tidy : Tidy (first ++ second).toList)
    (plain : ctx.Plain (first ++ second).toList) (whole : WholeGroups first.toList second.toList)
    (depth : Nat) :
    ctx.resolve depth (first ++ second) = ctx.resolve depth first ++ ctx.resolve depth second := by
  rw [resolve_eq_resolveEach tidy plain]
  rw [String.toList_append] at tidy plain
  have parts := pieces_append tidy whole
  have plainFirst : ctx.Plain first.toList := fun inner member =>
    plain inner (by rw [parts]; exact List.mem_append_left _ member)
  have plainSecond : ctx.Plain second.toList := fun inner member =>
    plain inner (by rw [parts]; exact List.mem_append_right _ member)
  rw [resolve_eq_resolveEach (whole.tidy_first tidy) plainFirst,
    resolve_eq_resolveEach tidy.right plainSecond]
  simp only [resolveEach, replaceGroups, String.toList_append, parts, List.flatMap_append,
    String.ofList_append]

/-- A group that names a variable asks for no generated value. -/
theorem generated?_of_variableName {inner : List Char} {name : String}
    (named : variableName? inner = some name) : ctx.generated? inner = none := by
  have call : generatorCall? inner = none := by
    cases start : Text.trimStart inner with
    | nil => simp [generatorCall?, start]
    | cons c rest =>
      have letter : Text.startsIdentifier c = true := by
        by_contra other
        simp [variableName?, start, Text.readIdentifier, other] at named
      have undollared : c ≠ '$' := by
        rintro rfl
        simp [Text.startsIdentifier, Text.isAsciiLetter] at letter
      simp [generatorCall?, start, undollared]
  simp [generated?, call]

/-- The inside of a group stands for the variable: no captured value goes before it. -/
def Uses (ctx : Context) (name : String) (inner : List Char) : Prop :=
  variableName? inner = some name ∧ ctx.captured? inner = none

/-- What is put in for a variable does not depend on how its group is spelled. -/
theorem Uses.placed?_eq {inner other : List Char} {name : String} (uses : ctx.Uses name inner)
    (again : ctx.Uses name other) (deeper : Nat) (opened : List String) :
    ctx.placed? deeper opened inner = ctx.placed? deeper opened other := by
  simp [placed?, uses.2, again.2, generated?_of_variableName uses.1,
    generated?_of_variableName again.1, bound?, uses.1, again.1]

/-- A text is resolved group by group. -/
structure Groupwise (ctx : Context) (depth : Nat) (text : String) : Prop where
  /-- every group becomes what it becomes by itself, and all else stays -/
  each : ctx.resolve depth text = ctx.resolveEach depth text
  /-- parts may be resolved apart, if no group lies across the joint -/
  parts : ∀ first second, text = first ++ second → WholeGroups first.toList second.toList →
    ctx.resolve depth text = ctx.resolve depth first ++ ctx.resolve depth second
  /-- two groups that name one variable become the same text, or both stay as they stand -/
  alike : ∀ inner other name, .group inner ∈ pieces text.toList → .group other ∈ pieces text.toList →
    ctx.Uses name inner → ctx.Uses name other →
    ctx.resolve depth (String.ofList (groupText inner)) = ctx.resolve depth (String.ofList (groupText other)) ∨
    (ctx.resolve depth (String.ofList (groupText inner)) = String.ofList (groupText inner) ∧
      ctx.resolve depth (String.ofList (groupText other)) = String.ofList (groupText other))

/-- Tidy texts are resolved group by group, if nothing with braces is captured or generated for
their groups. -/
theorem groupwise_of_tidy {text : String} (tidy : Tidy text.toList) (plain : ctx.Plain text.toList)
    (depth : Nat) : ctx.Groupwise depth text where
  each := resolve_eq_resolveEach tidy plain depth
  parts := by
    rintro first second rfl whole
    exact resolve_append tidy plain whole depth
  alike := by
    intro inner other name member again uses usesAgain
    simp only [resolve, String.toList_ofList, resolveWithin_group plain member,
      resolveWithin_group plain again, uses.placed?_eq usesAgain]
    cases ctx.placed? (depth - 1) [] other with
    | none => exact .inr ⟨rfl, rfl⟩
    | some value => exact .inl rfl

def entangled : Context where
  scope := .ofList [("v", "{{w}}/"), ("w", "x{{v}}")]
  store := .ofList [("a", ⟨200, "1", .empty, none, .empty⟩)]
  generate name _ := if name = "now" then some "7" else none

def entangledText : String := "{{v}}-{{ v }}{{a.response.body.*}}{{$now}}\x7b"

theorem pieces_entangled : pieces entangledText.toList =
    [.group ['v'], .char '-', .group [' ', 'v', ' '], .group "a.response.body.*".toList,
      .group "$now".toList, .char '{'] := by decide +kernel

theorem plain_entangled : entangled.Plain entangledText.toList := by
  intro inner member new found
  simp only [pieces_entangled, List.mem_cons, Piece.group.injEq, reduceCtorEq, List.not_mem_nil,
    false_or, or_false] at member
  have value : (entangled.captured? inner).or (entangled.generated? inner) ∈
      [none, some ['1'], some ['7']] := by
    rcases member with rfl | rfl | rfl | rfl <;> decide +kernel
  rw [found] at value
  simp only [List.mem_cons, reduceCtorEq, Option.some.injEq, List.not_mem_nil, or_false,
    false_or] at value
  rcases value with rfl | rfl <;> decide

theorem groupwise_entangled : Tidy entangledText.toList ∧ entangled.Plain entangledText.toList ∧
    entangled.resolve 10 entangledText = "x{{v}}/-x{{v}}/17\x7b" ∧ entangled.Groupwise 10 entangledText := by
  have tidy : Tidy entangledText.toList := by decide +kernel
  exact ⟨tidy, plain_entangled, by decide +kernel, groupwise_of_tidy tidy plain_entangled 10⟩

end Context

end RequestBook
