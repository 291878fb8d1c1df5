import PubSub.Proofs.Ownership.Native

/-!
Numbers of resources.  The transport numbers contexts and the endpoints of publishers and subscriptions.
Each number that was given out belongs to one handle, and an endpoint is there exactly while its handle is.
-/

namespace PubSub

structure Numbered (forest : Forest Resource) (number? : Resource → Option Nat) (next : Nat) : Prop where
  made_iff : ∀ index, index < next ↔
    ∃ handle content, forest.identity? handle = some content ∧ number? content.2.1 = some index
  unique : ∀ index left right leftContent rightContent, forest.identity? left = some leftContent →
    forest.identity? right = some rightContent → number? leftContent.2.1 = some index →
    number? rightContent.2.1 = some index → left = right

def Present (forest : Forest Resource) (number? : Resource → Option Nat) (contains : Nat → Bool) :
    Prop :=
  ∀ index, contains index = true ↔
    ∃ handle held, forest.get? handle = some held ∧ number? held.resource = some index

variable {forest later : Forest Resource} {outside : Nat → Nat} {number? : Resource → Option Nat}
  {next : Nat} {contains : Nat → Bool}

theorem Numbered.congr (numbered : Numbered forest number? next)
    (same : ∀ handle, later.identity? handle = forest.identity? handle) :
    Numbered later number? next := by
  constructor
  · intro index
    simp only [same]
    exact numbered.made_iff index
  · intro index left right leftContent rightContent leftKnown rightKnown
    rw [same] at leftKnown rightKnown
    exact numbered.unique index left right leftContent rightContent leftKnown rightKnown

theorem Present.congr (present : Present forest number? contains)
    (same : ∀ handle, (later.get? handle).map Handle.content =
      (forest.get? handle).map Handle.content) : Present later number? contains := by
  have through : ∀ {before after : Forest Resource} {handle : Nat} {held : Handle Resource},
      (after.get? handle).map Handle.content = (before.get? handle).map Handle.content →
      before.get? handle = some held →
      ∃ other, after.get? handle = some other ∧ other.resource = held.resource := by
    intro before after handle held equal found
    rw [found, Option.map_some, Option.map_eq_some_iff] at equal
    obtain ⟨other, there, content⟩ := equal
    exact ⟨other, there, congrArg (fun triple => triple.2.1) content⟩
  intro index
  rw [present index]
  constructor
  · rintro ⟨handle, held, found, number⟩
    obtain ⟨other, there, resource⟩ := through (same handle) found
    exact ⟨handle, other, there, resource ▸ number⟩
  · rintro ⟨handle, held, found, number⟩
    obtain ⟨other, there, resource⟩ := through (same handle).symm found
    exact ⟨handle, other, there, resource ▸ number⟩

/-- A resource takes the next number of its sort, or is of another sort. -/
def Takes (number : Option Nat) (next after : Nat) : Prop :=
  number = none ∧ after = next ∨ number = some next ∧ after = next + 1

section Make

variable {kind : Bytes} {resource : Resource} {parent : Option Nat} {after : Nat}

theorem Numbered.make (numbered : Numbered forest number? next) (recorded : forest.Recorded)
    (takes : Takes (number? resource) next after) :
    Numbered (forest.make kind resource parent).2 number? after := by
  have unknown : forest.identity? forest.handles.next = none := by
    cases known : forest.identity? forest.handles.next with
    | none => rfl
    | some content =>
        exact absurd ((recorded.made_iff _).2 ⟨content, known⟩) (Nat.lt_irrefl _)
  have below : ∀ handle content index, forest.identity? handle = some content →
      number? content.2.1 = some index → index < next := fun handle content index known number =>
    (numbered.made_iff index).2 ⟨handle, content, known, number⟩
  constructor
  · intro index
    constructor
    · intro early
      by_cases old : index < next
      · obtain ⟨handle, content, known, number⟩ := (numbered.made_iff index).1 old
        refine ⟨handle, content, ?_, number⟩
        rw [forest.identity?_make, if_neg]
        · exact known
        · intro same
          rw [same, unknown] at known
          cases known
      · rcases takes with ⟨_, rfl⟩ | ⟨taken, rfl⟩
        · exact absurd early old
        · refine ⟨forest.handles.next, (kind, resource, parent), ?_, ?_⟩
          · rw [forest.identity?_make, if_pos rfl]
          · rw [taken, Option.some.injEq]
            omega
    · rintro ⟨handle, content, known, number⟩
      rw [forest.identity?_make] at known
      by_cases new : handle = forest.handles.next
      · rw [if_pos new, Option.some.injEq] at known
        subst content
        rcases takes with ⟨other, _⟩ | ⟨taken, rfl⟩
        · rw [other] at number
          cases number
        · rw [taken, Option.some.injEq] at number
          omega
      · rw [if_neg new] at known
        have old := below handle content index known number
        rcases takes with ⟨_, rfl⟩ | ⟨_, rfl⟩
        · exact old
        · omega
  · intro index left right leftContent rightContent leftKnown rightKnown leftNumber rightNumber
    have old : ∀ handle content, handle ≠ forest.handles.next →
        (forest.make kind resource parent).2.identity? handle = some content →
        forest.identity? handle = some content := by
      intro handle content different known
      rwa [forest.identity?_make, if_neg different] at known
    have new : ∀ handle content, handle = forest.handles.next →
        (forest.make kind resource parent).2.identity? handle = some content →
        number? content.2.1 = some index → index = next := by
      intro handle content same known number
      rw [forest.identity?_make, if_pos same, Option.some.injEq] at known
      subst content
      rcases takes with ⟨other, _⟩ | ⟨taken, _⟩
      · rw [other] at number
        cases number
      · rw [taken, Option.some.injEq] at number
        exact number.symm
    by_cases leftNew : left = forest.handles.next
    · by_cases rightNew : right = forest.handles.next
      · exact leftNew.trans rightNew.symm
      · have first := new left leftContent leftNew leftKnown leftNumber
        have second := below right rightContent index (old right rightContent rightNew rightKnown)
          rightNumber
        omega
    · by_cases rightNew : right = forest.handles.next
      · have first := new right rightContent rightNew rightKnown rightNumber
        have second := below left leftContent index (old left leftContent leftNew leftKnown)
          leftNumber
        omega
      · exact numbered.unique index left right leftContent rightContent
          (old left leftContent leftNew leftKnown) (old right rightContent rightNew rightKnown)
          leftNumber rightNumber

theorem Present.make (present : Present forest number? contains) {contains' : Nat → Bool}
    (more : ∀ index, contains' index = true ↔
      contains index = true ∨ number? resource = some index) :
    Present (forest.make kind resource parent).2 number? contains' := by
  have content := forest.content_make kind resource parent
  have free : forest.get? forest.handles.next = none := Arena.get?_next _
  intro index
  rw [more, present index]
  constructor
  · rintro (⟨handle, held, found, number⟩ | taken)
    · have same := content handle
      rw [if_neg (by intro equal; rw [equal, free] at found; cases found), found, Option.map_some,
        Option.map_eq_some_iff] at same
      obtain ⟨other, there, equal⟩ := same
      have resources : other.resource = held.resource := congrArg (fun triple => triple.2.1) equal
      exact ⟨handle, other, there, resources ▸ number⟩
    · have same := content forest.handles.next
      rw [if_pos rfl, Option.map_eq_some_iff] at same
      obtain ⟨other, there, equal⟩ := same
      have resources : other.resource = resource := congrArg (fun triple => triple.2.1) equal
      exact ⟨forest.handles.next, other, there, resources ▸ taken⟩
  · rintro ⟨handle, held, found, number⟩
    have same := content handle
    rw [found, Option.map_some] at same
    by_cases new : handle = forest.handles.next
    · rw [if_pos new, Option.some.injEq] at same
      have resources : held.resource = resource := congrArg (fun triple => triple.2.1) same
      exact .inr (resources ▸ number)
    · rw [if_neg new, eq_comm, Option.map_eq_some_iff] at same
      obtain ⟨other, there, equal⟩ := same
      have resources : other.resource = held.resource := congrArg (fun triple => triple.2.1) equal
      exact .inl ⟨handle, other, there, resources ▸ number⟩

end Make

section Release

variable {State : Type} {finalize : Handle Resource → Option (Handle Resource) → State → State}
  {chain : List (Nat × Handle Resource)} {state after : State}

theorem Present.releases (present : Present forest number? contains)
    (numbered : Numbered forest number? next)
    (released : Forest.Releases finalize forest later chain state after) {contains' : Nat → Bool}
    (fewer : ∀ index, contains' index = true ↔ contains index = true ∧
      ∀ resource ∈ chain.map (fun entry => entry.2.resource), number? resource ≠ some index) :
    Present later number? contains' := by
  intro index
  rw [fewer, present index]
  constructor
  · rintro ⟨⟨handle, held, found, number⟩, others⟩
    have stays : handle ∉ chain.map Prod.fst := by
      intro goes
      obtain ⟨entry, member, rfl⟩ := List.mem_map.mp goes
      have same := released.held entry member
      rw [found, Option.some.injEq] at same
      subst held
      exact others _ (List.mem_map_of_mem member) number
    have kept := released.kept handle stays
    rw [found, Option.map_some, Option.map_eq_some_iff] at kept
    obtain ⟨other, there, equal⟩ := kept
    have resources : other.resource = held.resource := congrArg (fun triple => triple.2.1) equal
    exact ⟨handle, other, there, resources ▸ number⟩
  · rintro ⟨handle, held, found, number⟩
    have stays : handle ∉ chain.map Prod.fst := by
      intro goes
      obtain ⟨entry, member, rfl⟩ := List.mem_map.mp goes
      rw [released.gone entry member] at found
      cases found
    have kept := released.kept handle stays
    rw [found, Option.map_some, eq_comm, Option.map_eq_some_iff] at kept
    obtain ⟨other, there, equal⟩ := kept
    have resources : other.resource = held.resource := congrArg (fun triple => triple.2.1) equal
    have owns : number? other.resource = some index := resources ▸ number
    refine ⟨⟨handle, other, there, owns⟩, ?_⟩
    intro resource member taken
    obtain ⟨entry, goes, rfl⟩ := List.mem_map.mp member
    have same := numbered.unique index entry.1 handle _ _
      (Forest.identity?_of_get? (released.held entry goes)) (Forest.identity?_of_get? there) taken owns
    exact stays (same ▸ List.mem_map_of_mem goes)

end Release

end PubSub
