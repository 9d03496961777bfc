import WebSocketSession.Proofs.ObjectReading

/-!
# The two ways to configure a session

The same object can be read as a policy and as overrides. A draft of overrides is one of a policy
without the role, and a member that the policy takes does the same to both (`give_overrides`); the
other way round, so does a member that the overrides take, unless it is named for the role or gives
a limit as absent (`give_policy`). So both readings come to the same policy
(`configurations_agree`).
-/

set_option autoImplicit false
set_option relaxedAutoImplicit false

namespace WebSocketSession.PolicyReader

open Json

def Draft.withoutRole (draft : Draft) : Draft := { draft with role := none }

private theorem Draft.has_withoutRole (draft : Draft) {field : Field}
    (limit : field ∈ Field.limits) :
    draft.withoutRole.has field = draft.has field := by
  cases field with
  | role => simp [Field.limits] at limit
  | _ => rfl

private theorem Draft.withLimit_withoutRole (draft : Draft) (limit : Option Nat) (field : Field) :
    draft.withoutRole.withLimit limit field = (draft.withLimit limit field).withoutRole := by
  cases field <;> rfl

private theorem Draft.role_withLimit (draft : Draft) (limit : Option Nat) (field : Field) :
    (draft.withLimit limit field).role = draft.role := by
  cases field <;> rfl

private theorem Draft.policy_eq_override (draft : Draft) :
    draft.policy = (Policy.ofRole draft.policy.role).override draft.withoutRole.overrides := rfl

private theorem Draft.policy_of_no_role {draft : Draft} (unset : draft.role = none) :
    draft.policy = Policy.default.override draft.overrides := by
  simp only [policy, unset]
  rfl

private theorem named?_policy (name : String) :
    Field.named? .policy name =
      if name = Field.role.name then some .role else Field.named? .overrides name := by
  rw [Field.named?, Field.ofForm, List.find?_cons]
  split
  · rename_i same
    rw [if_pos (beq_iff_eq.mp same).symm]
  · rename_i other
    rw [if_neg fun same => by simp [same] at other]
    rfl

private theorem mem_limits_of_named? {name : String} {field : Field}
    (found : Field.named? .overrides name = some field) :
    field ∈ Field.limits ∧ field.name = name := by
  refine ⟨List.mem_of_find?_eq_some found, ?_⟩
  have same := List.find?_some (p := fun field : Field => field.name == name) found
  exact beq_iff_eq.mp same

section Giving

variable {form : Form} {draft later : Draft} {member : Member} {name : String} {field : Field}

private theorem exists_name_of_give (given : give form draft member = .ok later) :
    ∃ name, member.name = some name := by
  cases named : member.name with
  | some name => exact ⟨name, rfl⟩
  | none =>
    rw [give, named] at given
    cases given

private theorem give_of_unknown (spelled : Spells .value member.value)
    (named : member.name = some name)
    (unknown : Field.named? form name = none) : give form draft member = .ok draft := by
  have skipped := skipValue_append spelled []
  rw [List.append_nil] at skipped
  simp only [give, named, readNamed, unknown, skipped]
  rfl

private theorem give_of_known (named : member.name = some name)
    (known : Field.named? form name = some field) :
    give form draft member =
      if draft.has field then .error .duplicateField
      else (readField form draft field member.value).map Prod.fst := by
  simp only [give, named, readNamed, known]
  split <;> rfl

private theorem readField_of_limit (form : Form) (draft : Draft) (value : List Token)
    (limit : field ∈ Field.limits) :
    readField form draft field value =
      (readLimit form value).map fun found => (draft.withLimit found.1 field, found.2) := by
  cases field with
  | role => simp [Field.limits] at limit
  | _ => rfl

private theorem give_of_limit (named : member.name = some name)
    (known : Field.named? form name = some field) (limit : field ∈ Field.limits) :
    give form draft member = .ok later ↔ draft.has field = false ∧
      ∃ found, readLimit form member.value = .ok found ∧
        draft.withLimit found.1 field = later := by
  rw [give_of_known named known, readField_of_limit form draft member.value limit]
  cases draft.has field with
  | true => simp
  | false =>
    cases readLimit form member.value with
    | error error => simp [Except.map]
    | ok found => simp [Except.map]

private theorem withoutRole_of_give_role (named : member.name = some Field.role.name)
    (given : give .policy draft member = .ok later) : later.withoutRole = draft.withoutRole := by
  have known : Field.named? .policy Field.role.name = some .role := rfl
  rw [give_of_known named known, readField] at given
  split at given
  · cases given
  · cases read : readRole member.value with
    | error error =>
      rw [read] at given
      cases given
    | ok found =>
      rw [read] at given
      cases given
      rfl

private theorem readLimit_overrides {value : List Token} {found : Option Nat × List Token}
    (read : readLimit .policy value = .ok found) : readLimit .overrides value = .ok found := by
  cases value with
  | nil => exact read
  | cons token rest =>
    cases token with
    | null => cases read
    | _ => exact read

private theorem readLimit_policy {value : List Token} (spelled : Spells .value value)
    (present : value ≠ [.null]) : readLimit .policy value = readLimit .overrides value := by
  cases spelled with
  | null => exact absurd rfl present
  | _ => rfl

theorem give_overrides (spelled : Spells .value member.value)
    (given : give .policy draft member = .ok later) :
    give .overrides draft.withoutRole member = .ok later.withoutRole := by
  obtain ⟨name, named⟩ := exists_name_of_give given
  by_cases role : name = Field.role.name
  · subst role
    rw [give_of_unknown spelled named rfl, withoutRole_of_give_role named given]
  · have policy : Field.named? .policy name = Field.named? .overrides name := by
      rw [named?_policy, if_neg role]
    cases known : Field.named? .overrides name with
    | none =>
      rw [give_of_unknown spelled named (policy.trans known)] at given
      cases given
      exact give_of_unknown spelled named known
    | some field =>
      have limit := (mem_limits_of_named? known).1
      obtain ⟨fresh, found, read, rfl⟩ :=
        (give_of_limit named (policy.trans known) limit).mp given
      refine (give_of_limit named known limit).mpr ⟨?_, found, readLimit_overrides read, ?_⟩
      · rw [draft.has_withoutRole limit, fresh]
      · exact draft.withLimit_withoutRole found.1 field

/-- What the overrides take the policy takes too, if it is no role and no absent limit. -/
theorem give_policy (spelled : Spells .value member.value)
    (other : member.name ≠ some Field.role.name)
    (present : ∀ field ∈ Field.limits, member.name = some field.name → member.value ≠ [.null])
    (given : give .overrides draft member = .ok later) :
    give .policy draft member = .ok later ∧ later.role = draft.role := by
  obtain ⟨name, named⟩ := exists_name_of_give given
  have policy : Field.named? .policy name = Field.named? .overrides name := by
    rw [named?_policy, if_neg fun role => other (by rw [named, role])]
  cases known : Field.named? .overrides name with
  | none =>
    rw [give_of_unknown spelled named known] at given
    cases given
    exact ⟨give_of_unknown spelled named (policy.trans known), rfl⟩
  | some field =>
    obtain ⟨limit, rfl⟩ := mem_limits_of_named? known
    obtain ⟨fresh, found, read, rfl⟩ := (give_of_limit named known limit).mp given
    rw [← readLimit_policy spelled (present field limit named)] at read
    refine ⟨?_, draft.role_withLimit found.1 field⟩
    exact (give_of_limit named (policy.trans known) limit).mpr ⟨fresh, found, read, rfl⟩

end Giving

/-- If one form takes whatever the other does and the drafts stay related, it takes all members that
the other does. -/
private theorem foldlM_related {first second : Form} (Related : Draft → Draft → Prop)
    {members : List Member}
    (step : ∀ member ∈ members, ∀ draft later other, Related draft other →
      give first draft member = .ok later →
        ∃ next, give second other member = .ok next ∧ Related later next)
    {draft later other : Draft} (related : Related draft other)
    (given : members.foldlM (give first) draft = .ok later) :
    ∃ last, members.foldlM (give second) other = .ok last ∧ Related later last := by
  induction members generalizing draft other with
  | nil =>
    cases given
    exact ⟨other, rfl, related⟩
  | cons member others ih =>
    rw [List.foldlM_cons] at given
    cases one : give first draft member with
    | error error =>
      rw [one] at given
      cases given
    | ok between =>
      rw [one] at given
      obtain ⟨next, taken, kept⟩ := step member List.mem_cons_self draft between other related one
      obtain ⟨last, rest, ends⟩ := ih
        (fun member among => step member (List.mem_cons_of_mem _ among)) kept given
      refine ⟨last, ?_, ends⟩
      rw [List.foldlM_cons, taken]
      exact rest

section Members

variable {members : List Member} (values : ∀ member ∈ members, Spells .value member.value)

include values

private theorem foldlM_overrides {draft later : Draft}
    (given : members.foldlM (give .policy) draft = .ok later) :
    members.foldlM (give .overrides) draft.withoutRole = .ok later.withoutRole := by
  have step : ∀ member ∈ members, ∀ draft later other : Draft, other = draft.withoutRole →
      give .policy draft member = .ok later →
        ∃ next, give .overrides other member = .ok next ∧ next = later.withoutRole := by
    rintro member among draft later other rfl one
    exact ⟨later.withoutRole, give_overrides (values member among) one, rfl⟩
  obtain ⟨last, taken, rfl⟩ := foldlM_related _ step rfl given
  exact taken

private theorem foldlM_policy (unnamed : ∀ member ∈ members, member.name ≠ some Field.role.name)
    (present : ∀ member ∈ members, ∀ field ∈ Field.limits, member.name = some field.name →
      member.value ≠ [.null])
    {draft later : Draft} (given : members.foldlM (give .overrides) draft = .ok later) :
    members.foldlM (give .policy) draft = .ok later ∧ later.role = draft.role := by
  have step : ∀ member ∈ members, ∀ before after other : Draft,
      other = before ∧ before.role = draft.role → give .overrides before member = .ok after →
        ∃ next, give .policy other member = .ok next ∧ next = after ∧ after.role = draft.role := by
    rintro member among before after other ⟨rfl, same⟩ one
    obtain ⟨taken, kept⟩ :=
      give_policy (values member among) (unnamed member among) (present member among) one
    exact ⟨after, taken, rfl, kept.trans same⟩
  obtain ⟨last, taken, rfl, kept⟩ :=
    foldlM_related (fun before other => other = before ∧ before.role = draft.role) step
      ⟨rfl, rfl⟩ given
  exact ⟨taken, kept⟩

end Members

private theorem map_readDraft_object {text : String} {members : List Member}
    (object : IsObject text members) (form : Form) {α : Type} (finish : Draft → α) (made : α) :
    (readDraft form text).map finish = .ok made ↔
      ∃ draft, members.foldlM (give form) .empty = .ok draft ∧ finish draft = made := by
  rw [readDraft_object object]
  cases members.foldlM (give form) .empty with
  | error error => simp [Except.map]
  | ok draft => simp [Except.map]

/-- An object that is read as a policy is read as overrides, and the policy is the default one of
its role with these overrides. An object that is read as overrides, names no role and gives no limit
as absent is read as a policy, which is the default one with the overrides. -/
theorem configurations_agree {text : String} {members : List Member}
    (object : IsObject text members) :
    (∀ policy, readPolicy text = .ok policy → ∃ overrides,
      readOverrides text = .ok overrides ∧
        policy = (Policy.ofRole policy.role).override overrides) ∧
    (∀ overrides, readOverrides text = .ok overrides →
      (∀ member ∈ members, member.name ≠ some Field.role.name) →
      (∀ member ∈ members, ∀ field ∈ Field.limits, member.name = some field.name →
        member.value ≠ [.null]) →
      readPolicy text = .ok (Policy.default.override overrides)) := by
  constructor
  · intro policy read
    obtain ⟨draft, given, rfl⟩ := (map_readDraft_object object .policy _ _).mp read
    refine ⟨draft.withoutRole.overrides, ?_, draft.policy_eq_override⟩
    exact (map_readDraft_object object .overrides _ _).mpr
      ⟨draft.withoutRole, foldlM_overrides object.values given, rfl⟩
  · intro overrides read unnamed present
    obtain ⟨draft, given, rfl⟩ := (map_readDraft_object object .overrides _ _).mp read
    obtain ⟨taken, unset⟩ := foldlM_policy object.values unnamed present given
    exact (map_readDraft_object object .policy _ _).mpr
      ⟨draft, taken, Draft.policy_of_no_role unset⟩

/-- A limit given as absent inside a value that nobody asked for is no absent limit. -/
theorem nested_null_read_both_ways :
    let text := "\x7b\"x\":\x7b\"buffer_size\":null\x7d,\"buffer_size\":5\x7d"
    let members : List Member := [⟨some "x",
        [.openBrace, .string (some "buffer_size"), .colon, .null, .closeBrace]⟩,
      ⟨some "buffer_size", [.number (.size 5)]⟩]
    let overrides : Overrides := ⟨some 5, none, none, none⟩
    let policy : Policy := Policy.default.override overrides
    IsObject text members ∧ readOverrides text = .ok overrides ∧ readPolicy text = .ok policy ∧
      ∃ given, readOverrides text = .ok given ∧
        policy = (Policy.ofRole policy.role).override given := by
  intro text members overrides policy
  have object : IsObject text members := by
    constructor
    case tokens => decide +kernel
    case values =>
      intro member among
      simp only [members, List.mem_cons, List.not_mem_nil, or_false] at among
      rcases among with rfl | rfl
      · exact .object _ .null .objectEnd
      · exact .number _
  have overridden : readOverrides text = .ok overrides :=
    (map_readDraft_object object .overrides _ _).mpr
      ⟨⟨none, some (some 5), none, none, none⟩, rfl, rfl⟩
  have read : readPolicy text = .ok policy :=
    (configurations_agree object).2 overrides overridden (by decide) (by decide)
  exact ⟨object, overridden, read, (configurations_agree object).1 policy read⟩

end WebSocketSession.PolicyReader
