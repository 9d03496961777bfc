import Mathlib.Data.List.TakeWhile
import WebSocketSession.Text.TypeName

/-!
# Short names of types

The short name of a type is the last segment of what its path says before the generic arguments
(`LastSegment`, `BeforeArguments`). It holds neither an angle bracket nor a double colon, so that
shortening it again changes nothing, and for a path of identifiers it is the last of them
(`short_name_is_last_segment`).
-/

set_option autoImplicit false
set_option relaxedAutoImplicit false

namespace WebSocketSession.TypeName

/-- What a path says before its generic arguments: everything up to the first angle bracket. -/
structure BeforeArguments (path base : List Char) : Prop where
  unopened : '<' ∉ base
  arguments : path = base ∨ ∃ inner, path = base ++ '<' :: inner

/-- The segment after the last double colon, or everything where there is none. -/
inductive LastSegment (base : List Char) : List Char → Prop where
  | whole (apart : ¬ [':', ':'] <:+: base) : LastSegment base base
  | after (front segment : List Char) (split : base = front ++ [':', ':'] ++ segment)
    (last : ∀ other rest, base = other ++ [':', ':'] ++ rest → other.length ≤ front.length) :
    LastSegment base segment

private theorem afterLastColons_cons_of_some {rest tail : List Char}
    (found : afterLastColons rest = some tail) (c : Char) :
    afterLastColons (c :: rest) = some tail := by
  simp only [afterLastColons, found]

private theorem afterLastColons_cons_of_none {rest : List Char} (none : afterLastColons rest = none)
    (c : Char) (tail : List Char) :
    afterLastColons (c :: rest) = some tail ↔ c = ':' ∧ rest = ':' :: tail := by
  simp only [afterLastColons, none]
  constructor
  · intro found
    split at found
    · cases found
      exact ⟨rfl, rfl⟩
    · cases found
  · rintro ⟨rfl, rfl⟩
    rfl

private theorem afterLastColons_eq_none_iff {cs : List Char} :
    afterLastColons cs = none ↔ ¬ [':', ':'] <:+: cs := by
  induction cs with
  | nil => simp [afterLastColons]
  | cons c rest ih =>
    rw [List.infix_cons_iff, not_or, ← ih]
    constructor
    · intro none
      have before : afterLastColons rest = Option.none := by
        cases found : afterLastColons rest with
        | none => rfl
        | some tail =>
          rw [afterLastColons_cons_of_some found] at none
          cases none
      refine ⟨?_, before⟩
      rintro ⟨tail, starts⟩
      obtain ⟨rfl, rfl⟩ := List.cons_eq_cons.mp starts
      have found := (afterLastColons_cons_of_none before ':' tail).mpr ⟨rfl, rfl⟩
      cases none.symm.trans found
    · rintro ⟨apart, before⟩
      apply Option.eq_none_iff_forall_ne_some.mpr
      intro tail found
      obtain ⟨rfl, rfl⟩ := (afterLastColons_cons_of_none before c tail).mp found
      exact apart (List.prefix_append [':', ':'] tail)

/-- The search stops at the last of the double colons: none starts later, not even with the second
of the two colons. -/
private theorem of_afterLastColons_eq_some {cs tail : List Char}
    (found : afterLastColons cs = some tail) :
    ¬ [':', ':'] <:+: ':' :: tail ∧ ∃ front, cs = front ++ [':', ':'] ++ tail := by
  induction cs with
  | nil => cases found
  | cons c rest ih =>
    cases later : afterLastColons rest with
    | some other =>
      rw [afterLastColons_cons_of_some later] at found
      cases found
      obtain ⟨apart, front, split⟩ := ih later
      exact ⟨apart, c :: front, by rw [split]; rfl⟩
    | none =>
      obtain ⟨rfl, rfl⟩ := (afterLastColons_cons_of_none later c tail).mp found
      exact ⟨afterLastColons_eq_none_iff.mp later, [], rfl⟩

private theorem afterLastColons_append {tail : List Char} (apart : ¬ [':', ':'] <:+: ':' :: tail)
    (front : List Char) : afterLastColons (front ++ [':', ':'] ++ tail) = some tail := by
  induction front with
  | nil =>
    have before : afterLastColons (':' :: tail) = none := afterLastColons_eq_none_iff.mpr apart
    exact (afterLastColons_cons_of_none before ':' tail).mpr ⟨rfl, rfl⟩
  | cons c rest ih => exact afterLastColons_cons_of_some ih c

private theorem length_le_of_apart {front tail other rest : List Char}
    (apart : ¬ [':', ':'] <:+: ':' :: tail)
    (split : front ++ [':', ':'] ++ tail = other ++ [':', ':'] ++ rest) :
    other.length ≤ front.length := by
  by_contra further
  have shared : (front ++ [':']) ++ (':' :: tail) = other ++ ([':', ':'] ++ rest) := by
    simpa using split
  have begins : front ++ [':'] <+: other := by
    apply List.prefix_of_prefix_length_le (List.prefix_append _ (':' :: tail))
    · rw [shared]
      exact List.prefix_append _ _
    · simp only [List.length_append, List.length_singleton]
      omega
  obtain ⟨between, rfl⟩ := begins
  rw [List.append_assoc (front ++ [':']), List.append_cancel_left_eq] at shared
  apply apart
  rw [shared]
  exact ⟨between, rest, by simp⟩

private theorem lastSegment_afterLastColons (base : List Char) :
    LastSegment base ((afterLastColons base).getD base) := by
  cases found : afterLastColons base with
  | none => exact .whole (afterLastColons_eq_none_iff.mp found)
  | some tail =>
    obtain ⟨apart, front, split⟩ := of_afterLastColons_eq_some found
    apply LastSegment.after front tail split
    intro other rest same
    exact length_le_of_apart apart (split.symm.trans same)

namespace LastSegment

variable {base segment : List Char}

private theorem isSuffix (last : LastSegment base segment) : segment <:+ base := by
  cases last with
  | whole => exact List.suffix_refl base
  | after front segment split => exact ⟨front ++ [':', ':'], split.symm⟩

private theorem apart (last : LastSegment base segment) : ¬ [':', ':'] <:+: segment := by
  cases last with
  | whole apart => exact apart
  | after front segment split last =>
    rintro ⟨before, rest, rfl⟩
    have further := last (front ++ [':', ':'] ++ before) rest (by simp [split])
    simp only [List.length_append, List.length_cons, List.length_nil] at further
    omega

end LastSegment

private theorem beforeArguments_takeWhile (path : List Char) :
    BeforeArguments path (path.takeWhile (· != '<')) := by
  constructor
  case unopened =>
    intro opened
    have differs := List.mem_takeWhile_imp opened
    simp at differs
  case arguments =>
    have parts := List.takeWhile_append_dropWhile (p := (· != '<')) (l := path)
    cases rest : path.dropWhile (· != '<') with
    | nil =>
      rw [rest, List.append_nil] at parts
      exact .inl parts.symm
    | cons c inner =>
      have opens := List.head_dropWhile_not (· != '<') (w := by rw [rest]; nofun)
      simp only [rest, List.head_cons, bne_eq_false_iff_eq] at opens
      rw [rest, opens] at parts
      exact .inr ⟨inner, parts.symm⟩

private theorem BeforeArguments.eq_takeWhile {path base : List Char}
    (before : BeforeArguments path base) : path.takeWhile (· != '<') = base := by
  have all : ∀ c ∈ base, (c != '<') = true := by
    intro c member
    rw [bne_iff_ne]
    rintro rfl
    exact before.unopened member
  rcases before.arguments with rfl | ⟨inner, rfl⟩
  · exact List.takeWhile_eq_self_iff.mpr all
  · rw [List.takeWhile_append_of_pos all, List.takeWhile_cons_of_neg (by simp), List.append_nil]

private theorem toList_shorten {path : String} {base : List Char}
    (before : BeforeArguments path.toList base) :
    (shorten path).toList = (afterLastColons base).getD base := by
  rw [shorten, before.eq_takeWhile, String.toList_ofList]

private theorem shorten_of_apart {name : String} (unopened : '<' ∉ name.toList)
    (apart : ¬ [':', ':'] <:+: name.toList) : shorten name = name := by
  have before : BeforeArguments name.toList name.toList := ⟨unopened, .inl rfl⟩
  apply String.toList_injective
  rw [toList_shorten before, afterLastColons_eq_none_iff.mpr apart]
  rfl

/-- An identifier holds neither of the characters that may come after one. -/
structure IsIdentifier (name : List Char) : Prop where
  filled : name ≠ []
  noColon : ':' ∉ name
  noBracket : '<' ∉ name

def qualified (modules : List (List Char)) (name : List Char) : List Char :=
  modules.flatMap (· ++ [':', ':']) ++ name

/-- A text names a type: by its identifier, with the modules in front and the generic arguments
behind. An ampersand comes first if it is a reference to a type in a module. -/
inductive Names : List Char → List Char → Prop where
  | intro (lead : List Char) (modules : List (List Char)) (name arguments : List Char)
    (leads : lead = [] ∨ lead = ['&'] ∧ modules ≠ [])
    (identifiers : ∀ identifier ∈ name :: modules, IsIdentifier identifier)
    (generic : arguments = [] ∨ ∃ inner, arguments = '<' :: inner) :
    Names (lead ++ qualified modules name ++ arguments) name

private theorem IsIdentifier.apart {name : List Char} (identifier : IsIdentifier name) :
    ¬ [':', ':'] <:+: ':' :: name := by
  intro colons
  rcases List.infix_cons_iff.mp colons with starts | within
  · have second : [':'] <+: name := (List.cons_prefix_cons.mp starts).2
    exact identifier.noColon (second.subset (List.mem_singleton_self _))
  · exact identifier.noColon (within.subset List.mem_cons_self)

private theorem afterLastColons_qualified {lead name : List Char} {modules : List (List Char)}
    (identifier : IsIdentifier name) (leads : lead = [] ∨ modules ≠ []) :
    (afterLastColons (lead ++ qualified modules name)).getD (lead ++ qualified modules name) =
      name := by
  rcases List.eq_nil_or_concat modules with rfl | ⟨outer, inmost, rfl⟩
  · have apart : ¬ [':', ':'] <:+: name := fun within => identifier.apart (List.infix_cons within)
    obtain rfl : lead = [] := leads.resolve_right fun some => some rfl
    rw [afterLastColons_eq_none_iff.mpr (by simpa [qualified] using apart)]
    rfl
  · have split : lead ++ qualified (outer.concat inmost) name =
        lead ++ outer.flatMap (· ++ [':', ':']) ++ inmost ++ [':', ':'] ++ name := by
      simp [qualified]
    rw [split, afterLastColons_append identifier.apart]
    rfl

private theorem Names.beforeArguments {path last : List Char} (names : Names path last) :
    ∃ base, BeforeArguments path base ∧ (afterLastColons base).getD base = last := by
  obtain ⟨lead, modules, _, arguments, leads, identifiers, generic⟩ := names
  have identifier := identifiers last List.mem_cons_self
  refine ⟨lead ++ qualified modules last, ⟨?_, ?_⟩, ?_⟩
  case refine_1 =>
    intro opened
    rw [qualified, List.mem_append, List.mem_append, List.mem_flatMap] at opened
    rcases opened with early | ⟨module, member, within⟩ | late
    · rcases leads with rfl | ⟨rfl, -⟩ <;> simp at early
    · have noBracket := (identifiers module (List.mem_cons_of_mem last member)).noBracket
      simp [noBracket] at within
    · exact identifier.noBracket late
  case refine_2 =>
    rcases generic with rfl | ⟨inner, rfl⟩
    · exact .inl (List.append_nil _)
    · exact .inr ⟨inner, rfl⟩
  case refine_3 =>
    apply afterLastColons_qualified identifier
    rcases leads with none | ⟨-, some⟩
    · exact .inl none
    · exact .inr some

/-- What shortening makes of a path. -/
structure ShortName (path name : String) : Prop where
  /-- It is the last segment of what comes before the arguments. -/
  segment : ∃ base, BeforeArguments path.toList base ∧ LastSegment base name.toList ∧
    name.toList <:+ base
  unopened : '<' ∉ name.toList
  apart : ¬ [':', ':'] <:+: name.toList
  /-- What the arguments are does not matter, nor whether there are any. -/
  independent : ∀ other base, BeforeArguments path.toList base →
    BeforeArguments other.toList base → shorten other = name
  settled : shorten name = name
  /-- Of a path of identifiers it is the last one. -/
  identifier : ∀ last, Names path.toList last → name.toList = last

/-- Shortening a path of any form. -/
theorem short_name_is_last_segment (path : String) : ShortName path (shorten path) := by
  have before := beforeArguments_takeWhile path.toList
  have name := toList_shorten before
  generalize path.toList.takeWhile (· != '<') = base at before name
  have last : LastSegment base (shorten path).toList := name ▸ lastSegment_afterLastColons base
  have unopened : '<' ∉ (shorten path).toList := fun opened =>
    before.unopened (last.isSuffix.subset opened)
  constructor
  case segment => exact ⟨base, before, last, last.isSuffix⟩
  case unopened => exact unopened
  case apart => exact last.apart
  case settled => exact shorten_of_apart unopened last.apart
  case independent =>
    intro other shared here there
    apply String.toList_injective
    rw [toList_shorten here, toList_shorten there]
  case identifier =>
    intro identifier names
    obtain ⟨own, there, segment⟩ := names.beforeArguments
    rw [toList_shorten there, segment]

/-- A reference to a type in a module, whose arguments are paths with arguments themselves. -/
theorem reference_shortened :
    Names "&alloc::boxed::Wrapper<alloc::vec::Vec<core::Unit>>".toList "Wrapper".toList ∧
      (shorten "&alloc::boxed::Wrapper<alloc::vec::Vec<core::Unit>>").toList =
        "Wrapper".toList := by
  have spelled : "&alloc::boxed::Wrapper<alloc::vec::Vec<core::Unit>>".toList =
      ['&'] ++ qualified ["alloc".toList, "boxed".toList] "Wrapper".toList ++
        "<alloc::vec::Vec<core::Unit>>".toList := by decide
  have names : Names "&alloc::boxed::Wrapper<alloc::vec::Vec<core::Unit>>".toList
      "Wrapper".toList := by
    rw [spelled]
    refine .intro ['&'] _ _ _ (.inr ⟨rfl, nofun⟩) ?_ (.inr ⟨_, rfl⟩)
    intro identifier member
    simp only [List.mem_cons, List.not_mem_nil, or_false] at member
    rcases member with rfl | rfl | rfl <;> constructor <;> decide
  exact ⟨names, (short_name_is_last_segment _).identifier _ names⟩

end WebSocketSession.TypeName
