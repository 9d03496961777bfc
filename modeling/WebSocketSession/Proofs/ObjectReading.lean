import WebSocketSession.Policy.Reader

/-!
# Reading objects

The tokens of a document have a grammar (`Json.Spells`), and skipping a value passes over the tokens
of one value, whatever follows (`Json.skipValue_append`). Reading a policy or overrides from an
object with some members (`Json.IsObject`) is giving the members to an empty draft in turn, each to
the field with its name (`PolicyReader.readDraft_object`).
-/

set_option autoImplicit false
set_option relaxedAutoImplicit false

namespace WebSocketSession

namespace Json

/-- What some tokens are together: a value, or what is left of a list or of an object behind one of
its values. -/
inductive Part where
  | value
  | listRest
  | objectRest

/-- The tokens of each part. -/
inductive Spells : Part → List Token → Prop where
  | null : Spells .value [.null]
  | bool (value : Bool) : Spells .value [.bool value]
  | string (text : Option String) : Spells .value [.string text]
  | number (kind : NumberKind) : Spells .value [.number kind]
  | emptyList : Spells .value [.openBracket, .closeBracket]
  | list {item rest : List Token} (first : Spells .value item) (others : Spells .listRest rest) :
    Spells .value (.openBracket :: (item ++ rest))
  | emptyObject : Spells .value [.openBrace, .closeBrace]
  | object (name : Option String) {value rest : List Token} (first : Spells .value value)
    (others : Spells .objectRest rest) :
    Spells .value (.openBrace :: .string name :: .colon :: (value ++ rest))
  | listEnd : Spells .listRest [.closeBracket]
  | item {item rest : List Token} (next : Spells .value item) (others : Spells .listRest rest) :
    Spells .listRest (.comma :: (item ++ rest))
  | objectEnd : Spells .objectRest [.closeBrace]
  | member (name : Option String) {value rest : List Token} (next : Spells .value value)
    (others : Spells .objectRest rest) :
    Spells .objectRest (.comma :: .string name :: .colon :: (value ++ rest))

/-- A member of an object: its name, and the tokens of its value. A name may be a string without a
text. -/
structure Member where
  name : Option String
  value : List Token

def Member.tokens (member : Member) : List Token := .string member.name :: .colon :: member.value

/-- The text is an object with these members. -/
structure IsObject (text : String) (members : List Member) : Prop where
  tokens : tokens text.toList =
    .openBrace :: ([Token.comma].intercalate (members.map Member.tokens) ++ [.closeBrace])
  values : ∀ member ∈ members, Spells .value member.value

def skipAt : List Container → List Token → Option (List Token)
  | [], ts => skipValue ts
  | inside :: outside, ts => skipWithin inside outside .value ts

def goOn : List Container → List Token → Option (List Token)
  | [], ts => some ts
  | inside :: outside, ts => skipWithin inside outside .commaOrClose ts

def PassesOver : Part → List Token → Prop
  | .value, ts => ∀ outside rest, skipAt outside (ts ++ rest) = goOn outside rest
  | .listRest, ts =>
    ∀ outside rest, skipWithin .list outside .commaOrClose (ts ++ rest) = goOn outside rest
  | .objectRest, ts =>
    ∀ outside rest, skipWithin .object outside .commaOrClose (ts ++ rest) = goOn outside rest

private theorem skipAt_complete {token : Token} (single : Move.atValue token = .complete)
    (outside : List Container) (rest : List Token) :
    skipAt outside (token :: rest) = goOn outside rest := by
  cases outside with
  | nil => simp only [skipAt, skipValue, single, goOn]
  | cons inside outside => simp only [skipAt, skipWithin, Move.of, single, goOn]

private theorem skipAt_enter {token : Token} {container : Container}
    (opens : Move.atValue token = .enter container) (outside : List Container)
    (rest : List Token) :
    skipAt outside (token :: rest) =
      skipWithin container outside (.afterOpening container) rest := by
  cases outside with
  | nil => simp only [skipAt, skipValue, opens]
  | cons inside outside => simp only [skipAt, skipWithin, Move.of, opens]

private theorem skipWithin_leave {inside : Container} {expected : Expect} {token : Token}
    (closes : Move.of inside expected token = .leave) (outside : List Container)
    (rest : List Token) :
    skipWithin inside outside expected (token :: rest) = goOn outside rest := by
  cases outside <;> simp only [skipWithin, closes, goOn]

private theorem skipWithin_first {item : List Token} (spelled : Spells .value item)
    (outside : List Container) (rest : List Token) :
    skipWithin .list outside .valueOrClose (item ++ rest) =
      skipAt (.list :: outside) (item ++ rest) := by
  cases spelled <;> rfl

private theorem passesOver {part : Part} {ts : List Token} (spelled : Spells part ts) :
    PassesOver part ts := by
  induction spelled with
  | null | bool | string | number => exact fun outside rest => skipAt_complete rfl outside rest
  | emptyList =>
    intro outside rest
    exact (skipAt_enter rfl outside _).trans (skipWithin_leave rfl outside rest)
  | emptyObject =>
    intro outside rest
    exact (skipAt_enter rfl outside _).trans (skipWithin_leave rfl outside rest)
  | @list item others first _ value more =>
    intro outside rest
    rw [List.cons_append, List.append_assoc, skipAt_enter rfl]
    exact (skipWithin_first first outside _).trans
      ((value (.list :: outside) _).trans (more outside rest))
  | object name _ _ value more =>
    intro outside rest
    simp only [List.cons_append, List.append_assoc]
    rw [skipAt_enter rfl]
    exact (value (.object :: outside) _).trans (more outside rest)
  | listEnd | objectEnd => exact fun outside rest => skipWithin_leave rfl outside rest
  | item _ _ value more =>
    intro outside rest
    simp only [List.cons_append, List.append_assoc]
    exact (value (.list :: outside) _).trans (more outside rest)
  | member name _ _ value more =>
    intro outside rest
    simp only [List.cons_append, List.append_assoc]
    exact (value (.object :: outside) _).trans (more outside rest)

theorem skipValue_append {value : List Token} (spelled : Spells .value value)
    (rest : List Token) : skipValue (value ++ rest) = some rest :=
  passesOver spelled [] rest

end Json

namespace PolicyReader

open Json

section Values

variable {value : List Token} (spelled : Spells .value value) (rest : List Token)

include spelled

private theorem readLimit_append (form : Form) :
    readLimit form (value ++ rest) = (readLimit form value).map fun found => (found.1, rest) := by
  cases spelled with
  | number kind => cases form <;> cases kind <;> rfl
  | _ => cases form <;> rfl

private theorem readRole_append :
    readRole (value ++ rest) = (readRole value).map fun found => (found.1, rest) := by
  cases spelled with
  | string text =>
    cases text with
    | none => rfl
    | some name =>
      simp only [List.cons_append, readRole]
      cases roleNamed? name <;> rfl
  | object name first others =>
    cases name with
    | none => rfl
    | some name =>
      simp only [List.cons_append, readRole]
      cases roleNamed? name with
      | none => rfl
      | some role =>
        -- The content is told by its first token, and a null by the brace behind it.
        cases first with
        | null => cases others <;> rfl
        | _ => rfl
  | _ => rfl

private theorem readField_append (form : Form) (draft : Draft) (field : Field) :
    readField form draft field (value ++ rest) =
      (readField form draft field value).map fun found => (found.1, rest) := by
  cases field with
  | role =>
    simp only [readField, readRole_append spelled rest]
    cases readRole value <;> rfl
  | _ =>
    simp only [readField, readLimit_append spelled rest]
    cases readLimit form value <;> rfl

private theorem readNamed_append (form : Form) (draft : Draft) (name : String) :
    readNamed form draft name (.colon :: (value ++ rest)) =
      (readNamed form draft name (.colon :: value)).map fun found => (found.1, rest) := by
  have alone := skipValue_append spelled []
  rw [List.append_nil] at alone
  simp only [readNamed]
  split
  · split
    · rfl
    · exact readField_append spelled rest form draft _
  · rw [skipValue_append spelled rest, alone]
    rfl

end Values

def give (form : Form) (draft : Draft) (member : Member) : Except ReadError Draft :=
  match member.name with
  | some name => (readNamed form draft name (.colon :: member.value)).map Prod.fst
  | none => .error .malformed

def following : List Member → List Token
  | [] => [.closeBrace]
  | member :: others => .comma :: (member.tokens ++ following others)

private theorem intercalate_members (member : Member) (others : List Member) :
    [Token.comma].intercalate ((member :: others).map Member.tokens) ++ [.closeBrace] =
      member.tokens ++ following others := by
  induction others generalizing member with
  | nil => simp [following]
  | cons next others ih =>
    rw [following, ← ih next]
    simp [List.intercalate_cons_cons]

def separator (first : Bool) : List Token := if first then [] else [.comma]

private theorem readFields_named (form : Form) (first : Bool) (draft : Draft) (name : String)
    (ts : List Token) :
    readFields form first draft (separator first ++ .string (some name) :: ts) =
      (readNamed form draft name ts).bind fun found => readFields form false found.1 found.2 := by
  cases first with
  | true =>
    rw [separator, if_pos rfl, List.nil_append, readFields]
    generalize readNamed form draft name ts = read
    cases read <;> rfl
  | false =>
    rw [separator, if_neg Bool.false_ne_true, List.singleton_append, readFields]
    generalize readNamed form draft name ts = read
    cases read <;> rfl

private theorem readFields_member {member : Member} (spelled : Spells .value member.value)
    (form : Form)
    (first : Bool) (draft : Draft) (rest : List Token) :
    readFields form first draft (separator first ++ (member.tokens ++ rest)) =
      (give form draft member).bind fun later => readFields form false later rest := by
  simp only [Member.tokens, List.cons_append, give]
  cases member.name with
  | none => cases first <;> simp [separator, readFields, Except.bind]
  | some name =>
    dsimp only
    rw [readFields_named, readNamed_append spelled rest]
    cases readNamed form draft name (.colon :: member.value) <;> rfl

private theorem readFields_following {members : List Member}
    (values : ∀ member ∈ members, Spells .value member.value) (form : Form) (draft : Draft) :
    readFields form false draft (following members) =
      (members.foldlM (give form) draft).map fun later => (later, []) := by
  induction members generalizing draft with
  | nil =>
    rw [following, readFields]
    rfl
  | cons member others ih =>
    obtain ⟨spelled, later⟩ := List.forall_mem_cons.mp values
    have step := readFields_member spelled form false draft (following others)
    rw [following, List.foldlM_cons]
    refine step.trans ?_
    cases give form draft member with
    | error error => rfl
    | ok given => exact ih later given

theorem readDraft_object {text : String} {members : List Member} (object : IsObject text members)
    (form : Form) : readDraft form text = members.foldlM (give form) .empty := by
  have read : readFields form true .empty
      ([Token.comma].intercalate (members.map Member.tokens) ++ [.closeBrace]) =
        (members.foldlM (give form) .empty).map fun later => (later, []) := by
    cases members with
    | nil =>
      rw [List.map_nil, List.intercalate_nil, List.nil_append, readFields]
      rfl
    | cons member others =>
      obtain ⟨spelled, values⟩ := List.forall_mem_cons.mp object.values
      have step := readFields_member spelled form true .empty (following others)
      rw [intercalate_members, List.foldlM_cons]
      refine step.trans ?_
      cases give form .empty member with
      | error error => rfl
      | ok given => exact readFields_following values form given
  rw [readDraft, object.tokens, readBody, read]
  cases members.foldlM (give form) .empty <;> rfl

end PolicyReader

end WebSocketSession
